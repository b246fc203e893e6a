import LoginGateway.Proofs.CallbackEndpoint
import LoginGateway.Proofs.UrlRoundTrip

/-! The way to the provider. A visitor without a session gets the URL that is set for logins,
with the parameters of the login behind those it has already. Nothing of the address that was
asked for gets out of its parameter: read again, the URL has all parts it was set with and
exactly these pairs. Only a label of the set URL that has become too long keeps the whole from
being read again. -/

namespace LoginGateway

namespace Provider

variable {provider : Provider}

theorem loginUrl_spec (written : provider.authorizationUrl.IsWritten) (state hint : String) :
    ∃ query, provider.loginUrl state hint = { provider.authorizationUrl with query := some query } ∧
      (provider.loginUrl state hint).IsWritten := by
  obtain ⟨query, same, encoded⟩ :=
    Url.appendPairs_spec written (provider.authorizationPairs state hint)
  refine ⟨query, same, ?_⟩
  rw [loginUrl, same]
  exact written.withQuery encoded

theorem parse_loginUrl (written : provider.authorizationUrl.IsWritten)
    (readable : provider.authorizationUrl.IsReadable) (state hint : String) :
    ∃ login, Url.parse (provider.loginUrl state hint).text = .ok login ∧
      login = { provider.authorizationUrl with query := login.query } ∧
      login.queryPairs =
        provider.authorizationUrl.queryPairs ++ provider.authorizationPairs state hint := by
  obtain ⟨query, same, again⟩ := loginUrl_spec written state hint
  have pairs := Url.queryPairs_appendPairs provider.authorizationUrl
    (provider.authorizationPairs state hint)
  rw [← loginUrl] at pairs
  rw [same] at again pairs ⊢
  exact ⟨_, again.parse_text (Option.some_ne_none query) readable, rfl, pairs⟩

theorem parse_loginUrl_unreadable (written : provider.authorizationUrl.IsWritten)
    (unreadable : ¬ provider.authorizationUrl.IsReadable) (state hint : String) :
    Url.parse (provider.loginUrl state hint).text = .error .domain := by
  obtain ⟨query, same, again⟩ := loginUrl_spec written state hint
  rw [same] at again ⊢
  exact again.parse_text_unreadable (Option.some_ne_none query) unreadable

end Provider

namespace Gateway

variable {settings : Settings} {environment : Environment} {key : SigningKey}
  {provider : Provider} {gateway : Gateway} {route : Route} {request : Request} {cache : Cache}

theorem location_of_stranger (written : gateway.provider.authorizationUrl.IsWritten)
    (found : gateway.routes.find? (requestHost request) = some route)
    (errand : Errand.ofPath request.target.path = .relay)
    (stranger : (Session.visitor request.headers gateway.key cache).1 = none) (outside : Outside) :
    (gateway.handle outside cache request).reply = .value ⟨302, [("location", octets (String.ofList
      (gateway.provider.loginUrl (gateway.stateOf route request.target) gateway.domainHint).text))],
      .fixed []⟩ := by
  obtain ⟨_, _, login⟩ := Provider.loginUrl_spec written
    (gateway.stateOf route request.target) gateway.domainHint
  rw [reply_of_stranger found errand stranger outside, toProvider, Response.found_of_valid]
  · rfl
  · rw [octets, String.toList_ofList]
    exact Headers.isValue_of_printable login.printable_text

/-- The parameters of a login as they are set, for the address that was asked for. -/
def loginPairs (settings : Settings) (environment : Environment) (state : String) :
    List (String × String) :=
  [("response_type", "code"), ("client_id", settings.oauth.resolvedId environment),
    ("redirect_uri", Provider.redirectUriOf settings),
    ("scope", " ".intercalate settings.oauth.scopes), ("state", state)] ++
  if settings.oauth.domainHint = "" then [] else [("hd", settings.oauth.domainHint)]

/-- A visitor without a session is sent to the URL that is set for logins, with the address
that was asked for in it, and to no URL at all if a label of the one that is set is too long to
be read again. -/
theorem authorization_redirect
    (offered : Provider.ofSettings settings environment = .ok provider)
    (made : Gateway.ofSettings settings key provider = .ok gateway)
    (found : gateway.routes.find? (requestHost request) = some route)
    (errand : Errand.ofPath request.target.path = .relay)
    (stranger : (Session.visitor request.headers gateway.key cache).1 = none) (outside : Outside) :
    ∃ asked location, Url.parse settings.oauth.authorizationUrl.toList = .ok asked ∧
      (gateway.handle outside cache request).reply =
        .value ⟨302, [("location", octets location)], .fixed []⟩ ∧
      (asked.IsReadable → ∃ login, Url.parse location.toList = .ok login ∧
        login = { asked with query := login.query } ∧
        login.queryPairs = asked.queryPairs ++ loginPairs settings environment
          (settings.server.scheme ++ "://" ++ route.host ++ request.target.pathAndQuery)) ∧
      (¬ asked.IsReadable → Url.parse location.toList = .error .domain) ∧
      ∀ text rest, text.toList = '/' :: rest → Target.parse? text = some request.target →
        request.target.pathAndQuery.toList = text.toList.takeWhile (· ≠ '#') := by
  obtain ⟨asked, read, rfl⟩ := Provider.eq_of_ofSettings offered
  obtain ⟨routes, _, rfl⟩ := eq_of_ofSettings made
  have written := Url.isWritten_of_parse read
  refine ⟨asked, _, read, location_of_stranger written found errand stranger outside, ?_, ?_, ?_⟩
  · intro readable
    rw [String.toList_ofList]
    exact Provider.parse_loginUrl written readable _ _
  · intro unreadable
    rw [String.toList_ofList]
    exact Provider.parse_loginUrl_unreadable written unreadable _ _
  · intro text rest starts received
    rw [Target.parse?, starts] at received
    rw [starts]
    exact Target.pathAndQuery_of_slash received

end Gateway

namespace OneRoute
open Gateway

def askingAt (url : String) : Settings :=
  { settings with oauth := ⟨"id", "secret", "org.com", url, "", "", ["email", "profile"]⟩ }

def providerAt (url : Url) : Provider :=
  ⟨"id", "secret", url, "", "", Provider.redirectUriOf settings, ["email", "profile"]⟩

def gatewayAt (url : Url) : Gateway := { gateway with provider := providerAt url }

theorem offered_at {text : String} {url : Url} (read : Url.parse text.toList = .ok url) :
    Provider.ofSettings (askingAt text) [] = .ok (providerAt url) := by
  have id : (askingAt text).oauth.resolvedId [] = "id" := by
    change Environment.resolve [] "id" = "id"
    decide
  have secret : (askingAt text).oauth.resolvedSecret [] = "secret" := by
    change Environment.resolve [] "secret" = "secret"
    decide
  have back : Provider.redirectUriOf (askingAt text) = Provider.redirectUriOf settings := rfl
  rw [Provider.ofSettings, id, secret, back]
  simp only [askingAt, read, providerAt]

theorem configured_asking (text : String) (url : Url) :
    Gateway.ofSettings (askingAt text) ⟨[]⟩ (providerAt url) = .ok (gatewayAt url) := by
  have made : Gateway.ofSettings (askingAt text) ⟨[]⟩ provider = .ok gateway := configured
  have hub : canonicalHost (publicHost "sso.org.com" 80) = "sso.org.com" := by decide
  change Gateway.ofSettings { askingAt text with host := "sso.org.com" } ⟨[]⟩ (providerAt url) = _
  rw [ofSettings_host, made]
  change Except.ok { gatewayAt url with
    hubHost := canonicalHost (publicHost "sso.org.com" 80) } = .ok (gatewayAt url)
  rw [hub]
  rfl

def entranceText : String := "https://me:pw@accounts.org.com:8443/a%20b/?x=1&y#top"

def entrance : Url where
  scheme := "https".toList
  username := "me".toList
  password := "pw".toList
  host := some (.domain "accounts.org.com".toList)
  port := some 8443
  path := .segments ["a%20b".toList, []]
  query := some "x=1&y".toList
  fragment := some "top".toList

theorem authorization_redirect_to_entrance :
    Provider.ofSettings (askingAt entranceText) [] = .ok (providerAt entrance) ∧
      Gateway.ofSettings (askingAt entranceText) ⟨[]⟩ (providerAt entrance) =
        .ok (gatewayAt entrance) ∧
      (gatewayAt entrance).routes.find? (requestHost deepVisit) = some app ∧
      Errand.ofPath deepVisit.target.path = .relay ∧
      (Session.visitor deepVisit.headers (gatewayAt entrance).key (.empty 0)).1 = none ∧
      ∃ location login,
        ((gatewayAt entrance).handle outside (.empty 0) deepVisit).reply =
          .value ⟨302, [("location", octets location)], .fixed []⟩ ∧
        Url.parse location.toList = .ok login ∧ login = { entrance with query := login.query } ∧
        login.queryPairs = [("x", "1"), ("y", ""), ("response_type", "code"), ("client_id", "id"),
          ("redirect_uri", "http://sso.org.com/__auth__/"), ("scope", "email profile"),
          ("state", "http://app.org.com/reports//2024%2F05?next=//evil.com\\&q=+%25|"),
          ("hd", "org.com")] := by
  have read : Url.parse entranceText.toList = .ok entrance := by decide +kernel
  have found : (gatewayAt entrance).routes.find? (requestHost deepVisit) = some app :=
    visits_deep.host
  have stranger :
      (Session.visitor deepVisit.headers (gatewayAt entrance).key (.empty 0)).1 = none := rfl
  obtain ⟨asked, location, asks, answered, again, _⟩ := authorization_redirect
    (offered_at read) (configured_asking entranceText entrance) found visits_deep.errand stranger
    outside
  cases asks.symm.trans read
  obtain ⟨login, parsed, same, pairs⟩ := again (by decide)
  have own : entrance.queryPairs = [("x", "1"), ("y", "")] := by decide +kernel
  rw [own] at pairs
  exact ⟨offered_at read, configured_asking entranceText entrance, found, visits_deep.errand,
    stranger, location, login, answered, parsed, same, pairs.trans (by decide)⟩

end OneRoute

end LoginGateway
