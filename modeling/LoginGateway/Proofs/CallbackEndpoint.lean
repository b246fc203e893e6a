import LoginGateway.Proofs.LoginHandshake

/-! Where logins come back. The provider is told a URL that is made of the hub's host as
it is set, and requests for that URL are told apart by the hosts of the routes alone. So
they are taken for logins exactly if no route is set for the host of the URL. -/

namespace LoginGateway

open Url

namespace Provider

/-- What the provider is made of settings: only its URL can be refused. -/
theorem eq_of_ofSettings {settings : Settings} {environment : Environment}
    {provider : Provider} (offered : Provider.ofSettings settings environment = .ok provider) :
    ∃ asked, Url.parse settings.oauth.authorizationUrl.toList = .ok asked ∧ provider = {
      clientId := settings.oauth.resolvedId environment
      clientSecret := settings.oauth.resolvedSecret environment
      authorizationUrl := asked
      tokenUrl := settings.oauth.tokenUrl
      userinfoUrl := settings.oauth.userinfoUrl
      redirectUri := redirectUriOf settings
      scopes := settings.oauth.scopes } := by
  rw [Provider.ofSettings] at offered
  split at offered
  next => cases offered
  next asked read =>
    cases offered
    exact ⟨asked, read, rfl⟩

theorem redirectUri_of_ofSettings {settings : Settings} {environment : Environment}
    {provider : Provider} (offered : Provider.ofSettings settings environment = .ok provider) :
    provider.redirectUri = redirectUriOf settings := by
  obtain ⟨asked, _, rfl⟩ := eq_of_ofSettings offered
  rfl

end Provider

theorem isPlaceChar_publicHost {name : String}
    (plain : ∀ char ∈ name.toList, isPlaceChar char = true) (port : UInt16) :
    ∀ char ∈ (publicHost name port).toList, isPlaceChar char = true := by
  intro char inside
  rw [publicHost] at inside
  split at inside
  · exact plain char inside
  · simp only [String.toList_append, List.mem_append] at inside
    rcases inside with (named | colon) | digits
    · exact plain char named
    · rw [List.mem_singleton.mp colon]
      decide
    · exact isPlaceChar_of_isHostChar (isHostChar_of_mem_repr port.toNat char digits)

theorem publicHost_ne_nil {settings : Settings} {environment : Environment}
    (valid : settings.validate environment = .ok ()) :
    (publicHost settings.host settings.server.port).toList ≠ [] := by
  have filled : settings.host ≠ "" := by
    intro empty
    rw [Settings.validate, if_pos (by rw [empty]; decide)] at valid
    cases valid
  have named : settings.host.toList ≠ [] := fun empty => filled (String.toList_inj.mp empty)
  rw [publicHost]
  split
  · exact named
  · simp only [String.toList_append, List.append_assoc]
    exact List.append_ne_nil_of_left_ne_nil named _

namespace Gateway

variable {settings : Settings} {environment : Environment} {key : SigningKey}
  {provider : Provider} {gateway : Gateway} {request : Request}

theorem handle_of_authPath (asked : request.target.path = authPath) (outside : Outside)
    (cache : Cache) :
    (gateway.routes.find? (requestHost request) = none →
      gateway.handle outside cache request =
        gateway.callback outside request.target.query cache) ∧
    (gateway.routes.find? (requestHost request) ≠ none →
      gateway.handle outside cache request =
        gateway.completeBridge request.target.query cache) := by
  constructor
  · intro absent
    have errand : HubErrand.ofPath request.target.path = .callback := by
      rw [asked]
      decide
    have here : gateway.AtHub request .callback := ⟨absent, errand⟩
    exact here.callback outside cache
  · intro present
    obtain ⟨route, found⟩ := Option.ne_none_iff_exists'.mp present
    have errand : Errand.ofPath request.target.path = .bridge := by
      rw [asked]
      decide
    have here : gateway.AtRoute request .bridge := ⟨⟨route, found⟩, errand⟩
    exact here.bridge outside cache

/-- If a URL can be made of the hub's host, the place where logins come back is a URL on
that host, without credentials, query and fragment. Whoever asks for it, with any query,
comes to the end of a login at the hub if no route is set for the host of the URL, and to
the bridge of a route otherwise. -/
theorem callback_endpoint (valid : settings.validate environment = .ok ())
    (offered : Provider.ofSettings settings environment = .ok provider)
    (configured : Gateway.ofSettings settings key provider = .ok gateway)
    (plain : ∀ char ∈ settings.host.toList, isPlaceChar char = true) {front : Url}
    (named : Url.parse (settings.server.scheme ++ "://" ++
      publicHost settings.host settings.server.port ++ "/").toList = .ok front) :
    ∃ server host,
      Url.parse provider.redirectUri.toList =
        .ok (authUrl settings.server.scheme.toList server none) ∧
      (authUrl settings.server.scheme.toList server none).SamePlace front ∧
      front.hostAndPort? = some host ∧
      (host = (publicHost settings.host settings.server.port).toList →
        canonicalHost (String.ofList host) = gateway.hubHost) ∧
      ∀ request, requestHost request = canonicalHost (String.ofList host) →
        request.target.path = authPath → ∀ outside cache,
        ((∀ setting ∈ settings.routes,
            RouteTable.hostOf setting settings.server.port ≠ requestHost request) →
          gateway.handle outside cache request =
            gateway.callback outside request.target.query cache) ∧
        ((∃ setting ∈ settings.routes,
            RouteTable.hostOf setting settings.server.port = requestHost request) →
          gateway.handle outside cache request =
            gateway.completeBridge request.target.query cache) := by
  have web := Settings.isWeb_of_validate valid
  have place := isPlaceChar_publicHost plain settings.server.port
  have filled := publicHost_ne_nil valid
  rw [toList_address] at named
  obtain ⟨host, found, text, read⟩ := (rooted_of_web web named).host
  rw [(isSpecial_web web).1] at read
  have authority := hostAndPort?_of_host found (Host.isRead_of_readHost read).text_ne_nil
  rw [parse_place web place filled follows_slash] at named
  cases served : readServer settings.server.scheme.toList
      (publicHost settings.host settings.server.port).toList with
  | error fault =>
    rw [served] at named
    cases named
  | ok server =>
    rw [served] at named
    cases named
    have ends : Follows authPath.toList := by
      rw [← List.append_nil authPath.toList]
      exact follows_authPath []
    have back : Url.parse provider.redirectUri.toList =
        .ok (authUrl settings.server.scheme.toList server none) := by
      rw [Provider.redirectUri_of_ofSettings offered, Provider.redirectUriOf, toList_address,
        parse_place web place filled ends, served,
        cleanEnd_inner fun char inside => (plain_authPath char inside).1]
      rfl
    refine ⟨server, _, back, ⟨rfl, rfl, rfl⟩, authority, ?_, ?_⟩
    · intro same
      rw [same, String.ofList_toList, (names_ofSettings configured).2]
    · intro request _ asked outside cache
      obtain ⟨atHub, atRoute⟩ := handle_of_authPath asked outside cache
      have routed := find?_eq_none_iff configured (requestHost request)
      refine ⟨fun foreign => atHub (routed.mpr foreign), fun ⟨setting, among, same⟩ => ?_⟩
      exact atRoute fun absent => routed.mp absent setting among same

theorem ofSettings_host (host : String) (other : Provider) :
    Gateway.ofSettings { settings with host } key other =
      (Gateway.ofSettings settings key provider).map fun gateway =>
        { gateway with
          hubHost := canonicalHost (publicHost host settings.server.port), provider := other } := by
  rw [Gateway.ofSettings, Gateway.ofSettings]
  cases RouteTable.ofSettings settings.routes settings.server.port <;> rfl

end Gateway

namespace OneRoute
open Gateway

def offering : Settings :=
  { settings with oauth := ⟨"id", "secret", "org.com", "http://provider:8080/", "", "", []⟩ }

theorem offered (host : String) : Provider.ofSettings { offering with host } [] =
    .ok { provider with redirectUri := "http://" ++ publicHost host 80 ++ authPath } := by
  have read : Url.parse "http://provider:8080/".toList = .ok provider.authorizationUrl := by
    decide +kernel
  rw [Provider.ofSettings]
  simp only [offering, read]
  rfl

theorem configured_at (host : String) (other : Provider) :
    Gateway.ofSettings { offering with host } ⟨[]⟩ other =
      .ok { gateway with hubHost := canonicalHost (publicHost host 80), provider := other } := by
  have made : Gateway.ofSettings offering ⟨[]⟩ provider = .ok gateway := configured
  rw [ofSettings_host host other, made]
  rfl

def comingBack (host : String) : Request :=
  get host "/__auth__/" (some "state=http%3A%2F%2Fapp.org.com%2F&code=1")

theorem callback_endpoint_of_sso :
    offering.validate [] = .ok () ∧ Provider.ofSettings offering [] = .ok provider ∧
      Gateway.ofSettings offering ⟨[]⟩ provider = .ok gateway ∧
      (∀ char ∈ offering.host.toList, isPlaceChar char = true) ∧
      (∃ front, Url.parse "http://sso.org.com/".toList = .ok front) ∧
      (∃ url, Url.parse provider.redirectUri.toList = .ok url) ∧
      gateway.handle outside (.empty 0) (comingBack "sso.org.com") =
        gateway.callback outside (some "state=http%3A%2F%2Fapp.org.com%2F&code=1") (.empty 0) := by
  have valid : offering.validate [] = .ok () := by decide
  have offered : Provider.ofSettings offering [] = .ok provider := offered "sso.org.com"
  have configured : Gateway.ofSettings offering ⟨[]⟩ provider = .ok gateway := configured
  have plain : ∀ char ∈ offering.host.toList, isPlaceChar char = true :=
    List.all_iff_forall_prop.mp (by decide)
  let front : Url :=
    { backend with host := some (.domain "sso.org.com".toList), port := none }
  have named : Url.parse "http://sso.org.com/".toList = .ok front := by decide +kernel
  obtain ⟨server, host, back, _, authority, _, comes⟩ :=
    callback_endpoint valid offered configured plain named
  have host : host = "sso.org.com".toList := by
    have shown : front.hostAndPort? = some "sso.org.com".toList := by decide
    exact Option.some.inj (authority.symm.trans shown)
  have here : requestHost (comingBack "sso.org.com") = "sso.org.com" := by
    change canonicalHost (String.ofList (((Headers.first? [("host", octets "sso.org.com")]
      "host").bind Headers.visible?).getD [])) = "sso.org.com"
    decide
  have asked : (comingBack "sso.org.com").target.path = authPath := by decide
  have foreign : ∀ setting ∈ offering.routes,
      RouteTable.hostOf setting offering.server.port ≠ requestHost (comingBack "sso.org.com") := by
    rw [here]
    decide
  have reached := (comes (comingBack "sso.org.com") (by rw [here, host]; decide) asked outside
    (.empty 0)).1 foreign
  exact ⟨valid, offered, configured, plain, ⟨front, named⟩, ⟨_, back⟩, reached⟩

/-- Two hubs at which no login ends: one whose host has a route, to whose bridge the
visitors come that the provider sends back, and one with a blank in front of its host, of
which no URL can be made. -/
theorem callback_missed :
    (∃ provider gateway,
      { offering with host := "app.org.com" }.validate [] = .ok () ∧
      Provider.ofSettings { offering with host := "app.org.com" } [] = .ok provider ∧
      Gateway.ofSettings { offering with host := "app.org.com" } ⟨[]⟩ provider = .ok gateway ∧
      provider.redirectUri = "http://app.org.com/__auth__/" ∧
      (gateway.handle outside (.empty 0) (comingBack "app.org.com")).reply =
        .failed (.bridge "bridge requires c and a local path p")) ∧
    ∃ provider gateway,
      { offering with host := " sso.org.com" }.validate [] = .ok () ∧
      Provider.ofSettings { offering with host := " sso.org.com" } [] = .ok provider ∧
      Gateway.ofSettings { offering with host := " sso.org.com" } ⟨[]⟩ provider = .ok gateway ∧
      Url.parse provider.redirectUri.toList = .error .domain := by
  refine ⟨⟨_, _, by decide, offered _, configured_at _ _, by decide, ?_⟩,
    ⟨_, _, by decide, offered _, configured_at _ _, by decide +kernel⟩⟩
  decide +kernel

end OneRoute

end LoginGateway
