import LoginGateway.Proofs.LocalRedirect
import LoginGateway.Proofs.OrganizationRestriction
import LoginGateway.Proofs.SettledAddresses
import LoginGateway.Settings.Validity

/-! The way of a visitor through a login. The address that was asked for goes to the
provider as the state, comes back to the hub, and its path and query go on to the route
as a parameter. A settled address survives all of it, unless its path is taken for the
name of another host or its host is not found again. -/

namespace LoginGateway

theorem Settings.isWeb_of_validate {settings : Settings} {environment : Environment}
    (valid : settings.validate environment = .ok ()) : Url.IsWeb settings.server.scheme.toList := by
  have known : ¬ (settings.server.scheme ≠ "http" ∧ settings.server.scheme ≠ "https") := by
    intro foreign
    rw [Settings.validate, if_pos foreign] at valid
    repeat' split at valid
    all_goals cases valid
  by_cases plain : settings.server.scheme = "http"
  · exact .inl (congrArg String.toList plain)
  · have secure : settings.server.scheme = "https" :=
      Decidable.byContradiction fun other => known ⟨plain, other⟩
    exact .inr (congrArg String.toList secure)

structure Request.IsFor (request : Request) (url : Url) : Prop where
  host : ∃ host, url.hostAndPort? = some host ∧
    Gateway.requestHost request = canonicalHost (String.ofList host)
  path : request.target.path = String.ofList url.path.text
  query : request.target.query = url.query.map String.ofList

namespace Gateway

/-- A gateway of valid settings whose hub is no route and whose routes have hosts that
stand unchanged in URLs. -/
structure IsConfigured (gateway : Gateway) : Prop where
  made : ∃ settings environment key provider, Settings.validate settings environment = .ok () ∧
    Gateway.ofSettings settings key provider = .ok gateway
  hub : gateway.routes.find? gateway.hubHost = none
  hosts : ∀ route ∈ gateway.routes.routes, IsCanonicalHost gateway.scheme route.host

/-- A request that is left to the backend of a route, for a settled address. -/
structure Visits (gateway : Gateway) (route : Route) (request : Request) : Prop where
  read : ∃ text, Target.parse? text = some request.target
  host : gateway.routes.find? (requestHost request) = some route
  errand : Errand.ofPath request.target.path = .relay
  settled : IsSettled (gateway.stateOf route request.target)

/-- A request with which a visitor comes back to the hub: with a state, and with a code
for a profile that is accepted. -/
structure Returns (gateway : Gateway) (outside : Outside) (request : Request)
    (state code : String) (identity : Identity) : Prop where
  host : requestHost request = gateway.hubHost
  errand : HubErrand.ofPath request.target.path = .callback
  hasState : Form.first? (queryPairs request.target.query) "state" = some state
  hasCode : Form.first? (queryPairs request.target.query) "code" = some code
  profile : ∃ accessToken, outside.exchange code = .value accessToken ∧
    outside.fetchProfile accessToken = .value identity
  accepted : identity.emailEndsWith gateway.emailSuffix = true

variable {gateway : Gateway} {outside : Outside} {cache : Cache} {route : Route} {visit : Request}

theorem IsConfigured.isWeb (configured : gateway.IsConfigured) :
    Url.IsWeb gateway.scheme.toList := by
  obtain ⟨settings, environment, key, provider, valid, made⟩ := configured.made
  rw [(names_ofSettings made).1]
  exact Settings.isWeb_of_validate valid

theorem stateOf_ne_empty (gateway : Gateway) (route : Route) (target : Target) :
    gateway.stateOf route target ≠ "" := by
  intro empty
  have text := congrArg String.toList empty
  rw [stateOf, toList_address] at text
  simp at text

theorem state_of_loginUrl (provider : Provider) (state hint : String) :
    ("state", state) ∈ (provider.loginUrl state hint).queryPairs := by
  rw [Provider.loginUrl, Url.queryPairs_appendPairs]
  simp [Provider.authorizationPairs]

/-- Whoever asks a route for something that is left to its backend, without a session, is
sent to the provider. -/
theorem reply_of_stranger {request : Request} (found : gateway.routes.find? (requestHost request) = some route)
    (errand : Errand.ofPath request.target.path = .relay)
    (stranger : (Session.visitor request.headers gateway.key cache).1 = none) (outside : Outside) :
    (gateway.handle outside cache request).reply =
      .ofResult (gateway.toProvider route request.target) := by
  rw [handle, found]
  simp only [serveRoute, errand]
  cases resolved : Session.visitor request.headers gateway.key cache with
  | mk known left =>
    rw [resolved] at stranger
    cases stranger
    simp only [Outcome.quiet_eq]

namespace Visits

theorem toProvider (visits : gateway.Visits route visit)
    (stranger : (Session.visitor visit.headers gateway.key cache).1 = none) :
    (gateway.handle outside cache visit).reply = .ofResult (Response.found (String.ofList
      (gateway.provider.loginUrl (gateway.stateOf route visit.target) gateway.domainHint).text)) :=
  reply_of_stranger visits.host visits.errand stranger outside

theorem routed (visits : gateway.Visits route visit) :
    route ∈ gateway.routes.routes ∧ gateway.routes.find? route.host = some route := by
  obtain ⟨inside, same⟩ := RouteTable.find?_spec visits.host
  have found := visits.host
  rw [← same] at found
  exact ⟨inside, found⟩

/-- The address that was asked for is read as the host of the route with the path and
query of the visit, which may stand in a field and begin with no backslash behind their
slash. -/
theorem stateRead (visits : gateway.Visits route visit) (configured : gateway.IsConfigured) :
    ∃ back, Url.parse (gateway.stateOf route visit.target).toList = .ok back ∧
      back.hostAndPort? = some route.host.toList ∧
      String.ofList back.pathAndQuery = visit.target.pathAndQuery ∧
      Headers.isValue (octets visit.target.pathAndQuery) = true ∧
      ∃ rest, visit.target.pathAndQuery.toList = '/' :: rest ∧
        ∀ others, rest ≠ '\\' :: others := by
  have web := configured.isWeb
  obtain ⟨server, spells⟩ := exists_spells web (configured.hosts route visits.routed.1)
  obtain ⟨text, read⟩ := visits.read
  obtain ⟨back, made, host, same, printable, begins⟩ :=
    parse_of_settled web spells read visits.settled
  rw [same] at printable begins
  exact ⟨back, made, host, by rw [same, String.ofList_toList],
    Headers.isValue_of_printable printable, begins⟩

/-- Whoever comes back with the address and is accepted goes on to the bridge of the
route with a token and the path and query that were asked for. -/
theorem handsOn (visits : gateway.Visits route visit) (configured : gateway.IsConfigured)
    (compared : canonicalHost route.host = route.host) {returning : Request} {code : String}
    {identity : Identity} (filled : code ≠ "")
    (returns : gateway.Returns outside returning (gateway.stateOf route visit.target) code identity)
    (cache : Cache) :
    let token := Token.encode identity gateway.key
    ∃ leaf, (gateway.handle outside cache returning).reply =
        .value (gateway.sentOn (String.ofList leaf.text) token) ∧
      Url.parse leaf.text = .ok leaf ∧
      gateway.IsBridge route visit.target.pathAndQuery token leaf := by
  obtain ⟨inside, found⟩ := visits.routed
  obtain ⟨back, stateRead, host, same, _⟩ := visits.stateRead configured
  obtain ⟨accessToken, exchanged, fetched⟩ := returns.profile
  have routed : gateway.stateRoute? back = some route := by
    rw [stateRoute?, host]
    simp only [Option.bind_some, String.ofList_toList, compared, found]
  let login : Login gateway outside returning.target.query := {
    code, back, route, accessToken, identity, stateRead, routed, exchanged, fetched
    state := gateway.stateOf route visit.target
    hasCode := parameter?_eq_some_iff.mpr ⟨returns.hasCode, filled⟩
    hasState := parameter?_eq_some_iff.mpr
      ⟨returns.hasState, stateOf_ne_empty gateway route visit.target⟩
    accepted := returns.accepted }
  have here : gateway.AtHub returning .callback :=
    ⟨by rw [returns.host]; exact configured.hub, returns.errand⟩
  have handed :=
    callback_of_canonical login configured.isWeb (configured.hosts route inside) cache
  rw [same] at handed
  rw [here.callback]
  exact handed

theorem atBridge (visits : gateway.Visits route visit)
    (compared : canonicalHost route.host = route.host) {resume token : String} {leaf : Url}
    (bridge : gateway.IsBridge route resume token leaf) {completing : Request}
    (asked : completing.IsFor leaf) (outside : Outside) (cache : Cache) :
    gateway.handle outside cache completing =
        gateway.completeBridge completing.target.query cache ∧
      Form.first? (queryPairs completing.target.query) "p" = some resume ∧
      Form.first? (queryPairs completing.target.query) "c" = some token := by
  have host : gateway.routes.find? (requestHost completing) = some route := by
    obtain ⟨host, named, same⟩ := asked.host
    cases named.symm.trans bridge.host
    rw [same, String.ofList_toList, compared]
    exact visits.routed.2
  have errand : Errand.ofPath completing.target.path = .bridge := by
    rw [asked.path, bridge.path, String.ofList_toList]
    decide
  have pairs := bridge.pairs
  rw [← asked.query] at pairs
  refine ⟨?_, by simp [pairs, Form.first?], by simp [pairs, Form.first?]⟩
  have here : gateway.AtRoute completing .bridge := ⟨⟨route, host⟩, errand⟩
  exact here.bridge outside cache

/-- At the bridge the visitor gets the token as a cookie and goes on to the path and
query that were asked for. -/
theorem goesOn (visits : gateway.Visits route visit) (configured : gateway.IsConfigured)
    (compared : canonicalHost route.host = route.host)
    (single : ¬ "//".toList <+: visit.target.pathAndQuery.toList) {identity : Identity} {leaf : Url}
    (bridge : gateway.IsBridge route visit.target.pathAndQuery
      (Token.encode identity gateway.key) leaf)
    {completing : Request} (asked : completing.IsFor leaf) (sound : cache.Sound gateway.key)
    (outside : Outside) :
    (gateway.handle outside cache completing).reply = .value
      (gateway.sentOn visit.target.pathAndQuery (Token.encode identity gateway.key)) := by
  obtain ⟨_, _, _, _, valid, rest, begins, noBackslash⟩ := visits.stateRead configured
  have here : isLocalPath visit.target.pathAndQuery = true := by
    refine isLocalPath_iff_begins.mpr ⟨⟨rest, begins.symm⟩, single, ?_⟩
    rintro ⟨others, same⟩
    rw [begins] at same
    exact noBackslash others (List.cons.inj same).2.symm
  obtain ⟨completes, hasPath, hasToken⟩ := visits.atBridge compared bridge asked outside cache
  rw [completes]
  have filled := Token.encode_ne_empty identity gateway.key
  exact completeBridge_of_accepted
    (resumes_iff.mpr ⟨parameter?_eq_some_iff.mpr ⟨hasToken, filled⟩, hasPath, here⟩) valid sound
    (Token.decode_of_encode identity gateway.key)

/-- With two slashes in front, what was asked for is no local path, and the bridge refuses
the visitor. -/
theorem stopped (visits : gateway.Visits route visit)
    (compared : canonicalHost route.host = route.host)
    (double : "//".toList <+: visit.target.pathAndQuery.toList) {token : String} {leaf : Url}
    (bridge : gateway.IsBridge route visit.target.pathAndQuery token leaf) {completing : Request}
    (asked : completing.IsFor leaf) (outside : Outside) (cache : Cache) :
    (gateway.handle outside cache completing).reply =
      .failed (.bridge "bridge requires c and a local path p") := by
  obtain ⟨completes, hasPath, _⟩ := visits.atBridge compared bridge asked outside cache
  have foreign : isLocalPath visit.target.pathAndQuery = false := by
    rw [Bool.eq_false_iff]
    intro here
    exact (isLocalPath_iff_begins.mp here).2.1 double
  rw [completes, completeBridge, hasPath, Option.getD_some, foreign]
  rw [if_pos (.inr rfl)]
  rfl

end Visits

theorem callback_without_code {query : Option String} (missing : parameter? query "code" = none)
    (outside : Outside) (cache : Cache) :
    (gateway.callback outside query cache).reply =
      .failed (.denied "callback without code or state") := by
  rw [callback, missing]
  rfl

open Interleaving in
/-- Whoever asks a route for a settled address without a session is sent to the provider
with that address. If the provider sends the visitor back with it and with a code for a
profile that is accepted, the hub hands the visitor on to the bridge of the route, the
bridge sends the visitor on to exactly the path and query of the visit, and a request
with the cookie that is set there is known to come from the profile, whatever requests
come in between. -/
theorem login_completes (configured : gateway.IsConfigured)
    (compared : ∀ route ∈ gateway.routes.routes, canonicalHost route.host = route.host)
    (visits : gateway.Visits route visit)
    (single : ¬ "//".toList <+: visit.target.pathAndQuery.toList) {capacity : Nat} :
    let address := gateway.stateOf route visit.target
    let resume := visit.target.pathAndQuery
    (∀ state outside, Reachable gateway capacity state →
      (Session.visitor visit.headers gateway.key state.cache).1 = none →
      let login := gateway.provider.loginUrl address gateway.domainHint
      (gateway.handle outside state.cache visit).reply =
        .ofResult (Response.found (String.ofList login.text)) ∧
      ("state", address) ∈ login.queryPairs) ∧
    ∀ state outside returning code identity, Reachable gateway capacity state → code ≠ "" →
      gateway.Returns outside returning address code identity →
      let token := Token.encode identity gateway.key
      ∃ leaf, (gateway.handle outside state.cache returning).reply =
          .value (gateway.sentOn (String.ofList leaf.text) token) ∧
        Url.parse leaf.text = .ok leaf ∧ gateway.IsBridge route resume token leaf ∧
        ∀ state outside completing, Reachable gateway capacity state → completing.IsFor leaf →
          (gateway.handle outside state.cache completing).reply =
            .value (gateway.sentOn resume token) ∧
          ∀ state headers, Reachable gateway capacity state →
            (Session.cookie token gateway.secureCookies).IsCarried headers →
            (Session.visitor headers gateway.key state.cache).1 = some identity := by
  have compared := compared route visits.routed.1
  refine ⟨fun state outside _ stranger => ?_, ?_⟩
  · exact ⟨visits.toProvider stranger, state_of_loginUrl _ _ _⟩
  · intro state outside returning code identity _ filled returns
    obtain ⟨leaf, answered, read, bridge⟩ :=
      visits.handsOn configured compared filled returns state.cache
    refine ⟨leaf, answered, read, bridge, fun state outside completing reached asked => ?_⟩
    refine ⟨visits.goesOn configured compared single bridge asked reached.sound.cache outside, ?_⟩
    intro state headers reached carried
    exact Session.visitor_of_isCarried reached.sound.cache carried

end Gateway

namespace OneRoute
open Gateway Interleaving

def get (host path : String) (query : Option String) : Request :=
  ⟨"GET", ⟨none, path, query⟩, [("host", octets host)], []⟩

def app : Route := ⟨"app.org.com", backend⟩

theorem requestHost_get (path : String) (query : Option String) :
    requestHost (get "app.org.com" path query) = "app.org.com" := by
  change canonicalHost (String.ofList (((Headers.first? [("host", octets "app.org.com")]
    "host").bind Headers.visible?).getD [])) = "app.org.com"
  decide

theorem isConfigured : gateway.IsConfigured where
  made := ⟨{ settings with oauth := { settings.oauth with clientId := "id" } }, [], ⟨[]⟩, provider,
    by decide, configured⟩
  hub := by decide
  hosts := canonical_routes

def returning (state code : String) : Request :=
  get "sso.org.com" "/__auth__/"
    (some (String.ofList (Form.serialize [("code", code), ("state", state)])))

theorem pairs_returning (state code : String) :
    queryPairs (returning state code).target.query = [("code", code), ("state", state)] :=
  queryPairs_serialize _

theorem requestHost_returning (state code : String) :
    requestHost (returning state code) = "sso.org.com" := by
  change canonicalHost (String.ofList (((Headers.first? [("host", octets "sso.org.com")]
    "host").bind Headers.visible?).getD [])) = "sso.org.com"
  decide

theorem errand_returning (state code : String) :
    HubErrand.ofPath (returning state code).target.path = .callback := by
  change HubErrand.ofPath (Target.path ⟨none, "/__auth__/", none⟩) = .callback
  decide

theorem returns_alice {gateway : Gateway} (hub : gateway.hubHost = "sso.org.com")
    (suffix : gateway.emailSuffix = "@org.com") (state code : String) :
    gateway.Returns outside (returning state code) state code alice where
  host := by rw [hub, requestHost_returning]
  errand := errand_returning state code
  hasState := by simp [pairs_returning, Form.first?]
  hasCode := by simp [pairs_returning, Form.first?]
  profile := ⟨code, rfl, rfl⟩
  accepted := by
    rw [suffix]
    decide

theorem isFor_get {resume : String} {leaf : Url} (bridge : gateway.IsBridge app resume token leaf) :
    (get "app.org.com" (String.ofList leaf.path.text) (leaf.query.map String.ofList)).IsFor leaf where
  host := by
    refine ⟨_, bridge.host, ?_⟩
    rw [requestHost_get]
    decide
  path := by
    rw [bridge.path]
    rfl
  query := rfl

def deepVisit : Request :=
  get "app.org.com" "/reports//2024%2F05" (some "next=//evil.com\\&q=+%25|")

theorem visits_deep : gateway.Visits app deepVisit where
  read := ⟨"/reports//2024%2F05?next=//evil.com\\&q=+%25|", by decide⟩
  host := by decide
  errand := by decide
  settled := by decide +kernel

theorem compared : ∀ route ∈ gateway.routes.routes, canonicalHost route.host = route.host := by
  decide

def darkHeaders : Headers :=
  [("cookie", Utf8.encode ("theme=dark".toList ++ ';' :: ' ' ::
    Cookie.kept (Session.cookie token gateway.secureCookies).field))]

theorem login_completes_of_alice :
    gateway.IsConfigured ∧
      (∀ route ∈ gateway.routes.routes, canonicalHost route.host = route.host) ∧
      gateway.Visits app deepVisit ∧ ¬ "//".toList <+: deepVisit.target.pathAndQuery.toList ∧
      (gateway.handle outside (.empty 0) deepVisit).reply = .ofResult (Response.found (String.ofList
        (provider.loginUrl (gateway.stateOf app deepVisit.target) gateway.domainHint).text)) ∧
      ∃ leaf : Url, (gateway.handle outside (.empty 0)
          (returning (gateway.stateOf app deepVisit.target) "1")).reply =
            .value (gateway.sentOn (String.ofList leaf.text) token) ∧
        (gateway.handle outside (.empty 0) (get "app.org.com" (String.ofList leaf.path.text)
          (leaf.query.map String.ofList))).reply =
            .value (gateway.sentOn "/reports//2024%2F05?next=//evil.com\\&q=+%25|" token) ∧
        (Session.visitor darkHeaders gateway.key (.empty 0)).1 = some alice := by
  have single : ¬ "//".toList <+: deepVisit.target.pathAndQuery.toList := by
    rw [← List.isPrefixOf_iff_prefix]
    decide
  have start : Reachable gateway 0 (State.initial 0) := .refl
  have empty : (State.initial 0).cache = .empty 0 := rfl
  obtain ⟨asks, completes⟩ := login_completes isConfigured compared visits_deep single
  have asked := (asks _ outside start rfl).1
  have completes := completes _ outside _ "1" alice start (by decide) (returns_alice rfl rfl _ "1")
  simp only [encode_alice] at completes
  obtain ⟨leaf, handed, _, bridge, further⟩ := completes
  obtain ⟨resumed, known⟩ := further _ outside _ start (isFor_get bridge)
  have resume : deepVisit.target.pathAndQuery = "/reports//2024%2F05?next=//evil.com\\&q=+%25|" := by
    decide
  have carried : (Session.cookie token gateway.secureCookies).IsCarried darkHeaders :=
    Cookie.isCarried_behind _ (List.all_iff_forall_prop.mp (by decide))
  have stays := known _ darkHeaders start carried
  rw [empty] at asked handed stays
  rw [empty, resume] at resumed
  exact ⟨isConfigured, compared, visits_deep, single, asked, leaf, handed, resumed, stays⟩

theorem visits_slashes : gateway.Visits app (get "app.org.com" "//dashboard" none) where
  read := ⟨"//dashboard", by decide⟩
  host := by decide
  errand := by decide
  settled := by decide +kernel

/-- A gateway whose one route is set with two ports, of which its name keeps the first. -/
def portGateway : Gateway :=
  { gateway with routes := ⟨[⟨"app.org.com:443", backend⟩], .cons nofun .nil⟩ }

theorem isConfigured_port : portGateway.IsConfigured where
  made := ⟨{ settings with
      oauth := { settings.oauth with clientId := "id" }
      routes := [⟨"app.org.com:443:80", "backend:8080"⟩] }, [], ⟨[]⟩, provider,
    by decide, configured_under (by decide) (by decide)⟩
  hub := by decide
  hosts := by decide +kernel

theorem visits_port : portGateway.Visits ⟨"app.org.com:443", backend⟩
    (get "app.org.com:443:80" "/dashboard" none) where
  read := ⟨"/dashboard", by decide⟩
  host := by decide
  errand := by decide
  settled := by decide +kernel

theorem atHub_returning {gateway : Gateway} (hub : gateway.routes.find? "sso.org.com" = none)
    (state code : String) : gateway.AtHub (returning state code) .callback :=
  ⟨by rw [requestHost_returning]; exact hub, errand_returning state code⟩

/-- Three visits that do not come back: for a path that begins with two slashes, at a
host that is not written as hosts are compared, and with a code that is empty. -/
theorem login_stops :
    (∃ leaf : Url, gateway.IsConfigured ∧ gateway.Visits app (get "app.org.com" "//dashboard" none) ∧
      gateway.Returns outside (returning "http://app.org.com//dashboard" "1")
        (gateway.stateOf app ⟨none, "//dashboard", none⟩) "1" alice ∧
      (gateway.handle outside (.empty 0) (returning "http://app.org.com//dashboard" "1")).reply =
        .value (gateway.sentOn (String.ofList leaf.text) token) ∧
      (get "app.org.com" (String.ofList leaf.path.text) (leaf.query.map String.ofList)).IsFor leaf ∧
      (gateway.handle outside (.empty 0) (get "app.org.com" (String.ofList leaf.path.text)
        (leaf.query.map String.ofList))).reply =
          .failed (.bridge "bridge requires c and a local path p")) ∧
    (portGateway.IsConfigured ∧
      portGateway.Visits ⟨"app.org.com:443", backend⟩ (get "app.org.com:443:80" "/dashboard" none) ∧
      portGateway.Returns outside (returning "http://app.org.com:443/dashboard" "1")
        (portGateway.stateOf ⟨"app.org.com:443", backend⟩ ⟨none, "/dashboard", none⟩) "1" alice ∧
      (portGateway.handle outside (.empty 0)
        (returning "http://app.org.com:443/dashboard" "1")).reply =
          .failed (.denied "state does not name a frontend host")) ∧
    (gateway.IsConfigured ∧ gateway.Visits app deepVisit ∧
      gateway.Returns outside (returning (gateway.stateOf app deepVisit.target) "")
        (gateway.stateOf app deepVisit.target) "" alice ∧
      (gateway.handle outside (.empty 0)
        (returning (gateway.stateOf app deepVisit.target) "")).reply =
          .failed (.denied "callback without code or state")) := by
  refine ⟨?_, ?_, ?_⟩
  · have address : gateway.stateOf app ⟨none, "//dashboard", none⟩ =
        "http://app.org.com//dashboard" := by
      decide
    have returns : gateway.Returns outside (returning "http://app.org.com//dashboard" "1")
        (gateway.stateOf app ⟨none, "//dashboard", none⟩) "1" alice := by
      rw [address]
      exact returns_alice rfl rfl _ _
    have compared : canonicalHost app.host = app.host := by decide
    have handed := visits_slashes.handsOn isConfigured compared (by decide) returns (.empty 0)
    simp only [encode_alice] at handed
    obtain ⟨leaf, answered, _, bridge⟩ := handed
    have asked := isFor_get bridge
    have double : "//".toList <+: (Target.pathAndQuery ⟨none, "//dashboard", none⟩).toList := by
      rw [← List.isPrefixOf_iff_prefix]
      decide
    exact ⟨leaf, isConfigured, visits_slashes, returns, answered, asked,
      visits_slashes.stopped compared double bridge asked outside (.empty 0)⟩
  · have address : portGateway.stateOf ⟨"app.org.com:443", backend⟩ ⟨none, "/dashboard", none⟩ =
        "http://app.org.com:443/dashboard" := by
      decide
    refine ⟨isConfigured_port, visits_port, ?_, ?_⟩
    · rw [address]
      exact returns_alice rfl rfl _ _
    · rw [(atHub_returning (by decide) _ _).callback]
      decide +kernel
  · refine ⟨isConfigured, visits_deep, returns_alice rfl rfl _ _, ?_⟩
    rw [(atHub_returning (by decide) _ _).callback]
    apply callback_without_code
    simp [parameter?, pairs_returning, Form.first?]

end OneRoute

end LoginGateway
