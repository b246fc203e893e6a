import LoginGateway.Proofs.AsteriskTargets
import LoginGateway.Proofs.CacheTransparency
import LoginGateway.Proofs.ConfiguredRoutes
import LoginGateway.Proofs.IdentityHeaders
import LoginGateway.Proofs.Login

/-! Who gets through to a backend. Of all that a gateway does, only relaying sends a
request to one, and a request is relayed for a visitor whose token is good. It goes to the
server that is set for its host, but for an asterisk, which can turn the name of that server
into another. -/

namespace LoginGateway

namespace Gateway

/-- A request that is passed on for somebody: its host has a backend, its path is
left to that backend, and its session cookie is a good token of theirs. -/
structure Admits (gateway : Gateway) (request : Request) (route : Route) (identity : Identity) :
    Prop where
  host : gateway.routes.find? (requestHost request) = some route
  notLogout : request.target.path ≠ logoutPath
  notAuth : isAuthPath request.target.path = false
  session : ∃ token, Session.token? request.headers = some token ∧
    Token.decode token gateway.key = .ok identity

/-- The one request that is sent for a request that is passed on. Whatever path is asked for,
it goes to the server of the backend, and so does an asterisk behind a path that is set for the
backend. Any other asterisk goes on with the name of the host. -/
structure Sends (request : Request) (route : Route) (identity : Identity) (sent : Outgoing) :
    Prop where
  url : requestUrl (route.targetUrl request.target.pathAndQuery) = .ok sent.url
  server : request.target.HasPath ∨ route.pathPrefix ≠ [] → sent.url.SamePlace route.backend
  asterisk : request.target = .asterisk → route.pathPrefix = [] → route.backend.port = none ∧
    sent.url.host = some (.domain (route.backend.hostText?.getD [] ++ ['*']))
  names : Relay.Names sent identity

variable {gateway : Gateway} {outside : Outside} {cache : Cache} {request : Request}
  {sent : Outgoing}

theorem serve_calls (gateway : Gateway) (outside : Outside) (cache : Cache) (request : Request) :
    (gateway.serve outside cache request).2.2 = (gateway.handle outside cache request).calls :=
  rfl

theorem completeBridge_calls (query : Option String) :
    (gateway.completeBridge query cache).calls = [] := by
  unfold completeBridge
  simp only []
  split
  · exact Outcome.quiet_calls cache _
  · split <;> exact Outcome.quiet_calls _ _

theorem relay_of_ofPath {path : String} (relayed : Errand.ofPath path = .relay) :
    path ≠ logoutPath ∧ isAuthPath path = false := by
  unfold Errand.ofPath at relayed
  split at relayed
  next => cases relayed
  next other =>
    split at relayed
    next => cases relayed
    next outside => exact ⟨other, by simpa using outside⟩

theorem session_of_visitor {headers : Headers} {identity : Identity}
    (sound : cache.Sound gateway.key)
    (found : (Session.visitor headers gateway.key cache).1 = some identity) :
    ∃ token, Session.token? headers = some token ∧
      Token.decode token gateway.key = .ok identity := by
  unfold Session.visitor at found
  cases present : Session.token? headers with
  | none =>
    rw [present] at found
    cases found
  | some token =>
    rw [present] at found
    exact ⟨token, rfl, sound.resolve_iff.mp found⟩

theorem forward_calls (route : Route) (identity : Identity) :
    (Relay.forward outside route identity request cache).calls =
      match Relay.outgoing route identity request with
      | .ok made => [.backend made]
      | .error _ => [] := by
  unfold Relay.forward
  cases Relay.outgoing route identity request with
  | error fault => exact Outcome.quiet_calls cache _
  | ok made =>
    simp only [Outcome.after]
    cases outside.backend made <;> simp only [Outcome.quiet_calls]

theorem outgoing_of_forward {route : Route} {identity : Identity}
    (inside : .backend sent ∈ (Relay.forward outside route identity request cache).calls) :
    (Relay.forward outside route identity request cache).calls = [.backend sent] ∧
      Relay.outgoing route identity request = .ok sent := by
  rw [forward_calls] at inside ⊢
  cases made : Relay.outgoing route identity request with
  | error fault =>
    rw [made] at inside
    cases inside
  | ok outgoing =>
    rw [made] at inside
    cases List.mem_singleton.mp inside
    exact ⟨rfl, rfl⟩

theorem backend_of_handle (sound : cache.Sound gateway.key)
    (inside : .backend sent ∈ (gateway.handle outside cache request).calls) :
    (gateway.handle outside cache request).calls = [.backend sent] ∧
      ∃ route identity, gateway.Admits request route identity ∧
        Relay.outgoing route identity request = .ok sent := by
  unfold handle at inside ⊢
  cases host : gateway.routes.find? (requestHost request) with
  | none =>
    rw [host] at inside
    simp only [serveHub] at inside
    split at inside
    next => exact absurd inside (callback_backend sent)
    next => simp at inside
    next => simp at inside
    next => simp at inside
  | some route =>
    rw [host] at inside
    simp only [serveRoute] at inside ⊢
    cases errand : Errand.ofPath request.target.path with
    | bridge =>
      rw [errand] at inside
      simp [completeBridge_calls] at inside
    | logout =>
      rw [errand] at inside
      simp at inside
    | relay =>
      rw [errand] at inside
      simp only [] at inside ⊢
      cases found : Session.visitor request.headers gateway.key cache with
      | mk visitor left =>
        rw [found] at inside
        cases visitor with
        | none => simp at inside
        | some identity =>
          obtain ⟨once, made⟩ := outgoing_of_forward inside
          obtain ⟨notLogout, notAuth⟩ := relay_of_ofPath errand
          refine ⟨once, route, identity, ⟨host, notLogout, notAuth, ?_⟩, made⟩
          exact session_of_visitor sound (by rw [found])

theorem handle_of_admits (sound : cache.Sound gateway.key) {route : Route} {identity : Identity}
    (admitted : gateway.Admits request route identity)
    (made : Relay.outgoing route identity request = .ok sent) :
    (gateway.handle outside cache request).calls = [.backend sent] := by
  obtain ⟨token, present, accepted⟩ := admitted.session
  have known := sound.resolve_iff.mpr accepted
  unfold handle
  rw [admitted.host]
  simp only [serveRoute, Errand.ofPath, if_neg admitted.notLogout, admitted.notAuth,
    Session.visitor, present]
  cases resolved : Session.resolve token gateway.key cache with
  | mk found left =>
    rw [resolved] at known
    cases known
    simp only [Bool.false_eq_true, if_false, forward_calls, made]

end Gateway

theorem Gateway.sends_of_outgoing {setting : RouteSettings} {port : UInt16} {route : Route}
    {identity : Identity} {request : Request} {sent : Outgoing} (sets : setting.Sets port route)
    (made : Relay.outgoing route identity request = .ok sent) :
    Sends request route identity sent := by
  obtain ⟨url, names⟩ := Relay.outgoing_spec made
  have parsed := parse_of_requestUrl url
  refine ⟨url, fun leads => ?_, fun asterisk bare => ?_, names⟩
  · refine Route.samePlace_of_targetUrl sets.backend ?_ parsed
    rcases leads with hasPath | some
    · exact Route.follows_pathPrefix sets.backend (Target.follows_pathAndQuery hasPath)
    · exact Route.follows_of_pathPrefix sets.backend some _
  · rw [asterisk] at parsed
    exact Route.asterisk_of_targetUrl sets.backend bare parsed

/-- Calls for a request of which at most one goes to a backend: to the one its host was
set up with, for a visitor that the request is passed on for. -/
def Guarded (settings : Settings) (gateway : Gateway) (request : Request) (calls : List Call) :
    Prop :=
  ∀ sent, .backend sent ∈ calls → calls = [.backend sent] ∧
    ∃ setting ∈ settings.routes, ∃ route identity, setting.Sets settings.server.port route ∧
      gateway.Admits request route identity ∧ Gateway.Sends request route identity sent

theorem guarded_handle {settings : Settings} {key : SigningKey} {provider : Provider}
    {gateway : Gateway} (configured : Gateway.ofSettings settings key provider = .ok gateway)
    {cache : Cache} (sound : cache.Sound gateway.key) (outside : Outside) (request : Request) :
    Guarded settings gateway request (gateway.handle outside cache request).calls := by
  intro sent inside
  obtain ⟨once, route, identity, admitted, made⟩ := Gateway.backend_of_handle sound inside
  obtain ⟨setting, among, sets⟩ := Gateway.set_of_find? configured admitted.host
  exact ⟨once, setting, among, route, identity, sets, admitted,
    Gateway.sends_of_outgoing sets made⟩

theorem Guarded.first {settings : Settings} {gateway : Gateway} {request : Request}
    {calls all : List Call} (guarded : Guarded settings gateway request all)
    (so_far : calls <+: all) : Guarded settings gateway request calls := by
  intro sent inside
  obtain ⟨once, passed⟩ := guarded sent (so_far.subset inside)
  refine ⟨?_, passed⟩
  rw [once] at so_far
  rcases List.prefix_cons_iff.mp so_far with rfl | ⟨rest, rfl, ended⟩
  · cases inside
  · rw [List.prefix_nil.mp ended]

open Interleaving in
/-- Whatever requests came before or are served at the same time, a backend hears of
a request only if its host has a backend, its path is neither the one for logging out
nor one of the gateway's own, and its session cookie is a token that is good under
the gateway's key. Then it hears of it once, at the place of the request behind the
backend that was set, and is told the address and name in the token. What is asked for is a
path or an asterisk, and only an asterisk can lead to another server. -/
theorem backend_access {settings : Settings} {key : SigningKey} {provider : Provider}
    {gateway : Gateway} (configured : Gateway.ofSettings settings key provider = .ok gateway)
    {capacity : Nat} {state : State} (reached : Reachable gateway capacity state) :
    (∀ serving ∈ state.servings, Guarded settings gateway serving.request serving.calls) ∧
      (∀ outside request,
        Guarded settings gateway request (gateway.serve outside state.cache request).2.2) ∧
      ∀ text target, Target.parse? text = some target → target = .asterisk ∨ target.HasPath := by
  obtain ⟨sound, servings⟩ := reached.sound
  refine ⟨fun serving inside => ?_, fun outside request => guarded_handle configured sound _ _,
    fun text target read => Target.hasPath_of_parse? read⟩
  have empty := Cache.sound_empty gateway.key capacity
  have alone := guarded_handle configured empty serving.outside serving.request
  exact alone.first ((servings serving inside).alone capacity).1

def OneRoute.visit : Request where
  method := "GET"
  target := ⟨none, "/dashboard", none⟩
  headers := [("host", octets "app.org.com"), ("cookie", octets ("sso_session=" ++ token))]
  body := []

theorem OneRoute.token_visit : Session.token? visit.headers = some token := by
  decide +kernel

theorem OneRoute.admits_visit :
    gateway.Admits visit ⟨"app.org.com", backend⟩ alice where
  host := by decide
  notLogout := by decide
  notAuth := by decide
  session := by
    have accepted := Token.decode_of_encode alice gateway.key
    rw [encode_alice] at accepted
    exact ⟨token, token_visit, accepted⟩

def OneRoute.sent : Outgoing where
  method := "GET"
  url := { backend with path := .segments ["dashboard".toList] }
  headers := Relay.requestHeaders visit.headers alice
  body := none

theorem OneRoute.url_visit :
    requestUrl (Route.targetUrl ⟨"app.org.com", backend⟩ visit.target.pathAndQuery) =
      .ok sent.url := by
  decide +kernel

theorem OneRoute.outgoing_visit :
    Relay.outgoing ⟨"app.org.com", backend⟩ alice visit = .ok sent := by
  simp only [Relay.outgoing, url_visit]
  rfl

theorem backend_access_of_login :
    Gateway.ofSettings OneRoute.settings ⟨[]⟩ OneRoute.provider = .ok OneRoute.gateway ∧
      Interleaving.Reachable OneRoute.gateway 0 OneRoute.loggedIn ∧
      (OneRoute.gateway.serve OneRoute.outside OneRoute.loggedIn.cache OneRoute.visit).2.2 =
        [.backend OneRoute.sent] ∧
      Guarded OneRoute.settings OneRoute.gateway OneRoute.visit [.backend OneRoute.sent] := by
  have sent : (OneRoute.gateway.serve OneRoute.outside OneRoute.loggedIn.cache
      OneRoute.visit).2.2 = [.backend OneRoute.sent] := by
    rw [Gateway.serve_calls]
    exact Gateway.handle_of_admits OneRoute.reaches_loggedIn.sound.cache OneRoute.admits_visit
      OneRoute.outgoing_visit
  have guarded := (backend_access OneRoute.configured OneRoute.reaches_loggedIn).2.1
    OneRoute.outside OneRoute.visit
  rw [sent] at guarded
  exact ⟨OneRoute.configured, OneRoute.reaches_loggedIn, sent, guarded⟩

namespace OneRoute
open Gateway

def bareBackend : Url := { backend with port := none }

def bareGateway : Gateway :=
  { gateway with routes := ⟨[⟨"app.org.com", bareBackend⟩], .cons nofun .nil⟩ }

/-- Somebody who is logged in asks what the whole server can do. -/
def asteriskVisit : Request := { visit with method := "OPTIONS", target := .asterisk }

theorem admits_asteriskVisit :
    bareGateway.Admits asteriskVisit ⟨"app.org.com", bareBackend⟩ alice where
  host := by decide
  notLogout := by decide
  notAuth := by decide
  session := admits_visit.session

def astray : Outgoing where
  method := "OPTIONS"
  url := { bareBackend with host := some (.domain "backend*".toList) }
  headers := Relay.requestHeaders visit.headers alice
  body := none

/-- What somebody who is logged in sends for an asterisk, with the session and the name, goes to
a host that nobody has set. -/
theorem asterisk_leaves_backend :
    Gateway.ofSettings { settings with routes := [⟨"app.org.com", "backend"⟩] } ⟨[]⟩ provider =
        .ok bareGateway ∧
      Target.parse? "*" = some asteriskVisit.target ∧
      bareGateway.Admits asteriskVisit ⟨"app.org.com", bareBackend⟩ alice ∧
      (bareGateway.serve outside (.empty 0) asteriskVisit).2.2 = [.backend astray] ∧
      ¬ astray.url.SamePlace bareBackend := by
  have read : requestUrl (Route.targetUrl ⟨"app.org.com", bareBackend⟩ "*") = .ok astray.url := by
    decide +kernel
  have made : Relay.outgoing ⟨"app.org.com", bareBackend⟩ alice asteriskVisit = .ok astray := by
    have whole : asteriskVisit.target.pathAndQuery = "*" := rfl
    rw [Relay.outgoing, whole, read]
    rfl
  refine ⟨configured_with (by decide) (by decide) (by decide +kernel), by decide,
    admits_asteriskVisit, ?_, fun same => absurd same.host (by decide)⟩
  rw [serve_calls]
  exact handle_of_admits (Cache.sound_empty _ 0) admits_asteriskVisit made

end OneRoute

end LoginGateway
