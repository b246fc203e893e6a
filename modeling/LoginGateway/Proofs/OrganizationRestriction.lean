import LoginGateway.Proofs.BackendAccess
import LoginGateway.Proofs.BridgeDecision

/-! Whom a gateway knows, it knows from its provider. The ending of an address is
looked at once, when a visitor comes back with a login. Later only tokens are looked
at, so what is shown here rests on tokens that nobody makes up. -/

namespace LoginGateway

theorem Identity.suffix_of_emailEndsWith {identity : Identity} {suffix : String}
    (accepted : identity.emailEndsWith suffix = true) :
    suffix.toList <:+ identity.email.toList := by
  rw [emailEndsWith, Bool.and_eq_true] at accepted
  exact List.isSuffixOf_iff_suffix.mp accepted.2

theorem Session.cookie_field (token : String) (secure : Bool) :
    (cookie token secure).field =
      Cookie.escape cookieName ++ "=" ++ Cookie.escape token ++ (cookie "" secure).attributes :=
  rfl

theorem Session.cookie_injective {first second : String} {secure : Bool}
    (same : (cookie first secure).field = (cookie second secure).field) : first = second := by
  rw [cookie_field, cookie_field, String.append_left_inj, String.append_right_inj] at same
  exact Cookie.escape_injective same

namespace Gateway

def shown : Option Identity → List Char
  | some identity => identity.toJson
  | none => "null".toList

theorem shown_injective {first second : Option Identity} (same : shown first = shown second) :
    first = second := by
  cases first with
  | none =>
    cases second with
    | none => rfl
    | some identity =>
      have heads : some 'n' = some '\x7b' := congrArg List.head? same
      exact absurd heads (by decide)
  | some identity =>
    cases second with
    | none =>
      have heads : some '\x7b' = some 'n' := congrArg List.head? same
      exact absurd heads (by decide)
    | some other => exact congrArg some (Identity.toJson_injective same)

theorem profileResponse_injective {first second : Option Identity}
    (same : profileResponse first = profileResponse second) : first = second := by
  have bodies := Body.fixed.inj (congrArg Response.body same)
  have texts := List.append_cancel_right (Utf8.encode_injective bodies)
  exact shown_injective (List.append_cancel_left texts)

def AtHub (gateway : Gateway) (request : Request) (errand : HubErrand) : Prop :=
  gateway.routes.find? (requestHost request) = none ∧
    HubErrand.ofPath request.target.path = errand

def AtRoute (gateway : Gateway) (request : Request) (errand : Errand) : Prop :=
  (∃ route, gateway.routes.find? (requestHost request) = some route) ∧
    Errand.ofPath request.target.path = errand

variable {gateway : Gateway} {request : Request}

theorem AtHub.callback (here : gateway.AtHub request .callback) (outside : Outside)
    (cache : Cache) :
    gateway.handle outside cache request =
      gateway.callback outside request.target.query cache := by
  rw [handle, here.1]
  simp only [serveHub, here.2]

theorem AtRoute.bridge (here : gateway.AtRoute request .bridge) (outside : Outside)
    (cache : Cache) :
    gateway.handle outside cache request =
      gateway.completeBridge request.target.query cache := by
  obtain ⟨⟨route, found⟩, errand⟩ := here
  rw [handle, found]
  simp only [serveRoute, errand]

theorem AtHub.session_of_profile (here : gateway.AtHub request .profile) {outside : Outside}
    {cache : Cache} (sound : cache.Sound gateway.key) {identity : Identity}
    (shown : (gateway.handle outside cache request).reply =
      .value (profileResponse (some identity))) :
    ∃ token, Session.token? request.headers = some token ∧
      Token.decode token gateway.key = .ok identity := by
  rw [handle, here.1] at shown
  simp only [serveHub, here.2] at shown
  exact session_of_visitor sound (profileResponse_injective (Reply.value.inj shown))

theorem AtRoute.token_of_bridge (here : gateway.AtRoute request .bridge) {outside : Outside}
    {cache : Cache} (sound : cache.Sound gateway.key) {response : Response}
    (passed : (gateway.handle outside cache request).reply = .value response) :
    ∃ token identity, parameter? request.target.query "c" = some token ∧
      Token.decode token gateway.key = .ok identity := by
  obtain ⟨reply, finishes⟩ := exists_finishes gateway request.target.query
  rw [here.bridge, reply_of_finishes sound finishes] at passed
  cases finishes with
  | incomplete => cases passed
  | rejected => cases passed
  | unsendable => cases passed
  | sentOn resumes accepted => exact ⟨_, _, (resumes_iff.mp resumes).1, accepted⟩

end Gateway

namespace Interleaving
open Gateway

/-- A text that a request offers as a token, in its session cookie or to a bridge. -/
def Presents (request : Request) (token : String) : Prop :=
  Session.token? request.headers = some token ∨ parameter? request.target.query "c" = some token

/-- A visitor who came back from the provider was handed on with this token. -/
def Serving.Returned (gateway : Gateway) (serving : Serving) (token : String) : Prop :=
  gateway.AtHub serving.request .callback ∧ ∃ response, serving.task = .done (.value response) ∧
    ("set-cookie", octets (Session.cookie token gateway.secureCookies).field) ∈ response.headers

/-- No request offers a good token that was not handed to a visitor before. -/
def Unforged (gateway : Gateway) (servings : List Serving) : Prop :=
  ∀ before serving after, servings = before ++ serving :: after →
    ∀ token identity, Presents serving.request token →
      Token.decode token gateway.key = .ok identity →
      ∃ earlier ∈ before, earlier.Returned gateway token

/-- A login of somebody: the code that came along was not empty and was taken by the
provider, the state names a route, and the provider told of this identity. -/
def Serving.LogsIn (gateway : Gateway) (serving : Serving) (identity : Identity) : Prop :=
  gateway.AtHub serving.request .callback ∧
    ∃ login : Login gateway serving.outside serving.request.target.query,
      login.code ≠ "" ∧ login.identity = identity ∧ serving.calls = login.calls

variable {gateway : Gateway} {capacity : Nat} {state : State}

theorem Serving.Faithful.logsIn {serving : Serving} (faithful : serving.Faithful gateway)
    {token : String} (returned : serving.Returned gateway token) :
    ∃ identity, serving.LogsIn gateway identity ∧ token = Token.encode identity gateway.key := by
  obtain ⟨here, response, finished, cookie⟩ := returned
  obtain ⟨same, calls⟩ := (faithful.alone 0).2 _ finished
  rw [here.callback] at same calls
  obtain ⟨login, handedOn, asked⟩ := login_of_callback same.symm
  refine ⟨login.identity, ⟨here, login, parameter?_ne_empty login.hasCode, rfl,
    calls.trans asked⟩, ?_⟩
  obtain ⟨location, fields⟩ := handOn_spec handedOn
  rw [fields] at cookie
  simp only [List.mem_cons, Prod.mk.injEq, List.not_mem_nil, or_false] at cookie
  rcases cookie with ⟨impossible, _⟩ | ⟨_, value⟩
  · exact absurd impossible (by decide)
  · exact Session.cookie_injective (octets_injective value)

/-- Somebody of the organization who logged in with one of these requests. -/
def Known (gateway : Gateway) (servings : List Serving) (identity : Identity) : Prop :=
  (∃ serving ∈ servings, serving.LogsIn gateway identity) ∧
    gateway.emailSuffix.toList <:+ identity.email.toList

theorem Unforged.known (unforged : Unforged gateway state.servings)
    (reached : Reachable gateway capacity state) {before after : List Serving} {serving : Serving}
    (among : state.servings = before ++ serving :: after) {token : String} {identity : Identity}
    (presented : Presents serving.request token)
    (accepted : Token.decode token gateway.key = .ok identity) : Known gateway before identity := by
  obtain ⟨earlier, inside, returned⟩ := unforged before serving after among token identity
    presented accepted
  have faithful := reached.sound.servings earlier (by rw [among]; exact List.mem_append_left _ inside)
  obtain ⟨known, loggedIn, rfl⟩ := faithful.logsIn returned
  rw [Token.decode_of_encode] at accepted
  cases accepted
  refine ⟨⟨earlier, inside, loggedIn⟩, ?_⟩
  obtain ⟨_, login, _, rfl, _⟩ := loggedIn
  exact Identity.suffix_of_emailEndsWith login.accepted

/-- As long as no token is made up, everybody whom a backend is told of, whom the hub
shows or who passes a bridge logged in before, with a profile that the provider told
of and an address with the ending that is set, whatever requests came in between. -/
theorem organization_restriction (reached : Reachable gateway capacity state)
    (unforged : Unforged gateway state.servings) {before after : List Serving} {serving : Serving}
    (among : state.servings = before ++ serving :: after) :
    (∀ sent, .backend sent ∈ serving.calls →
      ∃ identity, Relay.Names sent identity ∧ Known gateway before identity) ∧
    (∀ identity, gateway.AtHub serving.request .profile →
      serving.task = .done (.value (profileResponse (some identity))) →
      Known gateway before identity) ∧
    (∀ response, gateway.AtRoute serving.request .bridge →
      serving.task = .done (.value response) →
      ∃ token identity, parameter? serving.request.target.query "c" = some token ∧
        Token.decode token gateway.key = .ok identity ∧ Known gateway before identity) := by
  have faithful := reached.sound.servings serving (by rw [among]; simp)
  have empty := Cache.sound_empty gateway.key capacity
  obtain ⟨so_far, ended⟩ := faithful.alone capacity
  refine ⟨fun sent inside => ?_, fun identity here finished => ?_, fun response here finished => ?_⟩
  · obtain ⟨_, route, identity, admitted, made⟩ :=
      backend_of_handle empty (so_far.subset inside)
    obtain ⟨token, presented, accepted⟩ := admitted.session
    exact ⟨identity, (Relay.outgoing_spec made).2, unforged.known reached among (.inl presented) accepted⟩
  · obtain ⟨token, presented, accepted⟩ := here.session_of_profile empty (ended _ finished).1.symm
    exact unforged.known reached among (.inl presented) accepted
  · obtain ⟨token, identity, presented, accepted⟩ :=
      here.token_of_bridge empty (ended _ finished).1.symm
    exact ⟨token, identity, presented, accepted,
      unforged.known reached among (.inr presented) accepted⟩

end Interleaving

namespace OneRoute
open Interleaving

def visited : State := loggedIn.serve gateway outside visit

theorem reaches_visited : Reachable gateway 0 visited :=
  reaches_loggedIn.serve outside visit

theorem servings_visited : visited.servings =
    [.served gateway outside (.empty 0) login, .served gateway outside loggedIn.cache visit] :=
  rfl

theorem returned_login :
    (Serving.served gateway outside (.empty 0) login).Returned gateway token := by
  have here : gateway.AtHub login .callback := ⟨by decide, by decide⟩
  obtain ⟨leaf, made, _⟩ := Gateway.handOn_of_canonical (.inl rfl)
    (canonical_routes aliceLogin.route (List.mem_singleton_self _)) aliceLogin.back token
  refine ⟨here, gateway.sentOn (String.ofList leaf.text) token, ?_,
    List.mem_cons_of_mem _ (List.mem_singleton_self _)⟩
  rw [Serving.task_served, handle_login, made]
  rfl

theorem unforged_visited : Unforged gateway visited.servings := by
  have noCookie : Session.token? login.headers = none := by decide
  have noParameter : Gateway.parameter? login.target.query "c" = none := by decide +kernel
  have none : Gateway.parameter? visit.target.query "c" = none := by decide
  intro before serving after same offered identity presented accepted
  rw [servings_visited] at same
  -- The login offers nothing, and the visit offers the token of the login.
  rcases before with _ | ⟨first, _ | ⟨second, rest⟩⟩
  · cases same
    rcases presented with cookie | parameter
    · cases noCookie.symm.trans cookie
    · cases noParameter.symm.trans parameter
  · cases same
    rcases presented with cookie | parameter
    · cases token_visit.symm.trans cookie
      exact ⟨_, List.mem_cons_self, returned_login⟩
    · cases none.symm.trans parameter
  · have long := congrArg List.length same
    simp only [List.length_cons, List.length_append, List.length_nil, List.cons_append] at long
    omega

theorem organization_restriction_of_visit :
    Reachable gateway 0 visited ∧ Unforged gateway visited.servings ∧
      .backend sent ∈ (Serving.served gateway outside loggedIn.cache visit).calls ∧
      ∃ identity, Relay.Names sent identity ∧
        Known gateway [.served gateway outside (.empty 0) login] identity := by
  have once : (Serving.served gateway outside loggedIn.cache visit).calls = [.backend sent] := by
    rw [Serving.calls_served]
    exact Gateway.handle_of_admits reaches_loggedIn.sound.cache admits_visit outgoing_visit
  have inside : .backend sent ∈ (Serving.served gateway outside loggedIn.cache visit).calls := by
    rw [once]
    exact List.mem_singleton_self _
  have among : visited.servings = [.served gateway outside (.empty 0) login] ++
      .served gateway outside loggedIn.cache visit :: [] :=
    servings_visited
  exact ⟨reaches_visited, unforged_visited, inside,
    (organization_restriction reaches_visited unforged_visited among).1 sent inside⟩

end OneRoute

end LoginGateway
