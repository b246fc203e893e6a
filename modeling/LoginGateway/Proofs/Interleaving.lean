import LoginGateway.Gateway.Serve
import Mathlib.Data.List.Forall2
import Mathlib.Logic.Relation

/-! Requests that are served at the same time. Serving one is cut into steps: each
looks once into the cache, writes to it once, or asks the outside once. Steps of
different requests come in any order, and the cache may lose entries at any time.
A request whose steps are not interrupted is served as if it were alone. -/

namespace LoginGateway.Interleaving
open Gateway

/-- What is left to do for a request. -/
inductive Task where
  | done (reply : Reply Response)
  | lookUp (token : String) (next : Option Identity → Task)
  | store (token : String) (identity : Identity) (next : Task)
  | exchange (code : String) (next : Reply String → Task)
  | fetchProfile (accessToken : String) (next : Reply Identity → Task)
  | backend (request : Outgoing) (next : Except TransportFault Incoming → Task)

namespace Task

def ofResult : Except Fault Response → Task
  | .ok response => .done (.value response)
  | .error fault => .done (.failed fault)

def resolve (token : String) (key : SigningKey) (next : Option Identity → Task) : Task :=
  if Token.looksLikeToken token then
    .lookUp token fun
      | some identity => next (some identity)
      | none =>
        match Token.decode token key with
        | .ok identity => .store token identity (next (some identity))
        | .error _ => next none
  else next none

def visitor (headers : Headers) (key : SigningKey) (next : Option Identity → Task) : Task :=
  match Session.token? headers with
  | some token => resolve token key next
  | none => next none

def accept (gateway : Gateway) (route : Route) (back : Url) (identity : Identity) : Task :=
  if identity.emailEndsWith gateway.emailSuffix then
    let token := Token.encode identity gateway.key
    .store token identity (.ofResult (gateway.handOn route back token))
  else .ofResult (.error (.denied (identity.email ++ " is outside " ++ gateway.emailSuffix)))

def callback (gateway : Gateway) (query : Option String) : Task :=
  let refuse := fun reason : String => Task.ofResult (.error (.denied reason))
  match parameter? query "code", parameter? query "state" with
  | some code, some state =>
    match Url.parse state.toList with
    | .error _ => refuse "state is not a URL"
    | .ok back =>
      match gateway.stateRoute? back with
      | none => refuse "state does not name a frontend host"
      | some route =>
        .exchange code fun
          | .crashed => .done .crashed
          | .failed fault => refuse ("code exchange failed: " ++ fault.message)
          | .value accessToken =>
            .fetchProfile accessToken fun
              | .crashed => .done .crashed
              | .failed fault => refuse ("profile fetch failed: " ++ fault.message)
              | .value identity => accept gateway route back identity
  | _, _ => refuse "callback without code or state"

def completeBridge (gateway : Gateway) (query : Option String) : Task :=
  let token := (parameter? query "c").getD ""
  let resume := (Form.first? (queryPairs query) "p").getD ""
  if token = "" ∨ !isLocalPath resume then
    .ofResult (.error (.bridge "bridge requires c and a local path p"))
  else
    resolve token gateway.key fun
      | none => .ofResult (.error (.denied "bridge token rejected"))
      | some _ => .ofResult ((Response.found resume).map
          (·.withCookie (Session.cookie token gateway.secureCookies)))

def forward (route : Route) (identity : Identity) (request : Request) : Task :=
  match Relay.outgoing route identity request with
  | .error fault => .ofResult (.error (Relay.unavailable route fault))
  | .ok made =>
    .backend made fun
      | .ok answer => .ofResult (.ok (Relay.response answer))
      | .error fault => .ofResult (.error (Relay.unavailable route fault))

def ofRoute (gateway : Gateway) (route : Route) (request : Request) : Task :=
  match Errand.ofPath request.target.path with
  | .bridge => completeBridge gateway request.target.query
  | .logout => .ofResult (gateway.logout request.method)
  | .relay =>
    visitor request.headers gateway.key fun
      | some identity => forward route identity request
      | none => .ofResult (gateway.toProvider route request.target)

def ofHub (gateway : Gateway) (request : Request) : Task :=
  match HubErrand.ofPath request.target.path with
  | .callback => callback gateway request.target.query
  | .logout => .ofResult (gateway.logout request.method)
  | .profile =>
    visitor request.headers gateway.key fun visitor => .ofResult (.ok (profileResponse visitor))
  | .unknown => .ofResult (.ok (.plain 404 "Not Found\n"))

def ofRequest (gateway : Gateway) (request : Request) : Task :=
  match gateway.routes.find? (requestHost request) with
  | some route => ofRoute gateway route request
  | none => ofHub gateway request

def outcome (outside : Outside) : Task → Cache → Outcome
  | .done reply, cache => ⟨reply, cache, []⟩
  | .lookUp token next, cache => (next (cache.get? token)).outcome outside cache
  | .store token identity next, cache => next.outcome outside (cache.put token identity)
  | .exchange code next, cache =>
    .after (.exchange code) ((next (outside.exchange code)).outcome outside cache)
  | .fetchProfile accessToken next, cache =>
    .after (.fetchProfile accessToken)
      ((next (outside.fetchProfile accessToken)).outcome outside cache)
  | .backend request next, cache =>
    .after (.backend request) ((next (outside.backend request)).outcome outside cache)

end Task

/-- A request with the services outside as it finds them, the calls that were made
for it and what is left to do. -/
structure Serving where
  outside : Outside
  request : Request
  calls : List Call
  task : Task

namespace Serving

def fresh (gateway : Gateway) (outside : Outside) (request : Request) : Serving :=
  ⟨outside, request, [], .ofRequest gateway request⟩

def advance (serving : Serving) (cache : Cache) : Serving × Cache :=
  match serving.task with
  | .done _ => (serving, cache)
  | .lookUp token next => ({ serving with task := next (cache.get? token) }, cache)
  | .store token identity next => ({ serving with task := next }, cache.put token identity)
  | .exchange code next =>
    ({ serving with
        calls := serving.calls ++ [.exchange code]
        task := next (serving.outside.exchange code) }, cache)
  | .fetchProfile accessToken next =>
    ({ serving with
        calls := serving.calls ++ [.fetchProfile accessToken]
        task := next (serving.outside.fetchProfile accessToken) }, cache)
  | .backend request next =>
    ({ serving with
        calls := serving.calls ++ [.backend request]
        task := next (serving.outside.backend request) }, cache)

end Serving

/-- The cache and all requests that ever arrived, in the order of their arrival. -/
structure State where
  cache : Cache
  servings : List Serving

/-- What may happen next: a request arrives, any request makes a step, or any
entries leave the cache. -/
inductive Step (gateway : Gateway) : State → State → Prop where
  | arrive (cache : Cache) (servings : List Serving) (outside : Outside) (request : Request) :
      Step gateway ⟨cache, servings⟩ ⟨cache, servings ++ [.fresh gateway outside request]⟩
  | advance (cache : Cache) (before : List Serving) (serving : Serving) (after : List Serving) :
      Step gateway ⟨cache, before ++ serving :: after⟩
        ⟨(serving.advance cache).2, before ++ (serving.advance cache).1 :: after⟩
  | evict (cache : Cache) (servings : List Serving) (kept : List (String × Identity))
      (fewer : kept ⊆ cache.entries) :
      Step gateway ⟨cache, servings⟩ ⟨{ cache with entries := kept }, servings⟩

def State.initial (capacity : Nat) : State := ⟨.empty capacity, []⟩

/-- What any number of steps can lead to from an empty cache and no requests. -/
def Reachable (gateway : Gateway) (capacity : Nat) (state : State) : Prop :=
  Relation.ReflTransGen (Step gateway) (.initial capacity) state

namespace Task

variable (gateway : Gateway) (outside : Outside) (cache : Cache)

@[simp] theorem outcome_ofResult (result : Except Fault Response) :
    (ofResult result).outcome outside cache = .quiet cache result := by
  cases result <;> rfl

theorem outcome_resolve (token : String) (key : SigningKey) (next : Option Identity → Task) :
    (resolve token key next).outcome outside cache =
      (next (Session.resolve token key cache).1).outcome outside
        (Session.resolve token key cache).2 := by
  unfold resolve Session.resolve
  split
  · rw [outcome]
    cases cache.get? token with
    | some identity => rfl
    | none => cases Token.decode token key <;> rfl
  · rfl

theorem outcome_visitor (headers : Headers) (key : SigningKey) (next : Option Identity → Task) :
    (visitor headers key next).outcome outside cache =
      (next (Session.visitor headers key cache).1).outcome outside
        (Session.visitor headers key cache).2 := by
  unfold visitor Session.visitor
  cases Session.token? headers with
  | some token => exact outcome_resolve outside cache token key next
  | none => rfl

theorem outcome_accept (route : Route) (back : Url) (identity : Identity) :
    (accept gateway route back identity).outcome outside cache =
      gateway.accept route back identity cache := by
  unfold accept Gateway.accept
  split
  · rw [outcome, outcome_ofResult]
  · rw [outcome_ofResult]

theorem outcome_callback (query : Option String) :
    (callback gateway query).outcome outside cache = gateway.callback outside query cache := by
  unfold callback Gateway.callback
  cases parameter? query "code" with
  | none => exact outcome_ofResult outside cache _
  | some code =>
    cases parameter? query "state" with
    | none => exact outcome_ofResult outside cache _
    | some state =>
      simp only []
      cases Url.parse state.toList with
      | error _ => exact outcome_ofResult outside cache _
      | ok back =>
        simp only []
        cases gateway.stateRoute? back with
        | none => exact outcome_ofResult outside cache _
        | some route =>
          simp only [outcome]
          cases outside.exchange code with
          | crashed => rfl
          | failed fault => exact congrArg _ (outcome_ofResult outside cache _)
          | value accessToken =>
            simp only [outcome]
            cases outside.fetchProfile accessToken with
            | crashed => rfl
            | failed fault => simp only [outcome_ofResult]
            | value identity => simp only [outcome_accept]

theorem outcome_completeBridge (query : Option String) :
    (completeBridge gateway query).outcome outside cache = gateway.completeBridge query cache := by
  unfold completeBridge Gateway.completeBridge
  simp only []
  split
  · exact outcome_ofResult outside cache _
  · rw [outcome_resolve]
    obtain ⟨found, left⟩ := Session.resolve ((parameter? query "c").getD "") gateway.key cache
    cases found <;> exact outcome_ofResult outside left _

theorem outcome_forward (route : Route) (identity : Identity) (request : Request) :
    (forward route identity request).outcome outside cache =
      Relay.forward outside route identity request cache := by
  unfold forward Relay.forward
  cases Relay.outgoing route identity request with
  | error fault => exact outcome_ofResult outside cache _
  | ok made =>
    simp only [outcome]
    cases outside.backend made <;> simp only [outcome_ofResult]

theorem outcome_ofRoute (route : Route) (request : Request) :
    (ofRoute gateway route request).outcome outside cache =
      gateway.serveRoute outside cache route request := by
  unfold ofRoute serveRoute
  cases Errand.ofPath request.target.path with
  | bridge => exact outcome_completeBridge gateway outside cache _
  | logout => exact outcome_ofResult outside cache _
  | relay =>
    simp only [outcome_visitor]
    obtain ⟨found, left⟩ := Session.visitor request.headers gateway.key cache
    cases found with
    | some identity => exact outcome_forward outside left route identity request
    | none => exact outcome_ofResult outside left _

theorem outcome_ofHub (request : Request) :
    (ofHub gateway request).outcome outside cache = gateway.serveHub outside cache request := by
  unfold ofHub serveHub
  cases HubErrand.ofPath request.target.path with
  | callback => exact outcome_callback gateway outside cache _
  | logout => exact outcome_ofResult outside cache _
  | profile => simp only [outcome_visitor, outcome_ofResult]
  | unknown => exact outcome_ofResult outside cache _

/-- Cut into steps or not, a request comes to the same. -/
theorem outcome_ofRequest (request : Request) :
    (ofRequest gateway request).outcome outside cache = gateway.handle outside cache request := by
  unfold ofRequest handle
  cases gateway.routes.find? (requestHost request) with
  | some route => exact outcome_ofRoute gateway outside cache route request
  | none => exact outcome_ofHub gateway outside cache request

end Task

/-- The last request goes on to its end without being interrupted. -/
theorem finishes (gateway : Gateway) (outside : Outside) (request : Request) (task : Task)
    (cache : Cache) (before : List Serving) (calls : List Call) :
    Relation.ReflTransGen (Step gateway) ⟨cache, before ++ [⟨outside, request, calls, task⟩]⟩
      ⟨(task.outcome outside cache).cache, before ++ [⟨outside, request,
        calls ++ (task.outcome outside cache).calls, .done (task.outcome outside cache).reply⟩]⟩ := by
  induction task generalizing cache calls with
  | done reply =>
    simp only [Task.outcome, List.append_nil]
    exact .refl
  | lookUp token next ih => exact .head (.advance cache before _ []) (ih _ cache calls)
  | store token identity next ih =>
    exact .head (.advance cache before _ []) (ih (cache.put token identity) calls)
  | exchange code next ih =>
    have later := ih (outside.exchange code) cache (calls ++ [.exchange code])
    rw [List.append_assoc] at later
    exact .head (.advance cache before _ []) later
  | fetchProfile accessToken next ih =>
    have later := ih (outside.fetchProfile accessToken) cache (calls ++ [.fetchProfile accessToken])
    rw [List.append_assoc] at later
    exact .head (.advance cache before _ []) later
  | backend made next ih =>
    have later := ih (outside.backend made) cache (calls ++ [.backend made])
    rw [List.append_assoc] at later
    exact .head (.advance cache before _ []) later

def Serving.served (gateway : Gateway) (outside : Outside) (cache : Cache) (request : Request) :
    Serving :=
  let outcome := gateway.handle outside cache request
  ⟨outside, request, outcome.calls, .done outcome.reply⟩

theorem Serving.task_served (gateway : Gateway) (outside : Outside) (cache : Cache)
    (request : Request) : (served gateway outside cache request).task =
      .done (gateway.handle outside cache request).reply :=
  rfl

theorem Serving.calls_served (gateway : Gateway) (outside : Outside) (cache : Cache)
    (request : Request) : (served gateway outside cache request).calls =
      (gateway.handle outside cache request).calls :=
  rfl

def State.serve (state : State) (gateway : Gateway) (outside : Outside) (request : Request) :
    State :=
  ⟨(gateway.handle outside state.cache request).cache,
    state.servings ++ [.served gateway outside state.cache request]⟩

section

variable {gateway : Gateway} {capacity : Nat} {state : State}

theorem Reachable.serve (reached : Reachable gateway capacity state) (outside : Outside)
    (request : Request) : Reachable gateway capacity (state.serve gateway outside request) := by
  have alone := finishes gateway outside request (Task.ofRequest gateway request) state.cache
    state.servings []
  rw [Task.outcome_ofRequest, List.nil_append] at alone
  exact reached.trans (.head (.arrive state.cache state.servings outside request) alone)

def Serving.Answered (serving : Serving) (answer : Response × List Call) : Prop :=
  ∃ reply, serving.task = .done reply ∧
    (Gateway.answer reply).delivered serving.request.method = answer.1 ∧ serving.calls = answer.2

/-- Requests that are served in turn are one way to go on. -/
theorem Reachable.run (reached : Reachable gateway capacity state)
    (requests : List (Outside × Request)) :
    ∃ later, Reachable gateway capacity
        ⟨(gateway.run state.cache requests).2, state.servings ++ later⟩ ∧
      later.map (fun serving => (serving.outside, serving.request)) = requests ∧
      List.Forall₂ Serving.Answered later (gateway.run state.cache requests).1 := by
  induction requests generalizing state with
  | nil => exact ⟨[], by rw [List.append_nil]; exact reached, rfl, .nil⟩
  | cons first rest ih =>
    obtain ⟨outside, request⟩ := first
    obtain ⟨later, further, same, answered⟩ := ih (reached.serve outside request)
    refine ⟨.served gateway outside state.cache request :: later, ?_, ?_, ?_⟩
    · rw [State.serve, List.append_assoc] at further
      exact further
    · rw [List.map_cons, same]
      rfl
    · exact .cons ⟨_, rfl, rfl, rfl⟩ answered

end

end LoginGateway.Interleaving
