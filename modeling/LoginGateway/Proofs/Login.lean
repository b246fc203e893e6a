import LoginGateway.Gateway.Serve
import LoginGateway.Proofs.ConfiguredRoutes

/-! What a visitor who comes back from the provider has to have passed before it is
handed on, and that nothing else is handed on. -/

namespace LoginGateway

def Reply.ofResult {α : Type} : Except Fault α → Reply α
  | .ok made => .value made
  | .error fault => .failed fault

theorem Reply.ofResult_value {α : Type} {result : Except Fault α} {value : α}
    (same : ofResult result = .value value) : result = .ok value := by
  cases result with
  | ok made =>
    cases same
    rfl
  | error fault => cases same

theorem Outcome.quiet_eq (cache : Cache) (result : Except Fault Response) :
    quiet cache result = ⟨.ofResult result, cache, []⟩ := by
  cases result <;> rfl

@[simp] theorem Outcome.quiet_calls (cache : Cache) (result : Except Fault Response) :
    (quiet cache result).calls = [] := by
  rw [quiet_eq]

/-- All that a callback needs: a code and a state that names a route, and a provider
that takes the code and knows somebody whose address has the right ending. -/
structure Login (gateway : Gateway) (outside : Outside) (query : Option String) where
  code : String
  state : String
  back : Url
  route : Route
  accessToken : String
  identity : Identity
  hasCode : Gateway.parameter? query "code" = some code
  hasState : Gateway.parameter? query "state" = some state
  stateRead : Url.parse state.toList = .ok back
  routed : gateway.stateRoute? back = some route
  exchanged : outside.exchange code = .value accessToken
  fetched : outside.fetchProfile accessToken = .value identity
  accepted : identity.emailEndsWith gateway.emailSuffix = true

namespace Login

variable {gateway : Gateway} {outside : Outside} {query : Option String}

def token (login : Login gateway outside query) : String :=
  Token.encode login.identity gateway.key

def calls (login : Login gateway outside query) : List Call :=
  [.exchange login.code, .fetchProfile login.accessToken]

def handOn (login : Login gateway outside query) : Except Fault Response :=
  gateway.handOn login.route login.back login.token

end Login

namespace Gateway

variable {gateway : Gateway} {outside : Outside} {query : Option String} {cache : Cache}

theorem parameter?_eq_some_iff {name value : String} : parameter? query name = some value ↔
    Form.first? (queryPairs query) name = some value ∧ value ≠ "" := by
  rw [parameter?, Option.filter_eq_some_iff, decide_eq_true_eq]

theorem parameter?_ne_empty {name value : String} (found : parameter? query name = some value) :
    value ≠ "" :=
  (parameter?_eq_some_iff.mp found).2

/-- With a login a callback stores the profile under its token and hands the visitor on. -/
theorem callback_of_login (login : Login gateway outside query) (cache : Cache) :
    gateway.callback outside query cache =
      ⟨.ofResult login.handOn, cache.put login.token login.identity, login.calls⟩ := by
  simp only [callback, login.hasCode, login.hasState, login.stateRead, login.routed,
    login.exchanged, login.fetched, accept, login.accepted, if_true, Outcome.quiet_eq,
    Outcome.after, Login.calls, Login.handOn, Login.token]

/-- What a query asks for: it has a first code, and a first state that is a URL whose host
and port lead to a route. -/
structure AsksFor (gateway : Gateway) (query : Option String) (code : String) (route : Route) :
    Prop where
  hasCode : Form.first? (queryPairs query) "code" = some code
  filled : code ≠ ""
  hasState : ∃ state back host, Form.first? (queryPairs query) "state" = some state ∧ state ≠ "" ∧
    Url.parse state.toList = .ok back ∧ back.hostAndPort? = some host ∧
    gateway.routes.find? (canonicalHost (String.ofList host)) = some route

theorem asksFor_of_routed {code state : String} {back : Url} {route : Route}
    (hasCode : parameter? query "code" = some code) (hasState : parameter? query "state" = some state)
    (stateRead : Url.parse state.toList = .ok back) (routed : gateway.stateRoute? back = some route) :
    gateway.AsksFor query code route := by
  obtain ⟨first, filled⟩ := parameter?_eq_some_iff.mp hasCode
  obtain ⟨found, named⟩ := parameter?_eq_some_iff.mp hasState
  obtain ⟨host, written, leads⟩ := Option.bind_eq_some_iff.mp routed
  exact ⟨first, filled, state, back, host, found, named, stateRead, written, leads⟩

def IsAsked (gateway : Gateway) (query : Option String) : Call → Prop
  | .exchange code => ∃ route, gateway.AsksFor query code route
  | .fetchProfile _ => True
  | .backend _ => False

/-- The provider breaks one of the calls off that it gets. -/
def Breaks (gateway : Gateway) (outside : Outside) (query : Option String) : Prop :=
  ∃ code route, gateway.AsksFor query code route ∧ (outside.exchange code = .crashed ∨
    ∃ accessToken, outside.exchange code = .value accessToken ∧
      outside.fetchProfile accessToken = .crashed)

/-- How a callback may end. -/
inductive Comes (gateway : Gateway) (outside : Outside) (query : Option String) (cache : Cache) :
    Outcome → Prop where
  | refused (absent : Login gateway outside query → False) (reason : String) {calls : List Call}
      (asked : ∀ call ∈ calls, gateway.IsAsked query call) :
      Comes gateway outside query cache ⟨.failed (.denied reason), cache, calls⟩
  | crashed (absent : Login gateway outside query → False) (breaks : gateway.Breaks outside query)
      {calls : List Call} (asked : ∀ call ∈ calls, gateway.IsAsked query call) :
      Comes gateway outside query cache ⟨.crashed, cache, calls⟩
  | accepted (login : Login gateway outside query) : Comes gateway outside query cache
      ⟨.ofResult login.handOn, cache.put login.token login.identity, login.calls⟩

theorem comes_of_callback (gateway : Gateway) (outside : Outside) (query : Option String)
    (cache : Cache) : gateway.Comes outside query cache (gateway.callback outside query cache) := by
  by_cases possible : Nonempty (Login gateway outside query)
  · obtain ⟨login⟩ := possible
    rw [callback_of_login login]
    exact .accepted login
  · -- Every way out but the last is a failure, and the last would be a login.
    have absent : Login gateway outside query → False := fun login => possible ⟨login⟩
    unfold callback
    cases hasCode : parameter? query "code" with
    | none => exact .refused absent _ nofun
    | some code =>
      cases hasState : parameter? query "state" with
      | none => exact .refused absent _ nofun
      | some state =>
        simp only []
        cases stateRead : Url.parse state.toList with
        | error fault => exact .refused absent _ nofun
        | ok back =>
          simp only []
          cases routed : gateway.stateRoute? back with
          | none => exact .refused absent _ nofun
          | some route =>
            have asks := asksFor_of_routed hasCode hasState stateRead routed
            have once : ∀ call ∈ [Call.exchange code], gateway.IsAsked query call := by
              simp only [List.forall_mem_singleton]
              exact ⟨route, asks⟩
            have twice (accessToken : String) : ∀ call ∈ [.exchange code, .fetchProfile accessToken],
                gateway.IsAsked query call := by
              simp only [List.forall_mem_cons]
              exact ⟨⟨route, asks⟩, trivial, nofun⟩
            simp only []
            cases exchanged : outside.exchange code with
            | crashed => exact .crashed absent ⟨code, route, asks, .inl exchanged⟩ once
            | failed fault => exact .refused absent _ once
            | value accessToken =>
              simp only []
              cases fetched : outside.fetchProfile accessToken with
              | crashed =>
                have breaks : gateway.Breaks outside query :=
                  ⟨code, route, asks, .inr ⟨accessToken, exchanged, fetched⟩⟩
                exact .crashed absent breaks (twice accessToken)
              | failed fault => exact .refused absent _ (twice accessToken)
              | value identity =>
                simp only [accept]
                split
                next accepted =>
                  exact (absent ⟨code, state, back, route, accessToken, identity, hasCode,
                    hasState, stateRead, routed, exchanged, fetched, accepted⟩).elim
                next => exact .refused absent _ (twice accessToken)

theorem callback_backend (sent : Outgoing) :
    .backend sent ∉ (gateway.callback outside query cache).calls := by
  have comes := gateway.comes_of_callback outside query cache
  generalize gateway.callback outside query cache = outcome at comes ⊢
  cases comes with
  | refused absent reason asked => exact asked _
  | crashed absent breaks asked => exact asked _
  | accepted login => simp [Login.calls]

theorem login_of_callback {response : Response}
    (ended : (gateway.callback outside query cache).reply = .value response) :
    ∃ login : Login gateway outside query, login.handOn = .ok response ∧
      (gateway.callback outside query cache).calls = login.calls := by
  have comes := gateway.comes_of_callback outside query cache
  generalize gateway.callback outside query cache = outcome at comes ended ⊢
  cases comes with
  | refused => cases ended
  | crashed => cases ended
  | accepted login => exact ⟨login, Reply.ofResult_value ended, rfl⟩

theorem handOn_spec {route : Route} {back : Url} {token : String} {response : Response}
    (made : gateway.handOn route back token = .ok response) :
    ∃ location, response.headers = [("location", location),
      ("set-cookie", octets (Session.cookie token gateway.secureCookies).field)] := by
  simp only [handOn, bind, Except.bind] at made
  split at made
  next => cases made
  next bridge _ =>
    unfold Response.found at made
    simp only [] at made
    split at made
    next => cases made
    next _ _ found =>
      split at found
      next =>
        cases found
        cases made
        exact ⟨_, rfl⟩
      next => cases found

end Gateway

namespace OneRoute

def alice : Identity := ⟨"alice@org.com", "Alice", ""⟩

def outside : Outside where
  exchange code := .value code
  fetchProfile _ := .value alice
  backend _ := .ok ⟨200, [], [], true⟩

def login : Request where
  method := "GET"
  target := ⟨none, "/__auth__/", some "code=1&state=http%3A%2F%2Fapp.org.com%2F"⟩
  headers := [("host", octets "sso.org.com")]
  body := []

def token : String :=
  "qnYpfjavm30SIDPQIgG-rV5voGdTtnnYlU1eTmyKVsg=,eyJlbWFpbCI6ImFsaWNlQG9yZy5jb20iLCJuYW1lIjoiQWxpY2UiLCJwaWN0dXJlIjoiIn0="

set_option maxRecDepth 100000 in
theorem encode_alice : Token.encode alice gateway.key = token := by
  decide

def aliceLogin : Login gateway outside login.target.query where
  code := "1"
  state := "http://app.org.com/"
  back := { backend with host := some (.domain "app.org.com".toList), port := none }
  route := ⟨"app.org.com", backend⟩
  accessToken := "1"
  identity := alice
  hasCode := by decide +kernel
  hasState := by decide +kernel
  stateRead := by decide +kernel
  routed := by decide
  exchanged := rfl
  fetched := rfl
  accepted := by decide

theorem handle_login (cache : Cache) :
    gateway.handle outside cache login =
      ⟨.ofResult (gateway.handOn aliceLogin.route aliceLogin.back token), cache.put token alice,
        aliceLogin.calls⟩ := by
  have host : gateway.routes.find? (Gateway.requestHost login) = none := by decide
  have errand : HubErrand.ofPath login.target.path = .callback := by decide
  rw [← encode_alice]
  simp only [Gateway.handle, host, Gateway.serveHub, errand]
  exact Gateway.callback_of_login aliceLogin cache

end OneRoute

end LoginGateway
