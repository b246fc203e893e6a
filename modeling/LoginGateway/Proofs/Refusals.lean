import LoginGateway.Proofs.BridgeDecision
import LoginGateway.Proofs.IdentityHeaders

/-! How requests for the gateway's own pages are answered, all but those to log out. A
visitor goes on with a good token or is refused. A refusal leads nowhere, leaves no cookie,
and looks the same whatever led to it. -/

namespace LoginGateway

/-- A request for one of the gateway's own pages, but not for the one to log out. -/
structure Request.IsForLogin (request : Request) : Prop where
  own : isAuthPath request.target.path = true
  notLogout : request.target.path ≠ logoutPath

namespace Response

variable {response : Response} {bytes : Octets}

/-- Where a response is no success, the method decides on nothing but its content. -/
theorem delivered_of_not_success (failed : response.isSuccess = false)
    (fixed : response.body = .fixed bytes) (method : String) :
    delivered method response = { response with
      headers := response.headers.setDefault "content-length" (octets (toString bytes.length))
      body := if method = "HEAD" then .fixed [] else response.body } := by
  rw [delivered, failed, fixed]
  simp

theorem values_delivered (failed : response.isSuccess = false) (fixed : response.body = .fixed bytes)
    (method : String) {name : String} (other : name ≠ "content-length") :
    (response.delivered method).headers.values name = response.headers.values name := by
  rw [delivered_of_not_success failed fixed]
  simp only [Headers.setDefault]
  split
  · rfl
  · exact Headers.values_set_other _ other _

theorem status_delivered (failed : response.isSuccess = false)
    (fixed : response.body = .fixed bytes) (method : String) :
    (response.delivered method).status = response.status := by
  rw [delivered_of_not_success failed fixed]

theorem found_cases (location : String) :
    found location = .ok ⟨302, [("location", octets location)], .fixed []⟩ ∨
      ∃ reason, found location = .error (.bridge reason) := by
  rw [found]
  split
  · exact .inl rfl
  · exact .inr ⟨_, rfl⟩

end Response

namespace Gateway

variable {gateway : Gateway} {outside : Outside} {cache : Cache} {query : Option String}

/-- How a login may end: the visitor is sent on with a good token as its cookie or is
refused by the words of a status alone, or something breaks. -/
inductive Ends (gateway : Gateway) : Response → Prop where
  | sentOn (location : String) {token : String} {identity : Identity}
      (accepted : Token.decode token gateway.key = .ok identity) :
      Ends gateway (gateway.sentOn location token)
  | refused {status : Nat} (listed : status = 400 ∨ status = 403) :
      Ends gateway (.plain status (Response.reason status ++ "\n"))
  | broken (text : String) : Ends gateway (.plain 500 text)

theorem ends_of_bridge (reason : String) :
    gateway.Ends (answer (.failed (.bridge reason))) :=
  .refused (.inl rfl)

theorem ends_of_denied (reason : String) :
    gateway.Ends (answer (.failed (.denied reason))) :=
  .refused (.inr rfl)

/-- The cookie is only set once there is a place to go on to. -/
theorem ends_of_found (location : String) {token : String} {identity : Identity}
    (accepted : Token.decode token gateway.key = .ok identity) :
    gateway.Ends (answer (.ofResult ((Response.found location).map
      (·.withCookie (Session.cookie token gateway.secureCookies))))) := by
  rcases Response.found_cases location with found | ⟨reason, refused⟩
  · rw [found]
    exact .sentOn location accepted
  · rw [refused]
    exact ends_of_bridge reason

theorem ends_of_handOn (route : Route) (back : Url) {token : String} {identity : Identity}
    (accepted : Token.decode token gateway.key = .ok identity) :
    gateway.Ends (answer (.ofResult (gateway.handOn route back token))) := by
  unfold handOn
  cases made : gateway.bridgeUrl route (String.ofList back.pathAndQuery) token with
  | error fault =>
    unfold bridgeUrl at made
    split at made
    · cases made
    · cases made
      exact .broken _
  | ok bridge => exact ends_of_found (String.ofList bridge.text) accepted

theorem ends_of_callback : gateway.Ends (answer (gateway.callback outside query cache).reply) := by
  have comes := gateway.comes_of_callback outside query cache
  generalize gateway.callback outside query cache = outcome at comes ⊢
  cases comes with
  | refused absent reason asked => exact ends_of_denied reason
  | crashed => exact .broken _
  | accepted login =>
    exact ends_of_handOn login.route login.back (Token.decode_of_encode login.identity gateway.key)

theorem ends_of_completeBridge (sound : cache.Sound gateway.key) :
    gateway.Ends (answer (gateway.completeBridge query cache).reply) := by
  obtain ⟨reply, finishes⟩ := exists_finishes gateway query
  rw [reply_of_finishes sound finishes]
  cases finishes with
  | incomplete => exact ends_of_bridge _
  | rejected => exact ends_of_denied _
  | unsendable => exact ends_of_bridge _
  | sentOn resumes accepted => exact .sentOn _ accepted

/-- Every request for a login ends so, whether its host has a backend or not. -/
theorem ends_of_handle {request : Request} (asked : request.IsForLogin)
    (sound : cache.Sound gateway.key) :
    gateway.Ends (answer (gateway.handle outside cache request).reply) := by
  unfold handle
  split
  next route _ =>
    have errand : Errand.ofPath request.target.path = .bridge := by
      simp [Errand.ofPath, asked.notLogout, asked.own]
    simp only [serveRoute, errand]
    exact ends_of_completeBridge sound
  next =>
    have notRoot : request.target.path ≠ "/" := by
      intro root
      have own := asked.own
      rw [root] at own
      exact absurd own (by decide)
    have errand : HubErrand.ofPath request.target.path = .callback := by
      simp [HubErrand.ofPath, asked.notLogout, notRoot, asked.own]
    simp only [serveHub, errand]
    exact ends_of_callback

variable {response : Response}

theorem Ends.fails (ends : gateway.Ends response) : response.isSuccess = false := by
  cases ends with
  | sentOn => rfl
  | refused listed => rcases listed with rfl | rfl <;> rfl
  | broken => rfl

theorem Ends.fixed (ends : gateway.Ends response) : ∃ bytes, response.body = .fixed bytes := by
  cases ends <;> exact ⟨_, rfl⟩

theorem values_sentOn (gateway : Gateway) (location token : String) :
    (gateway.sentOn location token).headers.values "location" = [octets location] ∧
      (gateway.sentOn location token).headers.values "set-cookie" =
        [octets (Session.cookie token gateway.secureCookies).field] := by
  simp [sentOn, Headers.values]

theorem values_plain (status : Nat) (text : String) :
    (Response.plain status text).headers.values "location" = [] ∧
      (Response.plain status text).headers.values "set-cookie" = [] := by
  simp [Response.plain, Headers.values]

/-- A response that sends a visitor on with a good token as its cookie. -/
structure SendsOn (gateway : Gateway) (response : Response) : Prop where
  status : response.status = 302
  location : response.headers.values "location" ≠ []
  cookie : ∃ field token identity, response.headers.values "set-cookie" = [octets field] ∧
    Cookie.read? (Cookie.kept field) = some (Session.cookieName, token) ∧
    Token.decode token gateway.key = .ok identity

/-- A response that says by its status that nothing came of a request. -/
structure TurnsAway (response : Response) : Prop where
  status : response.status = 400 ∨ response.status = 403 ∨ response.status = 500
  location : response.headers.values "location" = []
  cookie : response.headers.values "set-cookie" = []

theorem Ends.cases (ends : gateway.Ends response) (method : String) :
    gateway.SendsOn (response.delivered method) ∨ TurnsAway (response.delivered method) := by
  obtain ⟨bytes, fixed⟩ := ends.fixed
  have status := Response.status_delivered ends.fails fixed method
  have location := Response.values_delivered ends.fails fixed method
    (by decide : "location" ≠ "content-length")
  have cookie := Response.values_delivered ends.fails fixed method
    (by decide : "set-cookie" ≠ "content-length")
  cases ends with
  | @sentOn place token identity accepted =>
    obtain ⟨place, field⟩ := values_sentOn gateway place token
    rw [place] at location
    rw [field] at cookie
    refine .inl ⟨status, ?_, _, token, identity, cookie,
      Session.read?_cookie token gateway.secureCookies, accepted⟩
    rw [location]
    exact List.cons_ne_nil _ _
  | @refused known listed =>
    obtain ⟨noPlace, noField⟩ := values_plain known (Response.reason known ++ "\n")
    rw [noPlace] at location
    rw [noField] at cookie
    exact .inr ⟨by rw [status]; exact listed.imp_right .inl, location, cookie⟩
  | broken text =>
    obtain ⟨noPlace, noField⟩ := values_plain 500 text
    rw [noPlace] at location
    rw [noField] at cookie
    exact .inr ⟨by rw [status]; exact .inr (.inr rfl), location, cookie⟩

theorem Ends.same {other : Response} (ends : gateway.Ends response) (others : gateway.Ends other)
    (listed : response.status = 400 ∨ response.status = 403)
    (same : other.status = response.status) : other = response := by
  cases ends with
  | sentOn => rcases listed with impossible | impossible <;> cases impossible
  | broken => rcases listed with impossible | impossible <;> cases impossible
  | refused =>
    cases others with
    | sentOn => rcases listed with known | known <;> cases same.trans known
    | broken => rcases listed with known | known <;> cases same.trans known
    | refused =>
      cases same
      rfl

end Gateway

namespace Interleaving
open Gateway

/-- The responses that a request gets in states that can be reached: where it is served
at once, or where its steps were made among those of others. -/
inductive Receives (gateway : Gateway) (request : Request) : Response → Prop where
  | atOnce {capacity : Nat} {state : State} (reached : Reachable gateway capacity state)
      (outside : Outside) : Receives gateway request (gateway.serve outside state.cache request).1
  | among {capacity : Nat} {state : State} (reached : Reachable gateway capacity state)
      {serving : Serving} (inside : serving ∈ state.servings) (same : serving.request = request)
      {reply : Reply Response} (finished : serving.task = .done reply) :
      Receives gateway request ((answer reply).delivered request.method)

variable {gateway : Gateway} {request : Request} {response : Response}

/-- Every response is one that the request gets alone from an empty cache. -/
theorem Receives.alone (received : Receives gateway request response) :
    ∃ outside, response =
      (answer (gateway.handle outside (.empty 0) request).reply).delivered request.method := by
  cases received with
  | @atOnce capacity state reached outside =>
    obtain ⟨reply, _⟩ := handle_of_sound reached.sound.cache outside request 0
    refine ⟨outside, ?_⟩
    rw [← reply]
    rfl
  | @among capacity state reached serving inside same reply finished =>
    obtain ⟨_, ended⟩ := (reached.sound.servings serving inside).alone 0
    refine ⟨serving.outside, ?_⟩
    rw [(ended reply finished).1, same]

theorem Receives.ends (received : Receives gateway request response) (asked : request.IsForLogin) :
    ∃ made, gateway.Ends made ∧ response = made.delivered request.method := by
  obtain ⟨outside, same⟩ := received.alone
  exact ⟨_, ends_of_handle asked (Cache.sound_empty gateway.key 0), same⟩

/-- A response to a request for a login leads somewhere exactly if it sets a cookie, which
then is a good token, and exactly if its status says so. Otherwise it tells nothing but
its status: two responses that refuse with one status are equal, whatever the two requests
brought along, what was asked of the services outside and what these answered. -/
theorem refusals_alike (asked : request.IsForLogin)
    (received : Receives gateway request response) :
    (response.headers.values "location" ≠ [] ↔ response.status = 302) ∧
    (response.headers.values "set-cookie" ≠ [] ↔ response.status = 302) ∧
    (response.status = 302 → ∃ field token identity,
      response.headers.values "set-cookie" = [octets field] ∧
      Cookie.read? (Cookie.kept field) = some (Session.cookieName, token) ∧
      Token.decode token gateway.key = .ok identity) ∧
    (response.status ≠ 302 →
      response.status = 400 ∨ response.status = 403 ∨ response.status = 500) ∧
    ∀ other second, other.IsForLogin → Receives gateway other second →
      other.method = request.method → response.status = 400 ∨ response.status = 403 →
      second.status = response.status → second = response := by
  obtain ⟨made, ends, rfl⟩ := received.ends asked
  have alike : ∀ other second, other.IsForLogin → Receives gateway other second →
      other.method = request.method →
      (made.delivered request.method).status = 400 ∨ (made.delivered request.method).status = 403 →
      second.status = (made.delivered request.method).status →
      second = made.delivered request.method := by
    intro other second asked received method listed same
    obtain ⟨another, others, rfl⟩ := received.ends asked
    obtain ⟨_, fixed⟩ := ends.fixed
    obtain ⟨_, otherFixed⟩ := others.fixed
    rw [Response.status_delivered ends.fails fixed] at listed same
    rw [Response.status_delivered others.fails otherFixed] at same
    rw [ends.same others listed same, method]
  rcases ends.cases request.method with sent | turned
  · have filled : (made.delivered request.method).headers.values "set-cookie" ≠ [] := by
      obtain ⟨field, _, _, same, _⟩ := sent.cookie
      rw [same]
      exact List.cons_ne_nil _ _
    exact ⟨⟨fun _ => sent.status, fun _ => sent.location⟩,
      ⟨fun _ => sent.status, fun _ => filled⟩, fun _ => sent.cookie,
      fun other => absurd sent.status other, alike⟩
  · have other : (made.delivered request.method).status ≠ 302 := by
      intro found
      have status := turned.status
      rw [found] at status
      exact absurd status (by decide)
    exact ⟨⟨fun some => absurd turned.location some, fun found => absurd found other⟩,
      ⟨fun some => absurd turned.cookie some, fun found => absurd found other⟩,
      fun found => absurd found other, fun _ => turned.status, alike⟩

end Interleaving

namespace OneRoute
open Interleaving

def lost : Request := { login with target := ⟨none, "/__auth__/", none⟩ }

def forged : Request :=
  { login with
    target := ⟨none, "/__auth__/resume", some "p=%2Fdashboard&c=made,up"⟩
    headers := [("host", octets "app.org.com")] }

theorem refusals_alike_of_forged :
    lost.IsForLogin ∧ forged.IsForLogin ∧ forged.method = lost.method ∧
      (gateway.serve outside (.empty 0) lost).1.status = 403 ∧
      (gateway.serve outside loggedIn.cache forged).1.status = 403 ∧
      (gateway.serve outside loggedIn.cache forged).1 =
        (gateway.serve outside (.empty 0) lost).1 := by
  have isLost : lost.IsForLogin := ⟨by decide, by decide⟩
  have isForged : forged.IsForLogin := ⟨by decide, by decide⟩
  have first : Receives gateway lost (gateway.serve outside (State.initial 0).cache lost).1 :=
    .atOnce .refl outside
  have second : Receives gateway forged (gateway.serve outside loggedIn.cache forged).1 :=
    .atOnce reaches_loggedIn outside
  have status : (gateway.serve outside (State.initial 0).cache lost).1.status = 403 := by
    decide +kernel
  have other : (gateway.serve outside loggedIn.cache forged).1.status = 403 := by
    rw [cache_loggedIn]
    decide +kernel
  obtain ⟨_, _, _, _, alike⟩ := refusals_alike isLost first
  exact ⟨isLost, isForged, rfl, status, other,
    alike forged _ isForged second rfl (.inr status) (other.trans status.symm)⟩

end OneRoute

end LoginGateway
