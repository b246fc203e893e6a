import LoginGateway.Provider.Calls
import LoginGateway.Proofs.Base64Strictness
import LoginGateway.Proofs.ConfiguredRoutes
import LoginGateway.Proofs.FieldValues
import LoginGateway.Proofs.RouteTargets
import Mathlib.Data.List.Chain

/-! What is sent to the provider, and what is made of its answers. A call begins with one request
to the endpoint that is set. Only redirects lead to others, each to the place that the answer to
the one before names, so an answer of any other kind is the only one that is asked for. A good
answer to the last request is taken, and all else is a fault of the provider. -/

namespace LoginGateway

namespace Redirect

variable {wire : Wire} {budget : Nat} {request : Outgoing} {result : Except TransportFault Incoming}
  {sent : List Outgoing}

/-- An answer to the first request leads to the second. -/
def Leads (wire : Wire) (first second : Outgoing) : Prop :=
  ∃ answer url, wire first = .ok answer ∧ place? first answer = some url ∧
    Url.IsWeb url.scheme ∧ second = next first answer url

/-- What comes back when no other request follows one. -/
inductive Ends (wire : Wire) (last : Outgoing) : Except TransportFault Incoming → Prop where
  | broken {fault : TransportFault} (failed : wire last = .error fault) : Ends wire last (.error fault)
  | answered {answer : Incoming} (came : wire last = .ok answer) (stays : place? last answer = none) :
      Ends wire last (.ok answer)
  | left {answer : Incoming} {url : Url} (came : wire last = .ok answer) (leads : place? last answer = some url) :
      Ends wire last (.error (.redirect url))

/-- The requests that are sent from one on, and what comes of the last. -/
inductive Journey (wire : Wire) :
    Nat → Outgoing → Except TransportFault Incoming → List Outgoing → Prop where
  | last {budget : Nat} {request : Outgoing} {result : Except TransportFault Incoming}
      (ends : Ends wire request result) :
      Journey wire budget request result [request]
  | led {budget : Nat} {request other : Outgoing} {result : Except TransportFault Incoming}
      {sent : List Outgoing} (leads : Leads wire request other)
      (later : Journey wire budget other result sent) :
      Journey wire (budget + 1) request result (request :: sent)

/-- Redirects to the web are followed as far as the budget goes. -/
theorem journey_follow (wire : Wire) (budget : Nat) (request : Outgoing) :
    Journey wire budget request (follow wire budget request).1 (follow wire budget request).2 := by
  induction budget generalizing request with
  | zero =>
    rw [follow]
    split
    next fault failed => exact .last (.broken failed)
    next answer came =>
      split
      next stays => exact .last (.answered came stays)
      next url leads _ => exact .last (.left came leads)
      next impossible => cases impossible
  | succ budget ih =>
    rw [follow]
    split
    next fault failed => exact .last (.broken failed)
    next answer came =>
      split
      next stays => exact .last (.answered came stays)
      next impossible => cases impossible
      next url _ leads same =>
        cases same
        split
        next web => exact .led ⟨answer, url, came, leads, web, rfl⟩ (ih _)
        next => exact .last (.left came leads)

theorem Journey.head? (journey : Journey wire budget request result sent) :
    sent.head? = some request := by
  cases journey <;> rfl

theorem Journey.length_le (journey : Journey wire budget request result sent) :
    sent.length ≤ budget + 1 := by
  induction journey with
  | last ends => exact Nat.succ_le_succ (Nat.zero_le _)
  | led leads later ih => exact Nat.succ_le_succ ih

theorem Journey.isChain (journey : Journey wire budget request result sent) :
    sent.IsChain (Leads wire) := by
  induction journey with
  | last ends => exact .singleton _
  | led leads later ih =>
    refine ih.cons ?_
    rintro other first
    rw [later.head?] at first
    cases first
    exact leads

theorem Journey.ends (journey : Journey wire budget request result sent) :
    ∃ last, sent.getLast? = some last ∧ Ends wire last result := by
  induction journey with
  | last ends => exact ⟨_, rfl, ends⟩
  | led leads later ih =>
    obtain ⟨last, final, ends⟩ := ih
    exact ⟨last, by rw [List.getLast?_cons, final]; rfl, ends⟩

theorem Leads.isRedirect {first second : Outgoing} {answer : Incoming} (leads : Leads wire first second)
    (came : wire first = .ok answer) : Redirect.isRedirect answer.status ≠ false := by
  obtain ⟨other, url, same, named, -⟩ := leads
  cases came.symm.trans same
  intro plain
  rw [place?, plain] at named
  cases named

theorem Journey.alone (journey : Journey wire budget request result sent)
    (nowhere : ∀ other, ¬ Leads wire request other) : sent = [request] := by
  cases journey with
  | last ends => rfl
  | led leads later => exact absurd leads (nowhere _)

/-- A request that is led to has a field that vouches for the sender only if the one before has
it and is for the same host. -/
theorem Leads.vouched {first second : Outgoing} {name : String} (leads : Leads wire first second)
    (vouches : name ∈ credentialFields) (told : name ∈ second.headers.map (·.1)) :
    name ∈ first.headers.map (·.1) ∧ second.url.hostAndPort? = first.url.hostAndPort? := by
  obtain ⟨answer, url, -, -, -, rfl⟩ := leads
  have shaped : ∀ field ∈ (reshape answer.status first).headers, field ∈ first.headers := by
    intro field inside
    unfold reshape at inside
    split at inside
    · exact List.mem_of_mem_filter inside
    · split at inside
      · exact List.mem_of_mem_filter inside
      · exact inside
  obtain ⟨field, inside, rfl⟩ := List.mem_map.mp told
  simp only [next] at inside ⊢
  split at inside
  next same => exact ⟨List.mem_map_of_mem (shaped field inside), same⟩
  next =>
    have kept := (List.mem_filter.mp inside).2
    exact absurd (List.contains_iff_mem.mpr vouches) (by simpa using kept)

/-- What vouches for the sender goes to no other host. -/
theorem Journey.vouched (journey : Journey wire budget request result sent) {name : String}
    (vouches : name ∈ credentialFields) :
    ∀ other ∈ sent, name ∈ other.headers.map (·.1) →
      name ∈ request.headers.map (·.1) ∧ other.url.hostAndPort? = request.url.hostAndPort? := by
  induction journey with
  | last ends =>
    intro other inside told
    obtain rfl := List.mem_singleton.mp inside
    exact ⟨told, rfl⟩
  | led leads later ih =>
    intro other inside told
    rcases List.mem_cons.mp inside with rfl | behind
    · exact ⟨told, rfl⟩
    · obtain ⟨second, same⟩ := ih other behind told
      obtain ⟨first, before⟩ := leads.vouched vouches second
      exact ⟨first, same.trans before⟩

end Redirect

namespace Provider

variable {α : Type} {wire : Wire} {answer : Incoming} {fault : Fault}

def HoldsToken (body : Octets) (token : String) : Prop :=
  ∃ found rest, Json.record ["access_token"] "struct TokenResponse" body = .ok (found, rest) ∧
    (Json.skipBlanks rest).isEmpty = true ∧
    ((∃ name, found = .members [(name, token)]) ∨ found = .items [token])

theorem accessToken_of_holds {token : String} (good : isSuccess answer = true)
    (whole : answer.complete = true) (holds : HoldsToken answer.body token) :
    accessToken answer = .ok token := by
  obtain ⟨found, rest, read, ends, ⟨name, rfl⟩ | rfl⟩ := holds
  all_goals simp [accessToken, good, whole, read, ends]

/-- An answer holds an access token, or it is a fault of the provider. -/
theorem accessToken_cases (answer : Incoming) :
    (∃ token, accessToken answer = .ok token ∧ isSuccess answer = true ∧ answer.complete = true ∧
      HoldsToken answer.body token) ∨
    ∃ message, accessToken answer = .error (.provider message) := by
  unfold accessToken
  split
  next => exact .inr ⟨_, rfl⟩
  next good =>
    split
    next => exact .inr ⟨_, rfl⟩
    next whole =>
      simp only [Bool.not_eq_true', Bool.not_eq_false] at good whole
      split
      next name token rest read =>
        split
        next ends => exact .inl ⟨token, rfl, good, whole, _, rest, read, ends, .inl ⟨name, rfl⟩⟩
        next => exact .inr ⟨_, rfl⟩
      next token rest read =>
        split
        next ends => exact .inl ⟨token, rfl, good, whole, _, rest, read, ends, .inr rfl⟩
        next => exact .inr ⟨_, rfl⟩
      next => exact .inr ⟨_, rfl⟩

theorem profile_of_holds {identity : Identity} (good : isSuccess answer = true)
    (whole : answer.complete = true) (holds : Identity.parse answer.body = .ok identity) :
    profile answer = .ok identity := by
  simp [profile, good, whole, holds, Except.toOption]

theorem profile_cases (answer : Incoming) :
    (∃ identity, profile answer = .ok identity ∧ isSuccess answer = true ∧ answer.complete = true ∧
      Identity.parse answer.body = .ok identity) ∨
    ∃ message, profile answer = .error (.provider message) := by
  unfold profile
  split
  next => exact .inr ⟨_, rfl⟩
  next good =>
    split
    next identity read =>
      simp only [Bool.not_eq_true', Bool.not_eq_false] at good
      split at read
      next whole =>
        cases held : Identity.parse answer.body with
        | error fault =>
          rw [held] at read
          cases read
        | ok other =>
          rw [held] at read
          cases read
          exact .inl ⟨_, rfl, good, whole, rfl⟩
      next => cases read
    next => exact .inr ⟨_, rfl⟩

/-- A good answer that is whole and holds a value. -/
def Gives (holds : Octets → α → Prop) (answer : Incoming) (value : α) : Prop :=
  isSuccess answer = true ∧ answer.complete = true ∧ holds answer.body value

/-- What a call to an endpoint amounts to: the requests that were sent, and what was made of
their answers. -/
structure Asked (wire : Wire) (endpoint : String) (request : Except TransportFault Outgoing)
    (holds : Octets → α → Prop) (outcome : Except Fault α × List Outgoing) : Prop where
  /-- The request is for the endpoint. -/
  place : ∀ first, request = .ok first → requestUrl endpoint = .ok first.url
  /-- It is sent first, unless it cannot be made; then nothing is sent. -/
  first : outcome.2.head? = request.toOption
  /-- Only a redirect leads from one request to another. -/
  chain : outcome.2.IsChain (Redirect.Leads wire)
  few : outcome.2.length ≤ Redirect.budget + 1
  alone : ∀ first answer, request = .ok first → wire first = .ok answer →
    Redirect.isRedirect answer.status = false → outcome.2 = [first]
  /-- What counts is the answer to the last request, if it leads no further. -/
  taken : ∀ value, outcome.1 = .ok value ↔ ∃ last answer, outcome.2.getLast? = some last ∧
    wire last = .ok answer ∧ Redirect.place? last answer = none ∧ Gives holds answer value
  refused : ∀ fault, outcome.1 = .error fault → ∃ message, fault = .provider message

def conclude (read : Incoming → Except Fault α) (problem : String) :
    Except TransportFault Incoming → Except Fault α
  | .ok answer => read answer
  | .error fault => .error (.provider (problem ++ fault.message))

theorem exchange_eq (provider : Provider) (wire : Wire) (code : String) :
    provider.exchange wire code =
      (conclude accessToken "Token request failed: " (send wire (provider.exchangeRequest code)).1,
        (send wire (provider.exchangeRequest code)).2) := by
  unfold exchange
  split
  next came => rw [came]; rfl
  next failed => rw [failed]; rfl

theorem fetchProfile_eq (provider : Provider) (wire : Wire) (token : String) :
    provider.fetchProfile wire token =
      (conclude profile "Profile request failed: " (send wire (provider.profileRequest token)).1,
        (send wire (provider.profileRequest token)).2) := by
  unfold fetchProfile
  split
  next came => rw [came]; rfl
  next failed => rw [failed]; rfl

section Calls

variable {endpoint problem : String} {request : Except TransportFault Outgoing}
  {holds : Octets → α → Prop} {read : Incoming → Except Fault α}

structure Reads (read : Incoming → Except Fault α) (holds : Octets → α → Prop) : Prop where
  complete : ∀ answer value, Gives holds answer value → read answer = .ok value
  sound : ∀ answer, (∃ value, read answer = .ok value ∧ Gives holds answer value) ∨
    ∃ message, read answer = .error (.provider message)

theorem Reads.conclude_eq_ok_iff (reads : Reads read holds) {last : Outgoing}
    {result : Except TransportFault Incoming} (ends : Redirect.Ends wire last result) {value : α} :
    conclude read problem result = .ok value ↔ ∃ answer, wire last = .ok answer ∧
      Redirect.place? last answer = none ∧ Gives holds answer value := by
  cases ends with
  | broken failed =>
    refine iff_of_false nofun ?_
    rintro ⟨answer, came, -⟩
    cases failed.symm.trans came
  | left came leads =>
    refine iff_of_false nofun ?_
    rintro ⟨answer, same, stays, -⟩
    cases came.symm.trans same
    cases leads.symm.trans stays
  | @answered answer came stays =>
    constructor
    · intro made
      rcases reads.sound answer with ⟨other, taken, gives⟩ | ⟨message, refused⟩
      · cases taken.symm.trans made
        exact ⟨answer, came, stays, gives⟩
      · cases refused.symm.trans made
    · rintro ⟨other, same, -, gives⟩
      cases came.symm.trans same
      exact reads.complete answer value gives

theorem Reads.conclude_fault (reads : Reads read holds) {result : Except TransportFault Incoming}
    (failed : conclude read problem result = .error fault) : ∃ message, fault = .provider message := by
  cases result with
  | error transport => exact ⟨_, (Except.error.inj failed).symm⟩
  | ok answer =>
    rcases reads.sound answer with ⟨value, taken, -⟩ | ⟨message, refused⟩
    · cases taken.symm.trans failed
    · exact ⟨message, Except.error.inj (failed.symm.trans refused)⟩

/-- A call sends its request, follows the answers, and reads the last of them. -/
theorem Reads.asked (reads : Reads read holds)
    (place : ∀ first, request = .ok first → requestUrl endpoint = .ok first.url) :
    Asked wire endpoint request holds
      (conclude read problem (send wire request).1, (send wire request).2) := by
  cases request with
  | error fault =>
    refine ⟨place, rfl, .nil, Nat.zero_le _, nofun, ?_, ?_⟩
    · intro value
      refine iff_of_false nofun ?_
      rintro ⟨last, answer, final, -⟩
      cases final
    · intro other failed
      exact ⟨_, (Except.error.inj failed).symm⟩
  | ok first =>
    have journey := Redirect.journey_follow wire Redirect.budget first
    obtain ⟨last, final, ends⟩ := journey.ends
    refine ⟨place, journey.head?, journey.isChain, journey.length_le, ?_, ?_, ?_⟩
    · intro other answer same came plain
      obtain rfl : first = other := Except.ok.inj same
      exact journey.alone fun _ leads => leads.isRedirect came plain
    · intro value
      rw [send, reads.conclude_eq_ok_iff ends]
      constructor
      · rintro ⟨answer, came, stays, gives⟩
        exact ⟨last, answer, final, came, stays, gives⟩
      · rintro ⟨other, answer, same, came, stays, gives⟩
        cases final.symm.trans same
        exact ⟨answer, came, stays, gives⟩
    · intro fault failed
      change conclude read problem _ = .error fault at failed
      exact reads.conclude_fault failed

end Calls

theorem reads_accessToken : Reads accessToken HoldsToken where
  complete _ _ gives := accessToken_of_holds gives.1 gives.2.1 gives.2.2
  sound answer := accessToken_cases answer

def HoldsProfile (body : Octets) (identity : Identity) : Prop := Identity.parse body = .ok identity

theorem reads_profile : Reads profile HoldsProfile where
  complete _ _ gives := profile_of_holds gives.1 gives.2.1 gives.2.2
  sound answer := profile_cases answer

variable {provider : Provider} {code token : String}

theorem exchangeRequest_eq_ok_iff {first : Outgoing} : provider.exchangeRequest code = .ok first ↔
    ∃ url, requestUrl provider.tokenUrl = .ok url ∧ (⟨"POST", url,
      [("content-type", octets "application/x-www-form-urlencoded")],
      some (Utf8.encode (Form.serialize [("grant_type", "authorization_code"), ("code", code),
        ("redirect_uri", provider.redirectUri), ("client_id", provider.clientId),
        ("client_secret", provider.clientSecret)]))⟩ : Outgoing) = first := by
  rw [exchangeRequest, bind_eq_ok]
  simp only [Except.ok.injEq]

theorem profileRequest_eq_ok_iff {first : Outgoing} : provider.profileRequest token = .ok first ↔
    Headers.isValue (octets token) = true ∧ ∃ url, requestUrl provider.userinfoUrl = .ok url ∧
      (⟨"GET", url, [("authorization", octets "Bearer " ++ octets token)], none⟩ : Outgoing) = first := by
  have bearer : Headers.isValue (octets "Bearer " ++ octets token) = Headers.isValue (octets token) := by
    rw [Headers.isValue_append]
    rfl
  simp only [profileRequest, bearer]
  split
  next usable => simp only [bind_eq_ok, Except.ok.injEq, usable.2, true_and]
  next unusable =>
    refine iff_of_false nofun ?_
    rintro ⟨value, url, made, -⟩
    refine unusable ⟨?_, value⟩
    rw [parse_of_requestUrl made]
    rfl

/-- Both calls to the provider. Each sends one request, to the endpoint that is set, if one can be
made for it; the answer counts if it is good, whole and of the expected shape, and everything else
is a fault of the provider. Nothing else is sent unless an answer is a redirect: then the place
that it names is asked in its turn, at most ten times in a row, and the last answer counts. What
vouches for the gateway in a field of the request is told to no other host; this alone rests on
what is assumed of the client in `Redirect.next`. -/
theorem provider_calls (provider : Provider) (wire : Wire) :
    (∀ code, Asked wire provider.tokenUrl (provider.exchangeRequest code) HoldsToken
        (provider.exchange wire code) ∧
      ((∃ first, provider.exchangeRequest code = .ok first) ↔
        ∃ url, requestUrl provider.tokenUrl = .ok url)) ∧
    (∀ token, Asked wire provider.userinfoUrl (provider.profileRequest token) HoldsProfile
        (provider.fetchProfile wire token) ∧
      ((∃ first, provider.profileRequest token = .ok first) ↔
        Headers.isValue (octets token) = true ∧ ∃ url, requestUrl provider.userinfoUrl = .ok url) ∧
      ∀ first, provider.profileRequest token = .ok first →
        ∀ other ∈ (provider.fetchProfile wire token).2, "authorization" ∈ other.headers.map (·.1) →
          other.url.hostAndPort? = first.url.hostAndPort?) := by
  constructor
  · intro code
    rw [exchange_eq]
    refine ⟨reads_accessToken.asked fun first made => ?_, ?_⟩
    · obtain ⟨url, place, rfl⟩ := exchangeRequest_eq_ok_iff.mp made
      exact place
    · simp only [exchangeRequest_eq_ok_iff]
      exact ⟨fun ⟨_, url, place, _⟩ => ⟨url, place⟩, fun ⟨url, place⟩ => ⟨_, url, place, rfl⟩⟩
  · intro token
    rw [fetchProfile_eq]
    refine ⟨reads_profile.asked fun first made => ?_, ?_, ?_⟩
    · obtain ⟨-, url, place, rfl⟩ := profileRequest_eq_ok_iff.mp made
      exact place
    · simp only [profileRequest_eq_ok_iff]
      exact ⟨fun ⟨_, value, url, place, _⟩ => ⟨value, url, place⟩,
        fun ⟨value, url, place⟩ => ⟨_, value, url, place, rfl⟩⟩
    · intro first made other sent told
      rw [made] at sent
      have journey := Redirect.journey_follow wire Redirect.budget first
      exact (journey.vouched (by decide) other sent told).2

end Provider

namespace OneRoute

def trader : Provider := { provider with tokenUrl := "http://provider:8080/" }

def stranger : Url := { backend with host := some (.domain "stranger".toList), port := none }

def wire : Wire := fun request =>
  if request.url.host = some (.domain "provider".toList) then
    .ok ⟨307, [("location", octets "http://stranger/")], [], true⟩
  else .ok ⟨200, [], octets "\x7b\"access_token\":\"stolen\"\x7d", true⟩

def form : Octets := Utf8.encode (Form.serialize [("grant_type", "authorization_code"), ("code", "1"),
  ("redirect_uri", trader.redirectUri), ("client_id", "id"), ("client_secret", "secret")])

def posted (url : Url) : Outgoing :=
  ⟨"POST", url, [("content-type", octets "application/x-www-form-urlencoded")], some form⟩

/-- The secret of the gateway goes to a host that the endpoint names, and what comes from there is
taken for an access token. -/
theorem secret_sent_on :
    requestUrl trader.tokenUrl = .ok trader.authorizationUrl ∧
      (trader.exchange wire "1").1 = .ok "stolen" ∧
      (trader.exchange wire "1").2 = [posted trader.authorizationUrl, posted stranger] := by
  have place : requestUrl trader.tokenUrl = .ok trader.authorizationUrl := by decide +kernel
  refine ⟨place, ?_, ?_⟩
  · decide +kernel
  · decide +kernel

end OneRoute

end LoginGateway
