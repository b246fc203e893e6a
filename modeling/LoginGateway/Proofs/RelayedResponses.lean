import LoginGateway.Gateway.Serve
import LoginGateway.Proofs.RelayedFields

/-! What a visitor gets of the answer of a backend: its status and content, and all of its
fields but those for the connection on which it came. -/

namespace LoginGateway

namespace Relay

def fetch (outside : Outside) (route : Route) (identity : Identity) (request : Request) :
    Except TransportFault Incoming := do
  outside.backend (← outgoing route identity request)

/-- A response that passes on an answer, of which these fields were written: status, content
and, under every name, all values in their order, unless the field is for one connection. -/
structure PassesOn (fields : List (String × Octets)) (answer : Incoming) (response : Response) :
    Prop where
  status : response.status = answer.status
  body : response.body = .stream answer.body answer.complete
  dropped : ∀ name, Headers.IsLocal fields name → response.headers.values name = []
  kept : ∀ name, ¬ Headers.IsLocal fields name →
    response.headers.values name = Headers.valuesOf fields name

variable {fields : List (String × Octets)} {answer : Incoming}

theorem passesOn_response (arrived : Headers.keep? fields = some answer.headers)
    (visible : ∀ value ∈ Headers.valuesOf fields "connection", Headers.isVisible value = true) :
    PassesOn fields answer (response answer) := by
  rw [← Headers.values_of_keep? arrived] at visible
  exact {
    status := rfl
    body := rfl
    dropped := fun _ inner => Headers.values_of_local arrived visible inner
    kept := fun _ passes => Headers.values_of_not_local arrived visible passes }

theorem forward_of_fetch (outside : Outside) (route : Route) (identity : Identity)
    (request : Request) (cache : Cache) :
    (forward outside route identity request cache).cache = cache ∧
      (forward outside route identity request cache).reply =
        match fetch outside route identity request with
        | .ok answer => .value (response answer)
        | .error fault => .failed (unavailable route fault) := by
  unfold forward fetch
  cases outgoing route identity request with
  | error fault => exact ⟨rfl, rfl⟩
  | ok made =>
    simp only [Outcome.after, bind, Except.bind]
    cases outside.backend made with
    | error fault => exact ⟨rfl, rfl⟩
    | ok answer => exact ⟨rfl, rfl⟩

/-- Whatever a backend answers, the visitor gets its status and content and every field that
is not for one connection with the values that were written, in their order. If no answer
comes back, the backend is unavailable, which is told with the status 502. The cache is left
alone. -/
theorem relayed_responses (outside : Outside) (route : Route) (identity : Identity)
    (request : Request) (cache : Cache) :
    let outcome := forward outside route identity request cache
    outcome.cache = cache ∧
      match fetch outside route identity request with
      | .ok answer => ∃ response, outcome.reply = .value response ∧
          ∀ fields, Headers.keep? fields = some answer.headers →
            (∀ value ∈ Headers.valuesOf fields "connection", Headers.isVisible value = true) →
            PassesOn fields answer response
      | .error fault =>
          outcome.reply =
            .failed (.backend (String.ofList route.backend.text ++ ": " ++ fault.message)) ∧
          (Gateway.answer outcome.reply).status = 502 := by
  obtain ⟨cache, reply⟩ := forward_of_fetch outside route identity request cache
  refine ⟨cache, ?_⟩
  rw [reply]
  cases fetch outside route identity request with
  | ok answer => exact ⟨response answer, rfl, fun _ arrived visible => passesOn_response arrived visible⟩
  | error fault => exact ⟨rfl, rfl⟩

end Relay

namespace OneRoute
open Relay

def answerFields : List (String × Octets) :=
  [("Set-Cookie", octets "a=1"), ("Connection", octets "close, X-Trace"), ("X-TRACE", octets "1"),
    ("set-cookie", octets "b=2"), ("Transfer-Encoding", octets "chunked"),
    ("connection", octets "\tKeep-Alive ,SERVER"), ("Server", octets "backend"),
    ("Host", octets "internal")]

def brokenOff : Incoming :=
  ⟨404, (Headers.keep? answerFields).getD [], octets "<p>none</p>", false⟩

def answering : Outside := { outside with backend := fun _ => .ok brokenOff }

theorem arrived_brokenOff : Headers.keep? answerFields = some brokenOff.headers := by
  decide +kernel

theorem visible_brokenOff : ∀ value ∈ Headers.valuesOf answerFields "connection",
    Headers.isVisible value = true := by
  decide +kernel

theorem fetch_visit : fetch answering ⟨"app.org.com", backend⟩ alice visit = .ok brokenOff := by
  rw [fetch, outgoing_visit]
  rfl

theorem relayed_responses_of_brokenOff :
    Headers.keep? answerFields = some brokenOff.headers ∧
      (∀ value ∈ Headers.valuesOf answerFields "connection", Headers.isVisible value = true) ∧
      ∃ response, (forward answering ⟨"app.org.com", backend⟩ alice visit (.empty 0)).reply =
          .value response ∧
        response.status = 404 ∧ response.body = .stream (octets "<p>none</p>") false ∧
        response.headers.values "x-trace" = [] ∧ response.headers.values "server" = [] ∧
        response.headers.values "set-cookie" = [octets "a=1", octets "b=2"] := by
  have relayed := (relayed_responses answering ⟨"app.org.com", backend⟩ alice visit (.empty 0)).2
  rw [fetch_visit] at relayed
  obtain ⟨response, reply, passes⟩ := relayed
  have passed := passes answerFields arrived_brokenOff visible_brokenOff
  have isLocal {name : String} (token : Headers.name? name.toList = some name) :
      Headers.IsLocal answerFields name ↔
        name ∈ Headers.connectionFields ∨ name ∈ brokenOff.headers.listed := by
    refine Headers.isLocal_iff arrived_brokenOff ?_ token
    rw [Headers.values_of_keep? arrived_brokenOff]
    exact visible_brokenOff
  refine ⟨arrived_brokenOff, visible_brokenOff, response, reply, passed.status, passed.body, ?_, ?_, ?_⟩
  · exact passed.dropped "x-trace" ((isLocal (by decide)).mpr (by decide +kernel))
  · exact passed.dropped "server" ((isLocal (by decide)).mpr (by decide +kernel))
  · rw [passed.kept "set-cookie" ((isLocal (by decide)).not.mpr (by decide +kernel))]
    decide +kernel

/-- The host that a backend names is passed on, which is dropped from every request. -/
theorem host_passes_on : Headers.valuesOf answerFields "host" = [octets "internal"] ∧
    (∃ response, (forward answering ⟨"app.org.com", backend⟩ alice visit (.empty 0)).reply =
        .value response ∧ response.headers.values "host" = [octets "internal"]) ∧
    ∀ headers, (requestHeaders headers alice).values "host" = [] := by
  have written : Headers.valuesOf answerFields "host" = [octets "internal"] := by decide +kernel
  have reply := (forward_of_fetch answering ⟨"app.org.com", backend⟩ alice visit (.empty 0)).2
  rw [fetch_visit] at reply
  exact ⟨written, ⟨response brokenOff, reply, by decide +kernel⟩, fun _ => values_host alice⟩

end OneRoute

end LoginGateway
