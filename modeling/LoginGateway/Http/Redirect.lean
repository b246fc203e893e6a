import LoginGateway.Http.Transport
import LoginGateway.Url.Reference

/-! Following redirects. A client goes on to the place that an answer names, at
most ten times. A posted form is not posted again unless the status asks for it,
and credentials do not go to another host. -/

namespace LoginGateway

abbrev Wire := Outgoing → Except TransportFault Incoming

namespace Redirect

def credentialFields : List String := ["authorization", "cookie", "cookie2", "proxy-authorization", "www-authenticate"]

def contentFields : List String := ["content-type", "content-length", "content-encoding", "transfer-encoding"]

def dropFields (names : List String) (headers : Headers) : Headers :=
  headers.filter fun (name, _) => !names.contains name

def reshape (status : Nat) (request : Outgoing) : Outgoing :=
  let emptied := { request with method := "GET", body := none, headers := dropFields contentFields request.headers }
  if status = 303 ∧ request.method ≠ "HEAD" then emptied
  else if (status = 301 ∨ status = 302) ∧ request.method = "POST" then emptied
  else request

def isRedirect (status : Nat) : Bool := [301, 302, 303, 307, 308].contains status

def place? (request : Outgoing) (answer : Incoming) : Option Url :=
  if isRedirect answer.status then do
    let location ← (answer.headers.first? "location").bind Utf8.decode?
    (Url.resolve request.url location).toOption
  else none

/-- The request that follows an answer. Two things are assumed here of the client that sends it:
once the host changes, the fields that vouch for the sender are left out of all later requests,
also if they lead back, and no field tells where a request comes from. -/
def next (request : Outgoing) (answer : Incoming) (url : Url) : Outgoing :=
  let shaped := reshape answer.status request
  let headers := if url.hostAndPort? = request.url.hostAndPort? then shaped.headers
    else dropFields credentialFields shaped.headers
  { shaped with url, headers }

/-- Send a request and follow the answers; the requests that were sent come with
the last answer. -/
def follow (wire : Wire) : Nat → Outgoing → Except TransportFault Incoming × List Outgoing
  | budget, request =>
    match wire request with
    | .error fault => (.error fault, [request])
    | .ok answer =>
      match place? request answer, budget with
      | none, _ => (.ok answer, [request])
      | some url, 0 => (.error (.redirect url), [request])
      | some url, budget + 1 =>
        if url.scheme = "http".toList ∨ url.scheme = "https".toList then
          let (result, sent) := follow wire budget (next request answer url)
          (result, request :: sent)
        else (.error (.redirect url), [request])

def budget : Nat := 10

end Redirect

end LoginGateway
