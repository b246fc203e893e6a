import LoginGateway.Http.Header

/-! Requests and responses. -/

namespace LoginGateway

/-- What a request asks for: the authority of an absolute target, the path as it
was sent, and the query without its sign. -/
structure Target where
  authority : Option String
  rawPath : String
  query : Option String
deriving DecidableEq, Repr

namespace Target

/-- The path, which is the root where none was sent. -/
def path (target : Target) : String := if target.rawPath = "" then "/" else target.rawPath

def pathAndQuery (target : Target) : String :=
  match target.query with
  | some query => target.rawPath ++ "?" ++ query
  | none => target.path

end Target

structure Request where
  method : String
  target : Target
  headers : Headers
  body : Octets
deriving DecidableEq, Repr

/-- The content of a response: known from the start, or passed on piece by piece,
in which case it may break off. -/
inductive Body where
  | fixed (bytes : Octets)
  | stream (bytes : Octets) (complete : Bool)
deriving DecidableEq, Repr

structure Response where
  status : Nat
  headers : Headers
  body : Body
deriving DecidableEq, Repr

namespace Response

def textType : Octets := octets "text/plain; charset=utf-8"

def plain (status : Nat) (text : String) : Response :=
  ⟨status, [("content-type", textType)], .fixed (octets text)⟩

def isSuccess (response : Response) : Bool := 200 ≤ response.status && response.status < 300

def reason (status : Nat) : String :=
  match status with
  | 400 => "Bad Request"
  | 403 => "Forbidden"
  | 404 => "Not Found"
  | 405 => "Method Not Allowed"
  | 500 => "Internal Server Error"
  | 502 => "Bad Gateway"
  | _ => "Error"

/-- A response as it leaves for a request of `method`: a length that is known is
told, and where the method calls for no content, none is sent. -/
def delivered (method : String) (response : Response) : Response :=
  if method = "CONNECT" ∧ response.isSuccess then
    if (response.headers.first? "content-length").isSome ∨ response.body ≠ .fixed [] then
      { response with body := .fixed [] }
    else response
  else
    let headers := match response.body with
      | .fixed bytes => response.headers.setDefault "content-length" (octets (toString bytes.length))
      | .stream _ _ => response.headers
    { response with headers, body := if method = "HEAD" then .fixed [] else response.body }

end Response

end LoginGateway
