import LoginGateway.Gateway.Basic

/-! Passing a visitor's request on to a backend, and the answer back. What belongs
to one connection stays behind in both directions, and the backend is told who
the visitor is. -/

namespace LoginGateway.Relay

def emailField : String := "x-sso-gateway-email"

def nameField : String := "x-sso-gateway-name"

/-- A text as the value of a field, which is empty if the text cannot stand in one. -/
def escaped (text : String) : Octets :=
  let value := Utf8.encode (Form.encode text)
  if Headers.isValue value then value else []

/-- The visitor's address and name in place of whatever the request says. -/
def assertIdentity (headers : Headers) (identity : Identity) : Headers :=
  (headers.set emailField (escaped identity.email)).set nameField (escaped identity.name)

def requestHeaders (headers : Headers) (identity : Identity) : Headers :=
  assertIdentity (headers.endToEnd.without "host") identity

def outgoing (route : Route) (identity : Identity) (request : Request) :
    Except TransportFault Outgoing := do
  let url ← requestUrl (route.targetUrl request.target.pathAndQuery)
  .ok {
    method := request.method
    url
    headers := requestHeaders request.headers identity
    body := if request.body = [] then none else some request.body }

def response (answer : Incoming) : Response :=
  ⟨answer.status, answer.headers.endToEnd, .stream answer.body answer.complete⟩

def unavailable (route : Route) (fault : TransportFault) : Fault :=
  .backend (String.ofList route.backend.text ++ ": " ++ fault.message)

def forward (outside : Outside) (route : Route) (identity : Identity) (request : Request)
    (cache : Cache) : Outcome :=
  match outgoing route identity request with
  | .error fault => .quiet cache (.error (unavailable route fault))
  | .ok made =>
    Outcome.after (.backend made) <|
      match outside.backend made with
      | .ok answer => .quiet cache (.ok (response answer))
      | .error fault => .quiet cache (.error (unavailable route fault))

end LoginGateway.Relay
