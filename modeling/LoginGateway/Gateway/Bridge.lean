import LoginGateway.Gateway.Basic

/-! The login that spans hosts. A visitor without a session is sent to the
provider, comes back to the hub with a code, and is handed on to the host it came
from with a token. Whatever fails after the provider ends in a refusal that leads
nowhere, because a redirect would only start the login again. -/

namespace LoginGateway

def Response.found (location : String) : Except Fault Response :=
  let value := octets location
  if Headers.isValue value then .ok ⟨302, [("location", value)], .fixed []⟩
  else .error (.bridge "redirect target is not a valid header value")

def Response.withCookie (response : Response) (cookie : Cookie) : Response :=
  { response with headers := response.headers ++ [("set-cookie", octets cookie.field)] }

namespace Gateway

def stateOf (gateway : Gateway) (route : Route) (target : Target) : String :=
  gateway.scheme ++ "://" ++ route.host ++ target.pathAndQuery

def toProvider (gateway : Gateway) (route : Route) (target : Target) : Except Fault Response :=
  Response.found (String.ofList
    (gateway.provider.loginUrl (gateway.stateOf route target) gateway.domainHint).text)

def queryPairs (query : Option String) : List (String × String) :=
  Form.parse (octets (query.getD ""))

/-- The first value of a name, unless it is empty. -/
def parameter? (query : Option String) (name : String) : Option String :=
  (Form.first? (queryPairs query) name).filter (· ≠ "")

def stateRoute? (gateway : Gateway) (back : Url) : Option Route :=
  back.hostAndPort?.bind fun host => gateway.routes.find? (canonicalHost (String.ofList host))

/-- Whether a path stays on the host: it begins with one slash and no second one. -/
def isLocalPath (path : String) : Bool :=
  match path.toList with
  | '/' :: '/' :: _ => false
  | '/' :: '\\' :: _ => false
  | '/' :: _ => true
  | _ => false

/-- The place on a route's host where a login is completed. -/
def bridgeUrl (gateway : Gateway) (route : Route) (resume token : String) : Except Fault Url :=
  match Url.parse (gateway.scheme ++ "://" ++ route.host ++ authPath).toList with
  | .ok url => .ok (url.appendPairs [("p", resume), ("c", token)])
  | .error fault => .error (.internal ("Failed to build bridge URL: " ++ fault.message))

def handOn (gateway : Gateway) (route : Route) (back : Url) (token : String) :
    Except Fault Response := do
  let bridge ← gateway.bridgeUrl route (String.ofList back.pathAndQuery) token
  let response ← Response.found (String.ofList bridge.text)
  .ok (response.withCookie (Session.cookie token gateway.secureCookies))

def accept (gateway : Gateway) (route : Route) (back : Url) (identity : Identity) (cache : Cache) :
    Outcome :=
  if identity.emailEndsWith gateway.emailSuffix then
    let token := Token.encode identity gateway.key
    .quiet (cache.put token identity) (gateway.handOn route back token)
  else .quiet cache (.error (.denied (identity.email ++ " is outside " ++ gateway.emailSuffix)))

/-- A visitor comes back from the provider. Nothing is asked of the provider
unless the state names a route. -/
def callback (gateway : Gateway) (outside : Outside) (query : Option String) (cache : Cache) :
    Outcome :=
  let refuse := fun reason : String => Outcome.quiet cache (.error (.denied reason))
  match parameter? query "code", parameter? query "state" with
  | some code, some state =>
    match Url.parse state.toList with
    | .error _ => refuse "state is not a URL"
    | .ok back =>
      match gateway.stateRoute? back with
      | none => refuse "state does not name a frontend host"
      | some route =>
        Outcome.after (.exchange code) <|
          match outside.exchange code with
          | .crashed => ⟨.crashed, cache, []⟩
          | .failed fault => refuse ("code exchange failed: " ++ fault.message)
          | .value accessToken =>
            Outcome.after (.fetchProfile accessToken) <|
              match outside.fetchProfile accessToken with
              | .crashed => ⟨.crashed, cache, []⟩
              | .failed fault => refuse ("profile fetch failed: " ++ fault.message)
              | .value identity => gateway.accept route back identity cache
  | _, _ => refuse "callback without code or state"

def completeBridge (gateway : Gateway) (query : Option String) (cache : Cache) : Outcome :=
  let token := (parameter? query "c").getD ""
  let resume := (Form.first? (queryPairs query) "p").getD ""
  if token = "" ∨ !isLocalPath resume then
    .quiet cache (.error (.bridge "bridge requires c and a local path p"))
  else
    match Session.resolve token gateway.key cache with
    | (none, cache) => .quiet cache (.error (.denied "bridge token rejected"))
    | (some _, cache) => .quiet cache ((Response.found resume).map
        (·.withCookie (Session.cookie token gateway.secureCookies)))

def logout (gateway : Gateway) (method : String) : Except Fault Response :=
  if method = "POST" then
    .ok ((Response.plain 200 "ok.\n").withCookie (Session.clearedCookie gateway.secureCookies))
  else .error (.method method)

def profileResponse (visitor : Option Identity) : Response :=
  let user := match visitor with
    | some identity => identity.toJson
    | none => "null".toList
  ⟨200, [("content-type", octets "application/json")],
    .fixed (Utf8.encode ("\x7b\x22user\x22:".toList ++ user ++ ['\x7d']))⟩

end Gateway

end LoginGateway
