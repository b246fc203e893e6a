import LoginGateway.Http.Transport
import LoginGateway.Provider.Basic
import LoginGateway.Route.Table
import LoginGateway.Session.Basic

/-! A gateway: what it knows, what it needs from outside, and what serving one
request comes to. Only the cache changes from request to request. -/

namespace LoginGateway

structure Gateway where
  key : SigningKey
  routes : RouteTable
  hubHost : String
  scheme : String
  emailSuffix : String
  domainHint : String
  provider : Provider

/-- The answer of a service outside: it may also fail, or break the request off. -/
inductive Reply (α : Type) where
  | value (result : α)
  | failed (fault : Fault)
  | crashed
deriving DecidableEq, Repr

structure Outside where
  exchange : String → Reply String
  fetchProfile : String → Reply Identity
  backend : Outgoing → Except TransportFault Incoming

/-- What was asked of the outside while a request was served. -/
inductive Call where
  | exchange (code : String)
  | fetchProfile (accessToken : String)
  | backend (request : Outgoing)
deriving DecidableEq, Repr

/-- What serving a request came to. -/
structure Outcome where
  reply : Reply Response
  cache : Cache
  calls : List Call
deriving DecidableEq, Repr

namespace Outcome

def quiet (cache : Cache) : Except Fault Response → Outcome
  | .ok response => ⟨.value response, cache, []⟩
  | .error fault => ⟨.failed fault, cache, []⟩

def after (call : Call) (outcome : Outcome) : Outcome :=
  { outcome with calls := call :: outcome.calls }

end Outcome

namespace Gateway

/-- Cookies are marked secure where browsers use a secure scheme. -/
def secureCookies (gateway : Gateway) : Bool := gateway.scheme = "https"

def ofSettings (settings : Settings) (key : SigningKey) (provider : Provider) :
    Except Fault Gateway := do
  let routes ← RouteTable.ofSettings settings.routes settings.server.port
  .ok {
    key, routes, provider
    hubHost := canonicalHost (publicHost settings.host settings.server.port)
    scheme := settings.server.scheme
    emailSuffix := settings.oauth.emailSuffix
    domainHint := settings.oauth.domainHint }

end Gateway

end LoginGateway
