import LoginGateway.Gateway.Bridge
import LoginGateway.Gateway.Dispatch
import LoginGateway.Gateway.Relay

/-! Serving a request: by its host and path it goes to the bridge, to the hub or to
a backend. -/

namespace LoginGateway.Gateway

/-- The host a request is for: the one in its target, or else in its fields. -/
def requestHost (request : Request) : String :=
  match request.target.authority with
  | some authority => canonicalHost authority
  | none => canonicalHost (String.ofList
      (((request.headers.first? "host").bind Headers.visible?).getD []))

def serveRoute (gateway : Gateway) (outside : Outside) (cache : Cache) (route : Route)
    (request : Request) : Outcome :=
  match Errand.ofPath request.target.path with
  | .bridge => gateway.completeBridge request.target.query cache
  | .logout => .quiet cache (gateway.logout request.method)
  | .relay =>
    match Session.visitor request.headers gateway.key cache with
    | (some identity, cache) => Relay.forward outside route identity request cache
    | (none, cache) => .quiet cache (gateway.toProvider route request.target)

def serveHub (gateway : Gateway) (outside : Outside) (cache : Cache) (request : Request) : Outcome :=
  match HubErrand.ofPath request.target.path with
  | .callback => gateway.callback outside request.target.query cache
  | .logout => .quiet cache (gateway.logout request.method)
  | .profile =>
    let (visitor, cache) := Session.visitor request.headers gateway.key cache
    .quiet cache (.ok (profileResponse visitor))
  | .unknown => .quiet cache (.ok (.plain 404 "Not Found\n"))

def handle (gateway : Gateway) (outside : Outside) (cache : Cache) (request : Request) : Outcome :=
  match gateway.routes.find? (requestHost request) with
  | some route => gateway.serveRoute outside cache route request
  | none => gateway.serveHub outside cache request

/-- A reply as a response. A crash ends only the request it happened in. -/
def answer : Reply Response → Response
  | .value response => response
  | .failed fault => fault.response
  | .crashed => .plain 500 "Service panicked"

def serve (gateway : Gateway) (outside : Outside) (cache : Cache) (request : Request) :
    Response × Cache × List Call :=
  let outcome := gateway.handle outside cache request
  ((answer outcome.reply).delivered request.method, outcome.cache, outcome.calls)

/-- Requests in turn, from a cache on, each with the services outside as they are then:
the responses with the calls made for them, and the cache that is left. -/
def run (gateway : Gateway) : Cache → List (Outside × Request) → List (Response × List Call) × Cache
  | cache, [] => ([], cache)
  | cache, (outside, request) :: rest =>
    let (response, cache, calls) := gateway.serve outside cache request
    let (answers, cache) := gateway.run cache rest
    ((response, calls) :: answers, cache)

end LoginGateway.Gateway
