import LoginGateway.Http.Message
import LoginGateway.Token

/-! What can go wrong in the gateway, and how it is answered. Visitors see only
the words of the status; the reason is for logs. -/

namespace LoginGateway

inductive Fault where
  /-- Settings that the gateway cannot run with. -/
  | settings (reason : String)
  | token (fault : Token.Fault)
  | bridge (reason : String)
  | denied (reason : String)
  | backend (reason : String)
  | method (name : String)
  | provider (reason : String)
  | io (reason : String)
  | json (reason : String)
  | http (reason : String)
  | internal (reason : String)
deriving DecidableEq, Repr

namespace Fault

def message : Fault → String
  | .settings reason => "Configuration error: " ++ reason
  | .token fault => "Invalid session token: " ++ fault.message
  | .bridge reason => "Bridge protocol error: " ++ reason
  | .denied reason => "Authorization denied: " ++ reason
  | .backend reason => "Backend unavailable: " ++ reason
  | .method name => "Method not allowed: " ++ name
  | .provider reason => "Identity provider error: " ++ reason
  | .io reason => "IO error: " ++ reason
  | .json reason => "JSON error: " ++ reason
  | .http reason => "HTTP error: " ++ reason
  | .internal reason => "Internal error: " ++ reason

def status : Fault → Nat
  | .bridge _ => 400
  | .token _ | .denied _ | .provider _ => 403
  | .method _ => 405
  | .backend _ | .http _ => 502
  | .settings _ | .io _ | .json _ | .internal _ => 500

/-- The answer to a request that met a fault. It never leads anywhere else. -/
def response (fault : Fault) : Response :=
  let plain := Response.plain fault.status (Response.reason fault.status ++ "\n")
  match fault with
  | .method _ => { plain with headers := ("allow", octets "POST") :: plain.headers }
  | _ => plain

end Fault

end LoginGateway
