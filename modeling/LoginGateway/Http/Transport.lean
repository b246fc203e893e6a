import LoginGateway.Http.Message
import LoginGateway.Url.Parser

/-! Requests that the gateway makes itself, and what comes back. -/

namespace LoginGateway

structure Outgoing where
  method : String
  url : Url
  headers : Headers
  body : Option Octets
deriving DecidableEq, Repr

structure Incoming where
  status : Nat
  headers : Headers
  body : Octets
  complete : Bool
deriving DecidableEq, Repr

inductive TransportFault where
  | request (url : Option Url)
  | sending (url : Url)
  | redirect (url : Url)
deriving DecidableEq, Repr

namespace TransportFault

def place (url : Url) : String := " for url (" ++ String.ofList url.text ++ ")"

def message : TransportFault → String
  | .request none => "builder error"
  | .request (some url) => "builder error" ++ place url
  | .sending url => "error sending request" ++ place url
  | .redirect url => "error following redirect" ++ place url

end TransportFault

def requestUrl (text : String) : Except TransportFault Url :=
  match Url.parse text.toList with
  | .error _ => .error (.request none)
  | .ok url =>
    if url.scheme = "http".toList ∨ url.scheme = "https".toList then .ok url
    else .error (.request (some url))

end LoginGateway
