import LoginGateway.Fault
import LoginGateway.Url.Parser

/-! Public hosts and the backends behind them. -/

namespace LoginGateway

def authPath : String := "/__auth__/"

def logoutPath : String := "/__auth__/logout"

/-- The name under which browsers reach a host: with the port, unless it is one
that a scheme stands for. -/
def publicHost (name : String) (port : UInt16) : String :=
  if port = 80 ∨ port = 443 then name else name ++ ":" ++ toString port.toNat

def withoutEnding (text : List Char) : List (List Char) → List Char
  | [] => text
  | ending :: others =>
    if ending.isSuffixOf text then text.take (text.length - ending.length)
    else withoutEnding text others

/-- The spelling in which hosts are compared: small letters, no blanks around, and
no port that a scheme stands for. -/
def canonicalHost (authority : String) : String :=
  String.ofList (withoutEnding ((trim authority).toList.map Char.toLower) [":80".toList, ":443".toList])

structure Route where
  host : String
  backend : Url
deriving DecidableEq, Repr

namespace Route

/-- The place of a request at the backend: the path behind that of the backend. -/
def targetUrl (route : Route) (pathAndQuery : String) : String :=
  String.ofList (route.backend.origin ++ dropRightWhile (· = '/') route.backend.path.text
    ++ pathAndQuery.toList)

end Route

def holds (part : List Char) : List Char → Bool
  | [] => part = []
  | char :: rest => part.isPrefixOf (char :: rest) || holds part rest

/-- A backend as it is set: a URL, or a host that is reached by `http`. -/
def readBackend (setting : String) : Except Fault Url :=
  let setting := trim setting
  let candidate := if holds "://".toList setting.toList then setting.toList
    else "http://".toList ++ setting.toList
  match Url.parse candidate with
  | .error fault => .error (.settings ("Invalid route target '" ++ setting ++ "': " ++ fault.message))
  | .ok url =>
    if (url.scheme ≠ "http".toList ∧ url.scheme ≠ "https".toList) ∨ url.hostText?.isNone then
      .error (.settings ("Route target must be an http(s) host: " ++ setting))
    else if url.query.isSome ∨ url.fragment.isSome then
      .error (.settings ("Route target must not carry a query or fragment: " ++ setting))
    else .ok url

end LoginGateway
