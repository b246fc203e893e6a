import LoginGateway.Url.Address

/-! URLs by their parts. All parts are in the form in which they are written, so a
URL has one text. -/

namespace LoginGateway

/-- Whom a URL points to. A URL of a scheme of its own may have an empty name. -/
inductive Host where
  | domain (name : List Char)
  | ipv4 (address : Nat)
  | ipv6 (pieces : List Nat)
deriving DecidableEq, Repr

namespace Host

def text : Host → List Char
  | .domain name => name
  | .ipv4 address => Ipv4.text address
  | .ipv6 pieces => '[' :: Ipv6.text pieces ++ [']']

def empty : Host := .domain []

end Host

/-- A path is a list of segments, or one text when nothing in it has a meaning. -/
inductive UrlPath where
  | segments (parts : List (List Char))
  | plain (text : List Char)
deriving DecidableEq, Repr

def UrlPath.text : UrlPath → List Char
  | .segments parts => parts.flatMap ('/' :: ·)
  | .plain text => text

structure Url where
  scheme : List Char
  username : List Char
  password : List Char
  host : Option Host
  /-- The port, unless it is the one the scheme stands for. -/
  port : Option Nat
  path : UrlPath
  query : Option (List Char)
  fragment : Option (List Char)
deriving DecidableEq, Repr

namespace Url

def isSpecial (scheme : List Char) : Bool :=
  ["http", "https", "ws", "wss", "ftp", "file"].any (·.toList = scheme)

def defaultPort? (scheme : List Char) : Option Nat :=
  if scheme = "http".toList ∨ scheme = "ws".toList then some 80
  else if scheme = "https".toList ∨ scheme = "wss".toList then some 443
  else if scheme = "ftp".toList then some 21
  else none

def credentials (url : Url) : List Char :=
  if url.username = [] ∧ url.password = [] then []
  else url.username ++ (if url.password = [] then [] else ':' :: url.password) ++ ['@']

def portText (url : Url) : List Char :=
  match url.port with
  | some port => ':' :: (Nat.repr port).toList
  | none => []

def authority (url : Url) : List Char :=
  match url.host with
  | some host => '/' :: '/' :: url.credentials ++ host.text ++ url.portText
  | none =>
    match url.path with
    | .segments ([] :: _ :: _) => ['/', '.']
    | _ => []

def tail (sign : Char) : Option (List Char) → List Char
  | some text => sign :: text
  | none => []

def text (url : Url) : List Char :=
  url.scheme ++ ':' :: url.authority ++ url.path.text ++ tail '?' url.query ++ tail '#' url.fragment

/-- The host, unless its name is empty. -/
def hostText? (url : Url) : Option (List Char) :=
  (url.host.map Host.text).filter (· ≠ [])

def hostAndPort? (url : Url) : Option (List Char) := url.hostText?.map (· ++ url.portText)

def origin (url : Url) : List Char :=
  url.scheme ++ ':' :: '/' :: '/' :: ((url.host.map Host.text).getD [] ++ url.portText)

def pathAndQuery (url : Url) : List Char := url.path.text ++ tail '?' url.query

end Url

end LoginGateway
