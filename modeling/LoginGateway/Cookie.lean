import LoginGateway.Http.Header
import LoginGateway.Text.Form

/-! Cookies. Names and values are percent-escaped when they are written and read
back when they arrive. -/

namespace LoginGateway

structure Cookie where
  name : String
  value : String
  maxAge : Nat
  secure : Bool
deriving DecidableEq, Repr

namespace Cookie

/-- Characters that are escaped in names and values. -/
def isEscaped (octet : UInt8) : Bool :=
  Percent.isControl octet || Percent.isOneOf " \x22<>\x60#?\x7b\x7d/:;=@[\\]^|%()," octet

def attributes (cookie : Cookie) : String :=
  "; HttpOnly; SameSite=Lax" ++ (if cookie.secure then "; Secure" else "")
    ++ "; Path=/; Max-Age=" ++ toString cookie.maxAge

/-- The cookie without escapes. -/
def text (cookie : Cookie) : String := cookie.name ++ "=" ++ cookie.value ++ cookie.attributes

def escape (text : String) : String := String.ofList (Percent.encodeText isEscaped text.toList)

def field (cookie : Cookie) : String :=
  escape cookie.name ++ "=" ++ escape cookie.value ++ cookie.attributes

def unescape? (text : List Char) : Option String := text? (Percent.decode (Utf8.encode text))

def read? (piece : List Char) : Option (String × String) := do
  let (name, value) ← split? '=' piece
  let name := trimWhile isBlankChar name
  if name = [] then none
  let name ← unescape? name
  let value ← unescape? (trimWhile isBlankChar value)
  some (name, value)

/-- All cookies of a request, in order. Fields that are no visible text are passed over. -/
def jar (headers : Headers) : List (String × String) :=
  ((headers.values "cookie").filterMap Headers.visible?).flatMap fun value =>
    (pieces ';' value).filterMap read?

/-- The value of a name; the last one counts. -/
def find? (jar : List (String × String)) (name : String) : Option String :=
  (jar.reverse.find? (·.1 = name)).map (·.2)

end Cookie

end LoginGateway
