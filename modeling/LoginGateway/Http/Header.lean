import LoginGateway.Text.Blank
import LoginGateway.Text.Split
import LoginGateway.Text.Utf8

/-! The fields of a message. Names are kept in small letters; fields of one name
keep their order. -/

namespace LoginGateway

abbrev Headers := List (String × Octets)

namespace Headers

def values (headers : Headers) (name : String) : List Octets :=
  (headers.filter (·.1 = name)).map (·.2)

def first? (headers : Headers) (name : String) : Option Octets :=
  (headers.find? (·.1 = name)).map (·.2)

def without (headers : Headers) (name : String) : Headers := headers.filter (·.1 ≠ name)

def set (headers : Headers) (name : String) (value : Octets) : Headers :=
  headers.without name ++ [(name, value)]

def setDefault (headers : Headers) (name : String) (value : Octets) : Headers :=
  if (headers.first? name).isSome then headers else headers.set name value

/-- Octets that a field may hold: all but controls, and the tab. -/
def isValue (bytes : Octets) : Bool := bytes.all fun b => b = 9 || (0x20 ≤ b && b ≠ 0x7F)

/-- Octets that are read as a text: visible ASCII, spaces and tabs. -/
def isVisible (bytes : Octets) : Bool := bytes.all fun b => b = 9 || (0x20 ≤ b && b < 0x7F)

def visible? (bytes : Octets) : Option (List Char) :=
  if isVisible bytes then some (bytes.map fun b => Char.ofNat b.toNat) else none

def isNameChar (char : Char) : Bool :=
  char.isAlphanum || "!#$%&'*+-.^_\x60|~".toList.contains char

/-- The name of a field as it is kept, if a text can be one. -/
def name? (text : List Char) : Option String :=
  if text ≠ [] ∧ text.all isNameChar then some (String.ofList (text.map Char.toLower)) else none

/-- Fields that concern one connection only. -/
def connectionFields : List String :=
  ["connection", "keep-alive", "proxy-connection", "te", "trailer", "transfer-encoding", "upgrade"]

def listed (headers : Headers) : List String :=
  ((headers.values "connection").filterMap visible?).flatMap fun value =>
    (pieces ',' value).filterMap fun element => name? (trimWhile isBlankChar element)

/-- The fields that go on beyond the connection they came on. -/
def endToEnd (headers : Headers) : Headers :=
  let listed := headers.listed
  headers.filter fun (name, _) => !connectionFields.contains name && !listed.contains name

end Headers

end LoginGateway
