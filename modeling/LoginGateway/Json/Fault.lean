import LoginGateway.Text.Utf8

/-! What can be wrong with a JSON text, and where. A reader knows only how much it
has left; lines and columns are worked out from that when a fault is shown. -/

namespace LoginGateway.Json

inductive Cause where
  | endInList
  | endInObject
  | endInString
  | endInValue
  | expectedColon
  | expectedListEnd
  | expectedObjectEnd
  | expectedWord
  | expectedValue
  | escape
  | number
  | outOfRange
  | codePoint
  | control
  | keyNotString
  | loneSurrogate
  | trailingComma
  | trailingText
  | surrogateEnd
  | depth
  | kind (found expected : String)
  | value (found expected : String)
  | size (count : Nat) (expected : String)
  | missing (field : String)
  | duplicate (field : String)
  | other (text : String)
deriving DecidableEq, Repr

def Cause.message : Cause → String
  | .endInList => "EOF while parsing a list"
  | .endInObject => "EOF while parsing an object"
  | .endInString => "EOF while parsing a string"
  | .endInValue => "EOF while parsing a value"
  | .expectedColon => "expected `:`"
  | .expectedListEnd => "expected `,` or `]`"
  | .expectedObjectEnd => "expected `,` or `\x7d`"
  | .expectedWord => "expected ident"
  | .expectedValue => "expected value"
  | .escape => "invalid escape"
  | .number => "invalid number"
  | .outOfRange => "number out of range"
  | .codePoint => "invalid unicode code point"
  | .control => "control character (\\u0000-\\u001F) found while parsing a string"
  | .keyNotString => "key must be a string"
  | .loneSurrogate => "lone leading surrogate in hex escape"
  | .trailingComma => "trailing comma"
  | .trailingText => "trailing characters"
  | .surrogateEnd => "unexpected end of hex escape"
  | .depth => "recursion limit exceeded"
  | .kind found expected => "invalid type: " ++ found ++ ", expected " ++ expected
  | .value found expected => "invalid value: " ++ found ++ ", expected " ++ expected
  | .size count expected => "invalid length " ++ toString count ++ ", expected " ++ expected
  | .missing field => "missing field `" ++ field ++ "`"
  | .duplicate field => "duplicate field `" ++ field ++ "`"
  | .other text => text

/-- A cause with the number of octets that were unread when it was found. -/
structure Fault where
  cause : Cause
  left : Nat
deriving DecidableEq, Repr

/-- A fault found once everything before `rest` was taken. -/
def Fault.at (cause : Cause) (rest : Octets) : Fault := ⟨cause, rest.length⟩

/-- A fault that lies in the first octet of `rest`, or at the end of the text. -/
def Fault.in (cause : Cause) (rest : Octets) : Fault := ⟨cause, rest.length - 1⟩

/-- Lines count from one, columns count the octets since the last line end. -/
def Fault.line (fault : Fault) (source : Octets) : Nat :=
  1 + (source.take (source.length - fault.left)).count 10

def Fault.column (fault : Fault) (source : Octets) : Nat :=
  ((source.take (source.length - fault.left)).reverse.takeWhile (· ≠ 10)).length

def Fault.message (fault : Fault) (source : Octets) : String :=
  fault.cause.message ++ " at line " ++ toString (fault.line source)
    ++ " column " ++ toString (fault.column source)

end LoginGateway.Json
