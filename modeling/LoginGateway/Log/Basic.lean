import LoginGateway.Json.Value

/-! What the program tells about its work: records with a level, the part of the
program they come from, a message, and fields. -/

namespace LoginGateway.Log

inductive Level where
  | error
  | warn
  | info
  | debug
  | trace
deriving DecidableEq, Repr

namespace Level

def rank : Level → Nat
  | .error => 1
  | .warn => 2
  | .info => 3
  | .debug => 4
  | .trace => 5

def name : Level → String
  | .error => "ERROR"
  | .warn => "WARN"
  | .info => "INFO"
  | .debug => "DEBUG"
  | .trace => "TRACE"

end Level

inductive FieldValue where
  | plain (text : String)
  | quoted (text : String)
  | number (value : Nat)
deriving DecidableEq, Repr

structure Record where
  level : Level
  target : String
  message : String
  fields : List (String × FieldValue)
deriving DecidableEq, Repr

namespace Record

def shown (char : Char) : List Char :=
  let code := char.toNat
  if code = 7 ∨ code = 8 ∨ code = 12 ∨ code = 27 ∨ code = 127 then
    '\\' :: 'x' :: Nat.digitChar (code / 16) :: [Nat.digitChar (code % 16)]
  else if 0x80 ≤ code ∧ code ≤ 0x9F then '\\' :: 'u' :: '\x7b' :: Quoted.hexDigits code ++ ['\x7d']
  else [char]

def fieldText : String × FieldValue → String
  | (name, .plain text) => " " ++ name ++ "=" ++ text
  | (name, .quoted text) => " " ++ name ++ "=" ++ Quoted.quote text
  | (name, .number value) => " " ++ name ++ "=" ++ toString value

def text (record : Record) : String :=
  record.level.name ++ " " ++ record.target ++ ": "
    ++ String.ofList (record.message.toList.flatMap shown)
    ++ String.join (record.fields.map fieldText)

def quoted (text : String) : String := String.ofList (Json.quote text)

def fieldJson : String × FieldValue → String
  | (name, .plain text) | (name, .quoted text) => quoted name ++ ":" ++ quoted text
  | (name, .number value) => quoted name ++ ":" ++ toString value

def json (time : String) (record : Record) : String :=
  let fields := (quoted "message" ++ ":" ++ quoted record.message) :: record.fields.map fieldJson
  "\x7b" ++ quoted "timestamp" ++ ":" ++ quoted time ++ "," ++ quoted "level" ++ ":"
    ++ quoted record.level.name ++ "," ++ quoted "fields" ++ ":\x7b" ++ ",".intercalate fields
    ++ "\x7d," ++ quoted "target" ++ ":" ++ quoted record.target ++ "\x7d"

end Record

end LoginGateway.Log
