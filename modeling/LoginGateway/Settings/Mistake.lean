import LoginGateway.Number.Decimal
import LoginGateway.Number.Shortest
import LoginGateway.Settings.Document

/-! What can be wrong with a document that settings are read from, where, and how
it is told. A document that was given directly has no place worth telling. -/

namespace LoginGateway

/-- What stands where something else is expected. -/
inductive Found where
  | scalar (value : Scalar)
  | list
  | map
deriving DecidableEq, Repr

inductive Problem where
  | kind (found : Found) (expected : String)
  | value (found : Found) (expected : String)
  | size (count : Nat) (expected : String)
  | missing (field : String)
  | duplicate (field : String)
  | number (fault : NumberFault)
deriving DecidableEq, Repr

/-- A problem with the place and the origin of the part it lies in. -/
structure Mistake where
  problem : Problem
  origin : Origin
  path : List String
deriving DecidableEq, Repr

namespace Found

def of : Document → Found
  | .scalar _ value => .scalar value
  | .list _ _ => .list
  | .map _ _ => .map

def named : Found → String
  | .scalar .unit => "unit"
  | .scalar (.bool value) => "bool " ++ toString value
  | .scalar (.natural value) => "unsigned int \x60" ++ toString value ++ "\x60"
  | .scalar (.negative 0) => "signed int \x600\x60"
  | .scalar (.negative value) => "signed int \x60-" ++ toString value ++ "\x60"
  | .scalar (.wide text) => text
  | .scalar (.double value) => "float \x60" ++ value.plainText ++ "\x60"
  | .scalar (.letter value) => "char '" ++ String.ofList (Quoted.escape value) ++ "'"
  | .scalar (.text value) => "string " ++ Quoted.quote value
  | .list => "sequence"
  | .map => "map"

def described : Found → String
  | .scalar .unit => "null"
  | .scalar (.bool value) => "boolean \x60" ++ toString value ++ "\x60"
  | .scalar (.natural value) => "integer \x60" ++ toString value ++ "\x60"
  | .scalar (.negative value) => "integer \x60-" ++ toString value ++ "\x60"
  | .scalar (.wide text) => text
  | .scalar (.double value) => "floating point \x60" ++ value.compactText ++ "\x60"
  | .scalar (.letter value) => "character \x60" ++ String.singleton value ++ "\x60"
  | .scalar (.text value) => "string " ++ Quoted.quote value
  | .list => "sequence"
  | .map => "map"

end Found

namespace Problem

def named : Problem → String
  | .kind found expected => "invalid type: found " ++ found.named ++ ", expected " ++ expected
  | .value found expected => "invalid value " ++ found.named ++ ", expected " ++ expected
  | .size count expected => "invalid length " ++ toString count ++ ", expected " ++ expected
  | .missing field => "missing field \x60" ++ field ++ "\x60"
  | .duplicate field => "duplicate field \x60" ++ field ++ "\x60"
  | .number fault => fault.message

def described : Problem → String
  | .kind found expected => "invalid type: " ++ found.described ++ ", expected " ++ expected
  | .value found expected => "invalid value: " ++ found.described ++ ", expected " ++ expected
  | problem => problem.named

end Problem

namespace Mistake

def below (key : String) (mistake : Mistake) : Mistake :=
  { mistake with path := key :: mistake.path }

def variableMark : String := "SSO_GATEWAY_"

def message (mistake : Mistake) : String :=
  match mistake.origin with
  | .given => mistake.problem.described
  | .file name format =>
    mistake.problem.named
      ++ (if mistake.path = [] then ""
        else " for key " ++ Quoted.quote (".".intercalate ("default" :: mistake.path)))
      ++ " in " ++ name ++ " " ++ format ++ " file"
  | .variables =>
    mistake.problem.named
      ++ (if mistake.path = [] then ""
        else " for key " ++ Quoted.quote (".".intercalate (mistake.path.map fun key =>
          String.ofList (key.toList.map Char.toUpper))))
      ++ " in \x60" ++ variableMark ++ "\x60 environment variable(s)"

end Mistake

end LoginGateway
