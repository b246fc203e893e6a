import LoginGateway.EnvFile.Value
import LoginGateway.Settings.Environment

/-! Files of variables. Their lines are read in turn into the environment, and no
variable that is set already is set again. The first fault ends a file. -/

namespace LoginGateway.EnvFile

abbrev Entry := String × String

def isKeyStart (char : Char) : Bool := char.isAlpha || char = '_'

def isKeyChar (char : Char) : Bool := char.isAlphanum || char = '_' || char = '.'

def skipBlanks (text : List Char) : List Char := text.dropWhile isBlankChar

def readKey (text : List Char) : Option (List Char × List Char) :=
  if text.head?.any isKeyStart then
    some (text.takeWhile isKeyChar, skipBlanks (text.dropWhile isKeyChar))
  else none

def behindEquals? : List Char → Option (List Char)
  | '=' :: rest => some rest
  | _ => none

/-- The key of an assignment and what follows its equals sign; otherwise what is left
from the place that does not fit. -/
def readAssignment (text : List Char) : Except (List Char) (List Char × List Char) :=
  match readKey text with
  | none => .error text
  | some (key, after) =>
    match behindEquals? after with
    | some rest => .ok (key, rest)
    | none =>
      if key ≠ "export".toList then .error after
      else
        match readKey after with
        | none => .error after
        | some (key, after) =>
          match behindEquals? after with
          | some rest => .ok (key, rest)
          | none => .error after

/-- Whether nothing is left but a comment. -/
def isVoid (text : List Char) : Bool := text.isEmpty || text.head? = some '#'

/-- The value a name stands for: of the environment first, then of the file up to here. -/
def lookUp (environment : Environment) (entries : List Entry) (name : List Char) : List Char :=
  let name := String.ofList name
  (((environment.get? name).or (entries.lookup name)).getD "").toList

def readLine (environment : Environment) (entries : List Entry) (line : List Char) :
    Except Fault (Option Entry) :=
  let text := dropRightWhile isBlankChar line
  let start := skipBlanks text
  if isVoid start then .ok none
  else
    match readAssignment start with
    | .error rest => .error (.line line ((Utf8.encode text).length - (Utf8.encode rest).length))
    | .ok (key, rest) =>
      let rest := skipBlanks rest
      if isVoid rest then .ok (some (String.ofList key, ""))
      else (readValue (lookUp environment entries) rest).map fun value =>
        some (String.ofList key, String.ofList value)

def readLines : List Entry → Environment → List (List Char) → Environment × Option Fault
  | _, environment, [] => (environment, none)
  | entries, environment, line :: rest =>
    match readLine environment entries line with
    | .error fault => (environment, some fault)
    | .ok none => readLines entries environment rest
    | .ok (some (key, value)) => readLines ((key, value) :: entries) (environment.add key value) rest

/-- The environment with the variables of a file, and the fault that ended it. -/
def load (file : Octets) (environment : Environment) : Environment × Option Fault :=
  let (lines, fault) := lines file
  let (environment, found) := readLines [] environment lines
  (environment, found.or fault)

end LoginGateway.EnvFile
