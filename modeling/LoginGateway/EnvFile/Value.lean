import LoginGateway.EnvFile.Line
import LoginGateway.Text.Letters

/-! The values of variables in a file. Quotes part texts from their surroundings, a
backslash takes the meaning from the sign behind it, and a dollar sign puts in the
value of another variable. -/

namespace LoginGateway.EnvFile

inductive ValueMode where
  | text
  | single
  | escape
  | name (chars : List Char)
  | braced (chars : List Char)
  | ended
deriving DecidableEq, Repr

structure ValueReader where
  output : List Char
  mode : ValueMode
  double : Bool
deriving DecidableEq, Repr

namespace ValueReader

def start : ValueReader := ⟨[], .text, false⟩

def turn (reader : ValueReader) (mode : ValueMode) : ValueReader := { reader with mode := mode }

def add (reader : ValueReader) (chars : List Char) : ValueReader :=
  { reader with output := reader.output ++ chars, mode := .text }

/-- What a sign behind a backslash stands for. -/
def unescape? (char : Char) : Option Char :=
  if ['\\', '\'', '\x22', '$', ' '].contains char then some char
  else if char = 'n' then some '\n'
  else none

def stepText (reader : ValueReader) (char : Char) : ValueReader :=
  if char = '$' then reader.turn (.name [])
  else if char = '\\' then reader.turn .escape
  else if char = '\x22' then { reader with double := !reader.double }
  else if reader.double then reader.add [char]
  else if char = '\'' then reader.turn .single
  else if char = ' ' ∨ char = '\t' then reader.turn .ended
  else reader.add [char]

/-- Read a sign, none if it does not fit. A variable is looked up by `value`. -/
def step (value : List Char → List Char) (reader : ValueReader) (char : Char) : Option ValueReader :=
  match reader.mode with
  | .text => some (reader.stepText char)
  | .single => some (if char = '\'' then reader.turn .text else { reader with output := reader.output ++ [char] })
  | .escape => (unescape? char).map fun char => reader.add [char]
  | .name chars =>
    if isLetterOrDigit char then some (reader.turn (.name (chars ++ [char])))
    else if char = '{' ∧ chars = [] then some (reader.turn (.braced []))
    else if char = '$' then some ((reader.add (value chars)).turn (.name []))
    else some (reader.add (value chars ++ [char]))
  | .braced chars =>
    if char = '}' then some (reader.add (value chars)) else some (reader.turn (.braced (chars ++ [char])))
  | .ended => if char = ' ' ∨ char = '\t' then some reader else none

/-- Read a value, or tell the place of the sign that does not fit. -/
def run (value : List Char → List Char) : Nat → ValueReader → List Char → Except Nat ValueReader
  | _, reader, [] => .ok reader
  | place, reader, char :: rest =>
    if reader.mode = .ended ∧ char = '#' then .ok reader
    else
      match reader.step value char with
      | some next => run value (place + 1) next rest
      | none => .error place

/-- The value at the end of its text, none if a quote or a brace is still open. -/
def finish (value : List Char → List Char) (reader : ValueReader) : Option (List Char) :=
  match reader.mode with
  | .single | .braced _ => none
  | .name chars => if reader.double then none else some (reader.output ++ value chars)
  | _ => if reader.double then none else some reader.output

end ValueReader

def readValue (value : List Char → List Char) (text : List Char) : Except Fault (List Char) :=
  match ValueReader.start.run value 0 text with
  | .error place => .error (.line text place)
  | .ok reader =>
    match reader.finish value with
    | some result => .ok result
    | none => .error (.line text ((Utf8.encode text).length - 1))

end LoginGateway.EnvFile
