import LoginGateway.Yaml.Fault

/-! A place in a text together with what follows it. -/

namespace LoginGateway.Yaml

def isSpace (char : Char) : Bool := char = ' '

def isBlank (char : Char) : Bool := char = ' ' || char = '\t'

def isBreak (char : Char) : Bool :=
  char = '\n' || char = '\r' || char.toNat = 0x85 || char.toNat = 0x2028 || char.toNat = 0x2029

structure Cursor where
  rest : List Char
  mark : Mark
deriving DecidableEq, Repr

namespace Cursor

def peek? (cursor : Cursor) : Option Char := cursor.rest.head?

def at? (cursor : Cursor) (offset : Nat) : Option Char := cursor.rest[offset]?

def isEnd (cursor : Cursor) : Bool := cursor.rest.isEmpty

def hasAt (cursor : Cursor) (offset : Nat) (char : Char) : Bool := cursor.at? offset = some char

def has (cursor : Cursor) (char : Char) : Bool := cursor.hasAt 0 char

def sees (cursor : Cursor) (test : Char → Bool) : Bool := cursor.peek?.any test

def blankOrEndAt (cursor : Cursor) (offset : Nat) : Bool :=
  match cursor.at? offset with
  | none => true
  | some char => isBlank char || isBreak char

def atLineEnd (cursor : Cursor) : Bool := cursor.isEnd || cursor.sees isBreak

def skip (cursor : Cursor) (count : Nat) : Cursor :=
  let passed := min count cursor.rest.length
  { rest := cursor.rest.drop count
    mark := { cursor.mark with
      index := cursor.mark.index + passed
      column := cursor.mark.column + passed } }

def skipWhile (cursor : Cursor) (test : Char → Bool) : Cursor :=
  cursor.skip (cursor.rest.takeWhile test).length

/-- Go over a line end. Carriage return and line feed are one. -/
def skipLine (cursor : Cursor) : Cursor :=
  let passed := if cursor.hasAt 0 '\r' && cursor.hasAt 1 '\n' then 2 else 1
  { rest := cursor.rest.drop passed
    mark := ⟨cursor.mark.index + passed, cursor.mark.line + 1, 0⟩ }

/-- The line end that stands next, as it counts in a text. -/
def lineEnd (cursor : Cursor) : List Char :=
  match cursor.peek? with
  | some char => if char.toNat = 0x2028 || char.toNat = 0x2029 then [char] else ['\n']
  | none => []

/-- Whether a mark of three characters stands alone at the beginning of a line. -/
def atMark (cursor : Cursor) (char : Char) : Bool :=
  cursor.mark.column = 0 && cursor.hasAt 0 char && cursor.hasAt 1 char && cursor.hasAt 2 char
    && cursor.blankOrEndAt 3

def atDocumentMark (cursor : Cursor) : Bool := cursor.atMark '-' || cursor.atMark '.'

def fault (cursor : Cursor) (problem : String) (context : Option Context) : Fault :=
  .form problem cursor.mark context

end Cursor

end LoginGateway.Yaml
