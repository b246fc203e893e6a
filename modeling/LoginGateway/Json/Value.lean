import LoginGateway.Json.Skip
import LoginGateway.Number.Shortest
import LoginGateway.Text.Quoted

/-! JSON values, their reader and the spelling of strings. A value may be nested a
bounded number of times; members keep the order in which they stand. -/

namespace LoginGateway.Json

inductive Value where
  | null
  | bool (value : Bool)
  | number (value : Number)
  | string (value : String)
  | list (items : List Value)
  | object (members : List (String × Value))

def Number.described : Number → String
  | .natural value => s!"integer `{value}`"
  | .negative value => s!"integer `-{value}`"
  | .double value => "floating point `" ++ value.compactText ++ "`"

def Value.described : Value → String
  | .null => "null"
  | .bool value => s!"boolean `{value}`"
  | .number value => value.described
  | .string value => "string " ++ Quoted.quote value
  | .list _ => "sequence"
  | .object _ => "map"

def scalar (first : UInt8) (tail : Octets) : Except Fault (Value × Left tail) :=
  if first = 110 then do
    let left ← word [117, 108, 108] tail
    .ok (.null, left)
  else if first = 116 then do
    let left ← word [114, 117, 101] tail
    .ok (.bool true, left)
  else if first = 102 then do
    let left ← word [97, 108, 115, 101] tail
    .ok (.bool false, left)
  else if first = 34 then do
    let taken ← string tail
    .ok (.string taken.value, taken.left)
  else if first = 45 then do
    let taken ← number false tail
    .ok (.number taken.value, taken.left)
  else if isDigit first then do
    let taken ← number true (first :: tail)
    .ok (.number taken.value, taken.leftBehind)
  else .error (.in .expectedValue (first :: tail))

/-- What comes before the next element: nothing before the first, a comma before
any other; `none` if the bracket closes here. -/
def separator (frame : Frame) (first : Bool) (source : Octets) :
    Except Fault (Bool × Left source) :=
  match starts : skipBlanks source with
  | [] => .error ⟨frame.endCause, 0⟩
  | octet :: tail =>
    have less := lt_of_skipBlanks starts
    if octet = frame.close then .ok (false, ⟨tail, Nat.le_of_lt less⟩)
    else if first then .ok (true, ⟨octet :: tail, less⟩)
    else if octet = 44 then
      match starts' : skipBlanks tail with
      | [] => .error ⟨.endInValue, 0⟩
      | octet' :: tail' =>
        if octet' = frame.close then .error (.in .trailingComma (octet' :: tail'))
        else .ok (true, ⟨octet' :: tail',
          Nat.le_trans (le_of_skipBlanks starts') (Nat.le_of_lt less)⟩)
    else .error (.in frame.expectedEnd (octet :: tail))

def memberName (source : Octets) : Except Fault (Took source String) :=
  match starts : skipBlanks source with
  | [] => .error ⟨.endInObject, 0⟩
  | octet :: tail =>
    if octet = 34 then do
      let taken ← string tail
      .ok (taken.after (lt_of_skipBlanks starts))
    else .error (.in .keyNotString (octet :: tail))

/-- The deepest nesting a value may have is one less than this. -/
def depthLimit : Nat := 128

mutual

def value (depth : Nat) (source : Octets) : Except Fault (Took source Value) :=
  match starts : skipBlanks source with
  | [] => .error ⟨.endInValue, 0⟩
  | octet :: tail =>
    have less := lt_of_skipBlanks starts
    if octet = 91 then
      if depth ≤ 1 then .error (.in .depth (octet :: tail))
      else do
        let (items, ⟨rest, bound⟩) ← elements (depth - 1) true tail
        .ok ⟨.list items, rest, by omega⟩
    else if octet = 123 then
      if depth ≤ 1 then .error (.in .depth (octet :: tail))
      else do
        let (items, ⟨rest, bound⟩) ← members (depth - 1) true tail
        .ok ⟨.object items, rest, by omega⟩
    else do
      let (item, ⟨rest, bound⟩) ← scalar octet tail
      .ok ⟨item, rest, by omega⟩
termination_by (source.length, 0)

def elements (depth : Nat) (first : Bool) (source : Octets) :
    Except Fault (List Value × Left source) := do
  let (more, ⟨rest, bound⟩) ← separator .list first source
  if more then
    let ⟨item, rest, less⟩ ← value depth rest
    let (items, ⟨rest, bound'⟩) ← elements depth false rest
    .ok (item :: items, ⟨rest, by omega⟩)
  else .ok ([], ⟨rest, bound⟩)
termination_by (source.length, 1)
decreasing_by all_goals omega

def members (depth : Nat) (first : Bool) (source : Octets) :
    Except Fault (List (String × Value) × Left source) := do
  let (more, ⟨rest, bound⟩) ← separator .object first source
  if more then
    let ⟨name, rest, less⟩ ← memberName rest
    let ⟨rest, less'⟩ ← colon rest
    let ⟨item, rest, less''⟩ ← value depth rest
    let (items, ⟨rest, bound'⟩) ← members depth false rest
    .ok ((name, item) :: items, ⟨rest, by omega⟩)
  else .ok ([], ⟨rest, bound⟩)
termination_by (source.length, 1)
decreasing_by all_goals omega

end

def atEnd (source : Octets) : Except Fault Unit :=
  match skipBlanks source with
  | [] => .ok ()
  | octet :: tail => .error (.in .trailingText (octet :: tail))

def parse (source : Octets) : Except Fault Value := do
  let ⟨item, rest, _⟩ ← value depthLimit source
  atEnd rest
  .ok item

/-- The fault of a value that stands next and is not of the kind `expected`. -/
def mismatch (expected : String) (source : Octets) : Fault :=
  match source with
  | [] => ⟨.endInValue, 0⟩
  | octet :: tail =>
    if octet = 91 then .at (.kind "sequence" expected) (octet :: tail)
    else if octet = 123 then .at (.kind "map" expected) (octet :: tail)
    else match scalar octet tail with
      | .ok (item, left) => .at (.kind item.described expected) left.1
      | .error fault => fault

def stringValue (source : Octets) : Except Fault (Took source String) :=
  match starts : skipBlanks source with
  | [] => .error ⟨.endInValue, 0⟩
  | octet :: tail =>
    if octet = 34 then do
      let taken ← string tail
      .ok (taken.after (lt_of_skipBlanks starts))
    else .error (mismatch "a string" (octet :: tail))

/-- A character inside a string: controls, quotes and backslashes are escaped. -/
def escapeChar (char : Char) : List Char :=
  if char = '\x22' || char = '\\' then ['\\', char]
  else if char = '\x08' then ['\\', 'b']
  else if char = '\x0c' then ['\\', 'f']
  else if char = '\n' then ['\\', 'n']
  else if char = '\r' then ['\\', 'r']
  else if char = '\t' then ['\\', 't']
  else if char.toNat < 0x20 then
    ['\\', 'u', '0', '0', Char.ofNat (48 + char.toNat / 16), Nat.digitChar (char.toNat % 16)]
  else [char]

def quote (text : String) : List Char := '\x22' :: text.toList.flatMap escapeChar ++ ['\x22']

end LoginGateway.Json
