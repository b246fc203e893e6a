import LoginGateway.Json.Reader

/-! Passing over a value that nobody reads. It has to be written well, but its
numbers may be of any size, its strings of any octets and its depth unbounded. -/

namespace LoginGateway.Json

abbrev Less (source : Octets) := { rest : Octets // rest.length < source.length }

def Less.left {source : Octets} (less : Less source) : Left source := ⟨less.1, Nat.le_of_lt less.2⟩

def Less.leftBehind {octet : UInt8} {tail : Octets} (less : Less (octet :: tail)) : Left tail :=
  ⟨less.1, Nat.le_of_lt_succ less.2⟩

def Left.behind {tail : Octets} (octet : UInt8) (left : Left tail) : Less (octet :: tail) :=
  ⟨left.1, Nat.lt_succ_of_le left.2⟩

def Left.tail (octet : UInt8) (tail : Octets) : Left (octet :: tail) := (Left.all tail).behind octet |>.left

def skipEscape : (source : Octets) → Except Fault (Left source)
  | [] => .error ⟨.endInString, 0⟩
  | letter :: tail =>
    if letter = 117 then do
      let taken ← hexUnit tail
      .ok (taken.left.behind letter).left
    else if (shortEscape? letter).isSome then .ok (.tail letter tail)
    else .error (.at .escape tail)

def skipString (source : Octets) : Except Fault (Left source) :=
  match source with
  | [] => .error ⟨.endInString, 0⟩
  | octet :: tail =>
    if octet = 34 then .ok ⟨tail, Nat.le_succ _⟩
    else if octet = 92 then do
      let ⟨rest, less⟩ ← skipEscape tail
      let left ← skipString rest
      .ok (left.after (Nat.le_succ_of_le less))
    else if octet < 0x20 then .error (.at .control (octet :: tail))
    else do
      let left ← skipString tail
      .ok (left.after (Nat.le_succ _))
termination_by source.length
decreasing_by all_goals simp only [List.length_cons]; omega

def skipDigits (source : Octets) : Left source :=
  ⟨source.dropWhile isDigit, (List.dropWhile_sublist _).length_le⟩

def skipExponent (source : Octets) : Except Fault (Left source) :=
  let (_, ⟨unsigned, bound⟩) := exponentSign source
  match unsigned, bound with
  | [], _ => .error ⟨.number, 0⟩
  | first :: tail, bound =>
    if isDigit first then .ok ((skipDigits (first :: tail)).after bound)
    else .error (.at .number tail)

def skipExponentPart : (source : Octets) → Except Fault (Left source)
  | [] => .ok (.all [])
  | letter :: tail =>
    if letter = 101 || letter = 69 then do
      let left ← skipExponent tail
      .ok (left.behind letter).left
    else .ok (.all (letter :: tail))

def skipNumberTail : (source : Octets) → Except Fault (Left source)
  | [] => .ok (.all [])
  | letter :: tail =>
    if letter = 46 then
      if tail.head?.any isDigit then do
        let ⟨digits, bound⟩ := skipDigits tail
        let left ← skipExponentPart digits
        .ok ((left.after bound).behind letter).left
      else .error (.in .number tail)
    else skipExponentPart (letter :: tail)

def skipNumber : (source : Octets) → Except Fault (Less source)
  | [] => .error ⟨.number, 0⟩
  | first :: tail =>
    if first = 48 then
      if tail.head?.any isDigit then .error (.in .number tail)
      else do
        let left ← skipNumberTail tail
        .ok (left.behind first)
    else if isDigit first then do
      let ⟨digits, bound⟩ := skipDigits tail
      let left ← skipNumberTail digits
      .ok ((left.after bound).behind first)
    else .error (.at .number tail)

def skipScalar (first : UInt8) (tail : Octets) : Except Fault (Left tail) :=
  if first = 110 then word [117, 108, 108] tail
  else if first = 116 then word [114, 117, 101] tail
  else if first = 102 then word [97, 108, 115, 101] tail
  else if first = 34 then skipString tail
  else if first = 45 then do
    let less ← skipNumber tail
    .ok less.left
  else if isDigit first then do
    let less ← skipNumber (first :: tail)
    .ok less.leftBehind
  else .error (.in .expectedValue (first :: tail))

inductive Frame where
  | list
  | object
deriving DecidableEq, Repr

namespace Frame

def close : Frame → UInt8
  | .list => 93
  | .object => 125

def endCause : Frame → Cause
  | .list => .endInList
  | .object => .endInObject

def expectedEnd : Frame → Cause
  | .list => .expectedListEnd
  | .object => .expectedObjectEnd

end Frame

def Left.behindBlanks {source tail : Octets} {octet : UInt8}
    (starts : skipBlanks source = octet :: tail) (left : Left tail) : Left source :=
  left.after (Nat.le_of_lt (lt_of_skipBlanks starts))

/-- Leave all brackets that close here. What is left inside open brackets begins
with another element; a comma comes before it unless the bracket is fresh. -/
def leave (fresh : Bool) : List Frame → (source : Octets) →
    Except Fault (List Frame × Left source)
  | [], source => .ok ([], .all source)
  | frame :: below, source =>
    match starts : skipBlanks source with
    | [] => .error ⟨frame.endCause, 0⟩
    | octet :: tail =>
      if octet = 44 ∧ !fresh then .ok (frame :: below, .behindBlanks starts (.all tail))
      else if octet = frame.close then do
        let (stack, left) ← leave false below tail
        .ok (stack, .behindBlanks starts left)
      else if fresh then
        .ok (frame :: below, ⟨octet :: tail, starts ▸ skipBlanks_length source⟩)
      else .error (.in frame.expectedEnd (octet :: tail))

def colon (source : Octets) : Except Fault (Less source) :=
  match starts : skipBlanks source with
  | [] => .error ⟨.endInObject, 0⟩
  | octet :: tail =>
    if octet = 58 then .ok ⟨tail, lt_of_skipBlanks starts⟩
    else .error (.in .expectedColon (octet :: tail))

def enter (frame : Frame) (source : Octets) : Except Fault (Left source) :=
  match frame with
  | .list => .ok (.all source)
  | .object =>
    match starts : skipBlanks source with
    | [] => .error ⟨.endInObject, 0⟩
    | octet :: tail =>
      if octet = 34 then do
        let ⟨rest, bound⟩ ← skipString tail
        let less ← colon rest
        .ok (.behindBlanks starts (less.left.after bound))
      else .error (.in .keyNotString (octet :: tail))

/-- Pass over a value inside the brackets of `stack`, and over all that follows it
up to the last of those brackets. -/
def skipWithin (stack : List Frame) (source : Octets) :
    Except Fault (Less source) :=
  match starts : skipBlanks source with
  | [] => .error ⟨.endInValue, 0⟩
  | octet :: tail => do
    have less := lt_of_skipBlanks starts
    let (stack', ⟨rest, bound⟩) ←
      if octet = 91 then leave true (.list :: stack) tail
      else if octet = 123 then leave true (.object :: stack) tail
      else do
        let ⟨rest, bound⟩ ← skipScalar octet tail
        let (stack', left) ← leave false stack rest
        .ok (stack', left.after bound)
    match stack' with
    | [] => .ok ⟨rest, by omega⟩
    | frame :: below =>
      let ⟨rest', bound'⟩ ← enter frame rest
      let ⟨last, less'⟩ ← skipWithin (frame :: below) rest'
      .ok ⟨last, by omega⟩
termination_by source.length
decreasing_by omega

def skipValue (source : Octets) : Except Fault (Less source) :=
  skipWithin [] source

end LoginGateway.Json
