import LoginGateway.Json.Fault
import LoginGateway.Number.Binary64

/-! Readers of the pieces of a JSON text. Each takes something from the front of a
list of octets and proves that less is left, so readers that call each other end. -/

namespace LoginGateway.Json

/-- What a reader took from the front of `source`, and what it left. -/
structure Took (source : Octets) (α : Type) where
  value : α
  rest : Octets
  shorter : rest.length < source.length

def Took.after {source tail : Octets} {α : Type} (taken : Took tail α)
    (less : tail.length < source.length) : Took source α :=
  ⟨taken.value, taken.rest, Nat.lt_trans taken.shorter less⟩

abbrev Left (source : Octets) := { rest : Octets // rest.length ≤ source.length }

def Left.all (source : Octets) : Left source := ⟨source, Nat.le_refl _⟩

def Left.after {source tail : Octets} (left : Left tail) (less : tail.length ≤ source.length) :
    Left source := ⟨left.1, Nat.le_trans left.2 less⟩

def Took.left {source : Octets} {α : Type} (taken : Took source α) : Left source :=
  ⟨taken.rest, Nat.le_of_lt taken.shorter⟩

def Took.leftBehind {octet : UInt8} {tail : Octets} {α : Type} (taken : Took (octet :: tail) α) : Left tail :=
  ⟨taken.rest, Nat.le_of_lt_succ taken.shorter⟩

def isBlank (octet : UInt8) : Bool := octet = 32 || octet = 10 || octet = 9 || octet = 13

def skipBlanks (source : Octets) : Octets := source.dropWhile isBlank

theorem skipBlanks_length (source : Octets) : (skipBlanks source).length ≤ source.length :=
  (List.dropWhile_sublist _).length_le

theorem le_of_skipBlanks {source rest : Octets} (starts : skipBlanks source = rest) :
    rest.length ≤ source.length := starts ▸ skipBlanks_length source

theorem lt_of_skipBlanks {source tail : Octets} {octet : UInt8}
    (starts : skipBlanks source = octet :: tail) : tail.length < source.length := by
  have := skipBlanks_length source
  rw [starts] at this
  exact this

/-- The octets after a word, which has to be all there. -/
def word : Octets → (source : Octets) → Except Fault (Left source)
  | [], source => .ok (.all source)
  | _ :: _, [] => .error ⟨.endInValue, 0⟩
  | letter :: letters, octet :: tail =>
    if octet = letter then do
      let ⟨rest, bound⟩ ← word letters tail
      .ok ⟨rest, Nat.le_succ_of_le bound⟩
    else .error (.at .expectedWord tail)

def hexValue? (octet : UInt8) : Option Nat :=
  if 48 ≤ octet && octet ≤ 57 then some (octet.toNat - 48)
  else if 65 ≤ octet && octet ≤ 70 then some (octet.toNat - 55)
  else if 97 ≤ octet && octet ≤ 102 then some (octet.toNat - 87)
  else none

def hexUnit : (source : Octets) → Except Fault (Took source Nat)
  | a :: b :: c :: d :: rest =>
    match hexValue? a, hexValue? b, hexValue? c, hexValue? d with
    | some w, some x, some y, some z =>
      .ok ⟨((w * 16 + x) * 16 + y) * 16 + z, rest, by simp only [List.length_cons]; omega⟩
    | _, _, _, _ => .error (.at .escape rest)
  | _ => .error ⟨.endInString, 0⟩

def shortEscape? (letter : UInt8) : Option UInt8 :=
  if letter = 34 || letter = 92 || letter = 47 then some letter
  else if letter = 98 then some 8
  else if letter = 102 then some 12
  else if letter = 110 then some 10
  else if letter = 114 then some 13
  else if letter = 116 then some 9
  else none

def pairChar (high low : Nat) : Char :=
  Char.ofNat ((high - 0xD800) * 0x400 + (low - 0xDC00) + 0x10000)

/-- The octets of an escape, after its backslash. Surrogates come in pairs. -/
def escaped : (source : Octets) → Except Fault (Took source Octets)
  | [] => .error ⟨.endInString, 0⟩
  | letter :: tail =>
    if letter = 117 then do
      let ⟨unit, rest, less⟩ ← hexUnit tail
      if 0xDC00 ≤ unit && unit ≤ 0xDFFF then .error (.at .loneSurrogate rest)
      else if unit < 0xD800 || 0xDBFF < unit then
        .ok ⟨Utf8.encode [Char.ofNat unit], rest, by simp only [List.length_cons]; omega⟩
      else match rest, less with
        | 92 :: 117 :: low, less => do
          let ⟨second, rest, less'⟩ ← hexUnit low
          if 0xDC00 ≤ second && second ≤ 0xDFFF then
            .ok ⟨Utf8.encode [pairChar unit second], rest, by
              simp only [List.length_cons] at less ⊢; omega⟩
          else .error (.at .loneSurrogate rest)
        | 92 :: _ :: rest, _ => .error (.at .surrogateEnd rest)
        | [92], _ => .error ⟨.endInString, 0⟩
        | _ :: rest, _ => .error (.at .surrogateEnd rest)
        | [], _ => .error ⟨.endInString, 0⟩
    else match shortEscape? letter with
      | some octet => .ok ⟨[octet], tail, by simp⟩
      | none => .error (.at .escape tail)

def stringOctets (source : Octets) : Except Fault (Took source Octets) :=
  match source with
  | [] => .error ⟨.endInString, 0⟩
  | octet :: tail =>
    if octet = 34 then .ok ⟨[], tail, by simp⟩
    else if octet = 92 then do
      let ⟨front, rest, less⟩ ← escaped tail
      let ⟨back, rest', less'⟩ ← stringOctets rest
      .ok ⟨front ++ back, rest', by simp only [List.length_cons]; omega⟩
    else if octet < 0x20 then .error (.at .control tail)
    else do
      let ⟨back, rest, less⟩ ← stringOctets tail
      .ok ⟨octet :: back, rest, by simp only [List.length_cons]; omega⟩
termination_by source.length
decreasing_by all_goals simp only [List.length_cons]; omega

/-- A string after its opening quote. Escapes are ASCII, so the first octet that is
no part of a character is found in the string as it is written. -/
def string (source : Octets) : Except Fault (Took source String) := do
  let ⟨bytes, rest, less⟩ ← stringOctets source
  match text? bytes with
  | some text => .ok ⟨text, rest, less⟩
  | none => .error ⟨.codePoint, source.length - Utf8.soundLength source - 1⟩

/-- A number as it was written: whole and small, or rounded to double precision. -/
inductive Number where
  | natural (value : Nat)
  | negative (value : Nat)
  | double (value : Binary64)
deriving DecidableEq, Repr

def isDigit (octet : UInt8) : Bool := 48 ≤ octet && octet ≤ 57

def digitValue (octet : UInt8) : Nat := octet.toNat - 48

/-- Digits are gathered while they fit into 64 bits; the result holds the number
and how many of the digits went into it. -/
def gather : Nat → Octets → Nat × Nat
  | value, [] => (value, 0)
  | value, digit :: rest =>
    let next := value * 10 + digitValue digit
    if UInt64.size ≤ next then (value, 0)
    else
      let (value, count) := gather next rest
      (value, count + 1)

def tenTo (exponent : Nat) : Binary64 := .ofDecimal 1 exponent

/-- The double nearest to a product or quotient of two doubles, in the steps that
the range of powers of ten allows; none if it is too large. -/
def scaled? (significand : Nat) (exponent : Int) : Option Binary64 :=
  let start := Binary64.ofNat significand
  if significand = 0 then some start
  else if 0 ≤ exponent then
    if 308 < exponent then none
    else match start.mul (tenTo exponent.toNat) with
      | .infinite _ => none
      | number => some number
  else if -308 ≤ exponent then some (start.div (tenTo exponent.natAbs))
  else if -616 ≤ exponent then some ((start.div (tenTo 308)).div (tenTo (exponent.natAbs - 308)))
  else some .zero

def withSign (positive : Bool) (number : Binary64) : Binary64 :=
  if positive then number else number.negate

def double (positive : Bool) (significand : Nat) (exponent : Int) (rest : Octets) :
    Except Fault Number :=
  match scaled? significand exponent with
  | some number => .ok (.double (withSign positive number))
  | none => .error (.at .outOfRange rest)

/-- The digits of an exponent up to the one that makes it too large to keep:
its value, or what is left behind that digit. -/
def exponentDigits : Nat → Octets → Nat ⊕ Octets
  | value, [] => .inl value
  | value, digit :: rest =>
    if isDigit digit then
      let next := value * 10 + digitValue digit
      if UInt32.size / 2 ≤ next then .inr rest else exponentDigits next rest
    else .inl value

def exponentSign : (source : Octets) → Bool × { rest : Octets // rest.length ≤ source.length }
  | [] => (true, ⟨[], Nat.le_refl _⟩)
  | first :: tail =>
    if first = 43 then (true, ⟨tail, Nat.le_succ _⟩)
    else if first = 45 then (false, ⟨tail, Nat.le_succ _⟩)
    else (true, ⟨first :: tail, Nat.le_refl _⟩)

/-- An exponent after its letter, for a significand that already has one. -/
def exponentPart (positive : Bool) (significand : Nat) (start : Int) (source : Octets) :
    Except Fault (Number × { rest : Octets // rest.length ≤ source.length }) :=
  let (up, ⟨unsigned, bound⟩) := exponentSign source
  match unsigned, bound with
  | [], _ => .error ⟨.endInValue, 0⟩
  | first :: tail, bound =>
    if isDigit first then
      let rest : { rest : Octets // rest.length ≤ source.length } :=
        ⟨(first :: tail).dropWhile isDigit,
          Nat.le_trans (List.dropWhile_sublist _).length_le bound⟩
      match exponentDigits 0 (first :: tail) with
      | .inr left =>
        if significand ≠ 0 ∧ up then .error (.at .outOfRange left)
        else .ok (.double (withSign positive .zero), rest)
      | .inl value => do
        let number ← double positive significand (if up then start + value else start - value) rest.1
        .ok (number, rest)
    else .error (.at .number tail)

def numberTail (positive : Bool) (digits source : Octets) :
    Except Fault (Number × { rest : Octets // rest.length ≤ source.length }) :=
  let (whole, used) := gather 0 digits
  let dropped : Int := digits.length - used
  match source with
  | 46 :: tail => do
    let fraction := tail.takeWhile isDigit
    let rest := tail.dropWhile isDigit
    have bound : rest.length ≤ tail.length := (List.dropWhile_sublist _).length_le
    if fraction.isEmpty then
      .error (if tail.isEmpty then ⟨.endInValue, 0⟩ else .in .number tail)
    else
      let (significand, count) := gather whole fraction
      let exponent := dropped - count
      match rest, bound with
      | letter :: after, bound =>
        if letter = 101 || letter = 69 then do
          let (number, ⟨left, bound'⟩) ← exponentPart positive significand exponent after
          .ok (number, ⟨left, by simp only [List.length_cons] at bound ⊢; omega⟩)
        else do
          let number ← double positive significand exponent (letter :: after)
          .ok (number, ⟨letter :: after, by simp only [List.length_cons] at bound ⊢; omega⟩)
      | [], _ => do
        let number ← double positive significand exponent []
        .ok (number, ⟨[], Nat.zero_le _⟩)
  | letter :: tail =>
    if letter = 101 || letter = 69 then do
      let (number, ⟨left, bound⟩) ← exponentPart positive whole dropped tail
      .ok (number, ⟨left, Nat.le_succ_of_le bound⟩)
    else do
      let number ← plain whole dropped (letter :: tail)
      .ok (number, ⟨letter :: tail, Nat.le_refl _⟩)
  | [] => do
    let number ← plain whole dropped []
    .ok (number, ⟨[], Nat.le_refl _⟩)
where
  plain (whole : Nat) (dropped : Int) (rest : Octets) : Except Fault Number :=
    if dropped ≠ 0 then double positive whole dropped rest
    else if positive then .ok (.natural whole)
    else if whole = 0 ∨ UInt64.size / 2 < whole then .ok (.double (Binary64.ofNat whole).negate)
    else .ok (.negative whole)

/-- A number after its sign. No number but zero begins with a zero. -/
def number (positive : Bool) : (source : Octets) → Except Fault (Took source Number)
  | [] => .error ⟨.endInValue, 0⟩
  | first :: tail =>
    if first = 48 then
      if tail.head?.any isDigit then .error (.in .number tail)
      else do
        let (value, ⟨rest, bound⟩) ← numberTail positive [48] tail
        .ok ⟨value, rest, Nat.lt_succ_of_le bound⟩
    else if isDigit first then do
      let (value, ⟨rest, bound⟩) ← numberTail positive (first :: tail.takeWhile isDigit) (tail.dropWhile isDigit)
      have := (List.dropWhile_sublist isDigit (l := tail)).length_le
      .ok ⟨value, rest, by simp only [List.length_cons]; omega⟩
    else .error (.at .number tail)

end LoginGateway.Json
