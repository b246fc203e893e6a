import LoginGateway.Number.Binary64

/-! Reading numbers in decimal. -/

namespace LoginGateway

def digitsValue? (digits : List Char) : Option Nat :=
  if digits ≠ [] ∧ digits.all Char.isDigit then
    some (digits.foldl (fun value digit => value * 10 + (digit.toNat - 48)) 0)
  else none

inductive NumberFault where
  | empty
  | digit
  | large
  | small
deriving DecidableEq, Repr

def NumberFault.message : NumberFault → String
  | .empty => "cannot parse integer from empty string"
  | .digit => "invalid digit found in string"
  | .large => "number too large to fit in target type"
  | .small => "number too small to fit in target type"

def countFrom (limit : Nat) (excess : NumberFault) (value : Nat) : List Char → Except NumberFault Nat
  | [] => .ok value
  | digit :: rest =>
    if !digit.isDigit then .error .digit
    else
      let next := value * 10 + (digit.toNat - 48)
      if next < limit then countFrom limit excess next rest else .error excess

/-- A number without a sign, or with a plus sign, below `limit`. -/
def naturalBelow (limit : Nat) (text : List Char) : Except NumberFault Nat :=
  match text with
  | [] => .error .empty
  | ['+'] => .error .digit
  | '+' :: digits => countFrom limit .large 0 digits
  | digits => countFrom limit .large 0 digits

def signed64 (text : List Char) : Except NumberFault Int :=
  match text with
  | ['-'] => .error .digit
  | '-' :: digits => (countFrom (UInt64.size / 2 + 1) .small 0 digits).map fun value => -(value : Int)
  | _ => (naturalBelow (UInt64.size / 2) text).map Int.ofNat

def exponent? : List Char → Option Int
  | [] => some 0
  | mark :: rest =>
    if mark = 'e' || mark = 'E' then
      match rest with
      | '-' :: digits => (digitsValue? digits).map fun value => -(value : Int)
      | '+' :: digits => (digitsValue? digits).map Int.ofNat
      | digits => (digitsValue? digits).map Int.ofNat
    else none

namespace Binary64

def ofUnsigned? (text : List Char) : Option Binary64 :=
  let whole := text.takeWhile Char.isDigit
  let rest := text.dropWhile Char.isDigit
  let (fraction, rest) := match rest with
    | '.' :: after => (after.takeWhile Char.isDigit, after.dropWhile Char.isDigit)
    | other => ([], other)
  match digitsValue? (whole ++ fraction), exponent? rest with
  | some digits, some exponent => some (.ofDecimal digits (exponent - fraction.length))
  | _, _ => none

/-- The number a text stands for; a word stands for infinity or for no number. -/
def ofText? (text : List Char) : Option Binary64 :=
  let (negative, unsigned) := match text with
    | '-' :: rest => (true, rest)
    | '+' :: rest => (false, rest)
    | rest => (false, rest)
  let word := String.ofList (unsigned.map Char.toLower)
  let number := if word = "inf" ∨ word = "infinity" then some (.infinite false)
    else if word = "nan" then some .notANumber
    else ofUnsigned? unsigned
  number.map fun value => if negative then value.negate else value

end Binary64

end LoginGateway
