import LoginGateway.Text.Split

/-! Sets of characters, written as ranges of code points in hexadecimal. -/

namespace LoginGateway

def hexOf (char : Char) : Nat :=
  if '0' ≤ char ∧ char ≤ '9' then char.toNat - 48
  else if 'a' ≤ char ∧ char ≤ 'f' then char.toNat - 87
  else if 'A' ≤ char ∧ char ≤ 'F' then char.toNat - 55
  else 0

def isHexDigit (char : Char) : Bool :=
  char.isDigit || ('a' ≤ char && char ≤ 'f') || ('A' ≤ char && char ≤ 'F')

def hexNumber (digits : List Char) : Nat := digits.foldl (fun value char => value * 16 + hexOf char) 0

structure Ranges where
  spans : List (Nat × Nat)

namespace Ranges

def read (text : String) : Ranges where
  spans := (pieces ' ' (text.toList.map fun char => if char = '\n' then ' ' else char)).filterMap fun piece =>
    match pieces '-' piece with
    | [[]] => none
    | [only] => some (hexNumber only, hexNumber only)
    | low :: high :: _ => some (hexNumber low, hexNumber high)
    | [] => none

def contains (ranges : Ranges) (char : Char) : Bool :=
  ranges.spans.any fun (low, high) => low ≤ char.toNat && char.toNat ≤ high

end Ranges

end LoginGateway
