import LoginGateway.Text.Ranges

/-! Tables from characters to characters, written as text. An entry `a=b.c` gives
the code points `b` and `c` to `a`, `a-b=c` gives `c` to a whole range, and `a-b>c`
moves a range so that it begins at `c`. -/

namespace LoginGateway.Domain

structure Entry where
  low : Nat
  high : Nat
  moved : Bool
  targets : List Nat

structure Table where
  entries : List Entry

namespace Table

def sides : List Char → List Char × Bool × List Char
  | [] => ([], false, [])
  | char :: rest =>
    if char = '=' then ([], false, rest)
    else if char = '>' then ([], true, rest)
    else
      let (before, moved, after) := sides rest
      (char :: before, moved, after)

def entry? (piece : List Char) : Option Entry :=
  let (range, moved, targets) := sides piece
  let targets := ((pieces '.' targets).filter (· ≠ [])).map hexNumber
  match pieces '-' range with
  | [[]] => none
  | [only] => some ⟨hexNumber only, hexNumber only, moved, targets⟩
  | low :: high :: _ => some ⟨hexNumber low, hexNumber high, moved, targets⟩
  | [] => none

def read (text : String) : Table where
  entries := (pieces ' ' (text.toList.map fun char => if char = '\n' then ' ' else char)).filterMap entry?

def get? (table : Table) (code : Nat) : Option (List Nat) :=
  (table.entries.find? fun entry => entry.low ≤ code && code ≤ entry.high).map fun entry =>
    if entry.moved then entry.targets.map (· + (code - entry.low)) else entry.targets

/-- The code point that a table gives two parts to. -/
def whole? (table : Table) (first second : Nat) : Option Nat :=
  (table.entries.find? fun entry => entry.targets = [first, second]).map (·.low)

end Table

end LoginGateway.Domain
