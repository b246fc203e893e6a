import LoginGateway.Text.Ranges

/-! Hosts that are numbers: addresses of four octets, and of eight pieces. -/

namespace LoginGateway

def digitNumber? (char : Char) : Option Nat :=
  let code := char.toNat
  if 48 ≤ code ∧ code ≤ 57 then some (code - 48)
  else if 97 ≤ code ∧ code ≤ 102 then some (code - 87)
  else if 65 ≤ code ∧ code ≤ 70 then some (code - 55)
  else none

def numberIn? (base : Nat) (digits : List Char) : Option Nat :=
  digits.foldlM (fun value char => (digitNumber? char).bind fun digit =>
    if digit < base then some (value * base + digit) else none) 0

namespace Ipv4

def part? : List Char → Option Nat
  | [] => none
  | ['0'] => some 0
  | '0' :: 'x' :: digits => numberIn? 16 digits
  | '0' :: 'X' :: digits => numberIn? 16 digits
  | '0' :: digits => numberIn? 8 digits
  | digits => numberIn? 10 digits

def partsOf (name : List Char) : List (List Char) :=
  let parts := pieces '.' name
  if parts.length > 1 ∧ parts.getLast? = some [] then parts.dropLast else parts

/-- Whether a name has to be an address because its last part is a number. -/
def isMeant (name : List Char) : Bool :=
  match (partsOf name).getLast? with
  | some last => (last ≠ [] && last.all Char.isDigit) || (part? last).isSome
  | none => false

/-- The address of a name; a last part that is large fills the octets that are missing. -/
def parse? (name : List Char) : Option Nat := do
  let parts := partsOf name
  if 4 < parts.length then none
  let numbers ← parts.mapM part?
  let last ← numbers.getLast?
  let others := numbers.dropLast
  let room := 1 <<< (8 * (4 - others.length))
  if room ≤ last ∨ others.any (255 < ·) then none
  else some (others.foldl (fun value octet => value * 256 + octet) 0 * room + last)

def text (address : Nat) : List Char :=
  ([address >>> 24, (address >>> 16) % 256, (address >>> 8) % 256, address % 256].map
    fun octet => (Nat.repr octet).toList).intersperse ['.'] |>.flatten

end Ipv4

namespace Ipv6

def embedded? (digits : List Char) : Option (List Nat) := do
  let parts := pieces '.' digits
  if parts.length ≠ 4 then none
  let octets ← parts.mapM fun part =>
    if part = [] ∨ 3 < part.length ∨ (1 < part.length ∧ part.head? = some '0') then none
    else (numberIn? 10 part).bind fun octet => if octet ≤ 255 then some octet else none
  match octets with
  | [a, b, c, d] => some [a * 256 + b, c * 256 + d]
  | _ => none

/-- The pieces between colons; the last may be an embedded address. -/
def pieces? : List (List Char) → Option (List Nat)
  | [] => some []
  | [last] =>
    if last.contains '.' then embedded? last
    else if last = [] ∨ 4 < last.length then none
    else (numberIn? 16 last).map ([·])
  | piece :: rest =>
    if piece = [] ∨ 4 < piece.length then none
    else do
      let number ← numberIn? 16 piece
      let others ← pieces? rest
      some (number :: others)

def splitGap : List Char → Option (List Char × List Char)
  | ':' :: ':' :: rest => some ([], rest)
  | char :: rest => (splitGap rest).map fun (before, after) => (char :: before, after)
  | [] => none

def side? (text : List Char) : Option (List Nat) :=
  if text = [] then some [] else pieces? (pieces ':' text)

def parse? (text : List Char) : Option (List Nat) :=
  match splitGap text with
  | none => do
    let pieces ← side? text
    if pieces.length = 8 then some pieces else none
  | some (before, after) => do
    if before.contains '.' then none
    let front ← side? before
    let back ← side? after
    if front.length + back.length < 8 then
      some (front ++ List.replicate (8 - front.length - back.length) 0 ++ back)
    else none

def zeros (pieces : List Nat) : Nat := (pieces.takeWhile (· = 0)).length

/-- The place and length of the first longest run of zeros among those that begin
at `place` or later. -/
def longestRun (place : Nat) : List Nat → Nat × Nat
  | [] => (place, 0)
  | piece :: rest =>
    let later := longestRun (place + 1) rest
    let here := zeros (piece :: rest)
    if later.2 ≤ here then (place, here) else later

def hexText (piece : Nat) : List Char := Nat.toDigits 16 piece

def joined (pieces : List Nat) : List Char := ((pieces.map hexText).intersperse [':']).flatten

/-- The shortest spelling: a run of at least two zeros is left out. -/
def text (pieces : List Nat) : List Char :=
  let (place, length) := longestRun 0 pieces
  if 2 ≤ length then joined (pieces.take place) ++ ':' :: ':' :: joined (pieces.drop (place + length))
  else joined pieces

end Ipv6

end LoginGateway
