import LoginGateway.Number.Binary64

/-! The shortest decimal that reads back as the same number, and the two ways in
which messages write it: with an exponent where the number is far from one, or
with all its places. -/

namespace LoginGateway.Binary64

/-- A decimal `0.d₁d₂… * 10 ^ point`, the digits as one whole number. -/
structure Decimal where
  digits : Nat
  count : Nat
  point : Int

/-- The numbers that round to `mantissa * 2 ^ exponent`, as bounds over one
denominator: below, the value itself, above. -/
structure Span where
  low : Nat
  value : Nat
  high : Nat
  denominator : Nat
  closed : Bool

def span (mantissa : Nat) (exponent : Int) : Span :=
  let scale := 1 <<< exponent.toNat
  let narrow := mantissa = 1 <<< 52 && -1074 < exponent
  { low := (4 * mantissa - if narrow then 1 else 2) * scale
    value := 4 * mantissa * scale
    high := (4 * mantissa + 2) * scale
    denominator := 4 <<< (-exponent).toNat
    closed := mantissa % 2 = 0 }

/-- The decimal point of a positive value: the least `p` with `value < 10 ^ p`. -/
def pointOf (numerator denominator : Nat) : Int :=
  let guess : Int := ((numerator.log2 : Int) - denominator.log2) * 30103 / 100000 - 1
  let below := fun p : Int => numerator * Nat.pow 10 (-p).toNat < denominator * Nat.pow 10 p.toNat
  if below guess then guess
  else if below (guess + 1) then guess + 1
  else if below (guess + 2) then guess + 2
  else guess + 3

/-- The best decimal of `count` digits in the span, if one lies there. -/
def Span.decimal? (s : Span) (point : Int) (count : Nat) : Option Nat :=
  let shift := (count : Int) - point
  let up := Nat.pow 10 shift.toNat
  let down := Nat.pow 10 (-shift).toNat
  let inside := fun digits : Nat =>
    let place := digits * s.denominator * down
    if s.closed then s.low * up ≤ place ∧ place ≤ s.high * up
    else s.low * up < place ∧ place < s.high * up
  let lower := s.value * up / (s.denominator * down)
  let upper := lower + 1
  if inside lower then
    let rest := s.value * up - lower * s.denominator * down
    let other := upper * s.denominator * down - s.value * up
    if inside upper ∧ (other < rest ∨ (other = rest ∧ lower % 2 = 1)) then some upper else some lower
  else if inside upper then some upper
  else none

/-- Try one digit, then two, up to `fuel` more. -/
def Span.shortestFrom (s : Span) (point : Int) : Nat → Nat → Nat × Nat
  | count, 0 => ((s.decimal? point count).getD 0, count)
  | count, fuel + 1 =>
    match s.decimal? point count with
    | some digits => (digits, count)
    | none => s.shortestFrom point (count + 1) fuel

def stripZeros : Nat → Nat → Nat → Nat × Nat
  | digits, count, 0 => (digits, count)
  | digits, count, fuel + 1 =>
    if digits % 10 = 0 ∧ 1 < count then stripZeros (digits / 10) (count - 1) fuel else (digits, count)

/-- The shortest decimal of a positive number; 17 digits always suffice. -/
def shortest (mantissa : Nat) (exponent : Int) : Decimal :=
  let s := span mantissa exponent
  let point := pointOf s.value s.denominator
  let (digits, count) := s.shortestFrom point 1 16
  let (digits, count, point) :=
    if digits = Nat.pow 10 count then (Nat.pow 10 (count - 1), count, point + 1) else (digits, count, point)
  let (digits, count) := stripZeros digits count 17
  ⟨digits, count, point⟩

def Decimal.positional (d : Decimal) (whole : String) : String :=
  let digits := (Nat.repr d.digits).toList
  let zeros := fun n : Int => List.replicate n.toNat '0'
  if d.point ≤ 0 then String.ofList ('0' :: '.' :: zeros (-d.point) ++ digits)
  else if d.count ≤ d.point then String.ofList (digits ++ zeros (d.point - d.count)) ++ whole
  else String.ofList (digits.take d.point.toNat ++ '.' :: digits.drop d.point.toNat)

def Decimal.scientific (d : Decimal) : String :=
  let digits := (Nat.repr d.digits).toList
  let fraction := if d.count ≤ 1 then [] else '.' :: digits.drop 1
  let exponent := d.point - 1
  String.ofList (digits.take 1 ++ fraction) ++ (if exponent < 0 then "e-" else "e+")
    ++ Nat.repr exponent.natAbs

def sign (negative : Bool) : String := if negative then "-" else ""

/-- Positional from `10 ^ -5` up to `10 ^ 16`, always with a fraction. -/
def compactText : Binary64 → String
  | .finite negative 0 _ => sign negative ++ "0.0"
  | .finite negative mantissa exponent =>
    let d := shortest mantissa exponent
    sign negative ++ if -5 < d.point ∧ d.point ≤ 16 then d.positional ".0" else d.scientific
  | .infinite negative => sign negative ++ "inf"
  | .notANumber => "NaN"

/-- Always positional, whole numbers without a fraction. -/
def plainText : Binary64 → String
  | .finite negative 0 _ => sign negative ++ "0"
  | .finite negative mantissa exponent =>
    sign negative ++ (shortest mantissa exponent).positional ""
  | .infinite negative => sign negative ++ "inf"
  | .notANumber => "NaN"

end LoginGateway.Binary64
