/-! Numbers of double precision, kept as a whole number times a power of two. All
arithmetic is exact up to one final rounding to the nearest, ties to even. -/

namespace LoginGateway

/-- A number of double precision. A finite one is `mantissa * 2 ^ exponent` with
its sign aside, the mantissa below `2 ^ 53` and the exponent at least -1074. -/
inductive Binary64 where
  | finite (negative : Bool) (mantissa : Nat) (exponent : Int)
  | infinite (negative : Bool)
  | notANumber
deriving DecidableEq, Repr

namespace Binary64

def zero : Binary64 := .finite false 0 (-1074)

def negate : Binary64 → Binary64
  | .finite negative mantissa exponent => .finite (!negative) mantissa exponent
  | .infinite negative => .infinite (!negative)
  | .notANumber => .notANumber

def isFinite : Binary64 → Bool
  | .finite _ _ _ => true
  | _ => false

/-- A quotient rounded to the nearest whole number, ties to even. -/
def roundDiv (numerator denominator : Nat) : Nat :=
  let quotient := numerator / denominator
  let rest := 2 * (numerator % denominator)
  if rest < denominator then quotient
  else if denominator < rest then quotient + 1
  else quotient + quotient % 2

def ofQuotient (numerator denominator : Nat) : Binary64 :=
  if numerator = 0 then zero
  else
    let estimate : Int := numerator.log2 - denominator.log2 - 53
    let scaled := fun exponent : Int =>
      (numerator <<< (-exponent).toNat, denominator <<< exponent.toNat)
    let fits := fun exponent : Int =>
      let (n, d) := scaled exponent
      n / d < 1 <<< 53
    let tight := if fits estimate then estimate else if fits (estimate + 1) then estimate + 1 else estimate + 2
    let exponent := max tight (-1074)
    let (n, d) := scaled exponent
    let mantissa := roundDiv n d
    let (mantissa, exponent) :=
      if mantissa = 1 <<< 53 then (1 <<< 52, exponent + 1) else (mantissa, exponent)
    if 971 < exponent then .infinite false else .finite false mantissa exponent

def ofNat (n : Nat) : Binary64 := ofQuotient n 1

/-- The nearest number to `digits * 10 ^ exponent`. Exponents far out of range
are not worked out. -/
def ofDecimal (digits : Nat) (exponent : Int) : Binary64 :=
  if digits = 0 then zero
  else if 400 < exponent then .infinite false
  else if exponent < 0 then
    if Int.ofNat (digits.log2 / 3) + exponent < -400 then zero
    else ofQuotient digits (Nat.pow 10 exponent.natAbs)
  else ofQuotient (digits * Nat.pow 10 exponent.toNat) 1

def mul : Binary64 → Binary64 → Binary64
  | .finite _ m e, .finite _ n f =>
    let exponent := e + f
    ofQuotient ((m * n) <<< exponent.toNat) (1 <<< (-exponent).toNat)
  | .notANumber, _ => .notANumber
  | _, .notANumber => .notANumber
  | _, _ => .infinite false

def div : Binary64 → Binary64 → Binary64
  | .finite _ m e, .finite _ n f =>
    let exponent := e - f
    ofQuotient (m <<< exponent.toNat) (n <<< (-exponent).toNat)
  | .infinite negative, .finite _ _ _ => .infinite negative
  | .finite _ _ _, .infinite _ => zero
  | _, _ => .notANumber

end Binary64

end LoginGateway
