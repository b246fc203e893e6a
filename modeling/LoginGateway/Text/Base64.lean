import LoginGateway.Text.Utf8

/-! Padded base64 in the alphabet that is safe in URLs. The reader is strict: it
takes exactly what the writer writes, so two spellings never read alike. -/

namespace LoginGateway.Base64

inductive Fault where
  | symbol (octet : UInt8) (place : Nat)
  | lastSymbol (octet : UInt8) (place : Nat)
  | length (count : Nat)
  | padding
deriving DecidableEq, Repr

def Fault.message : Fault → String
  | .symbol octet place => s!"Invalid symbol {octet.toNat}, offset {place}."
  | .lastSymbol octet place => s!"Invalid last symbol {octet.toNat}, offset {place}."
  | .length count => s!"Invalid input length: {count}"
  | .padding => "Invalid padding"

def symbol (digit : Nat) : Char :=
  if digit < 26 then Char.ofNat (65 + digit)
  else if digit < 52 then Char.ofNat (71 + digit)
  else if digit < 62 then Char.ofNat (digit - 4)
  else if digit = 62 then '-' else '_'

def digit? (octet : UInt8) : Option Nat :=
  if 65 ≤ octet && octet ≤ 90 then some (octet.toNat - 65)
  else if 97 ≤ octet && octet ≤ 122 then some (octet.toNat - 71)
  else if 48 ≤ octet && octet ≤ 57 then some (octet.toNat + 4)
  else if octet = 45 then some 62
  else if octet = 95 then some 63
  else none

def pad : UInt8 := 61

def encode : Octets → List Char
  | a :: b :: c :: rest =>
    symbol (a.toNat / 4) :: symbol (a.toNat % 4 * 16 + b.toNat / 16)
      :: symbol (b.toNat % 16 * 4 + c.toNat / 64) :: symbol (c.toNat % 64) :: encode rest
  | [a, b] =>
    [symbol (a.toNat / 4), symbol (a.toNat % 4 * 16 + b.toNat / 16), symbol (b.toNat % 16 * 4), '=']
  | [a] => [symbol (a.toNat / 4), symbol (a.toNat % 4 * 16), '=', '=']
  | [] => []

def digitAt (octet : UInt8) (place : Nat) : Except Fault Nat :=
  match digit? octet with
  | some digit => .ok digit
  | none => .error (.symbol octet place)

def join (a b c d : Nat) : Octets :=
  [UInt8.ofNat (a * 4 + b / 16), UInt8.ofNat (b % 16 * 16 + c / 4), UInt8.ofNat (c % 4 * 64 + d)]

/-- The last group of at most four octets. It may be padded, and the bits of its
last digit that belong to no octet have to be zero. -/
def decodeLast (place : Nat) : Octets → Except Fault Octets
  | [] => .ok []
  | [a] => do
    let _ ← digitAt a place
    .error (.length (place + 1))
  | [a, b] => do
    let _ ← digitAt a place
    let _ ← digitAt b (place + 1)
    .error .padding
  | [a, b, c] => do
    let _ ← digitAt a place
    let _ ← digitAt b (place + 1)
    if c = pad then .error .padding
    let _ ← digitAt c (place + 2)
    .error .padding
  | a :: b :: c :: d :: _ => do
    let first ← digitAt a place
    let second ← digitAt b (place + 1)
    if c = pad then
      if d = pad then
        if second % 16 = 0 then .ok [UInt8.ofNat (first * 4 + second / 16)]
        else .error (.lastSymbol b (place + 1))
      else .error (.symbol pad (place + 2))
    else
      let third ← digitAt c (place + 2)
      if d = pad then
        if third % 4 = 0 then
          .ok [UInt8.ofNat (first * 4 + second / 16), UInt8.ofNat (second % 16 * 16 + third / 4)]
        else .error (.lastSymbol c (place + 2))
      else
        let fourth ← digitAt d (place + 3)
        .ok (join first second third fourth)

def decodeFrom (place : Nat) : Octets → Except Fault Octets
  | a :: b :: c :: d :: e :: rest => do
    let first ← digitAt a place
    let second ← digitAt b (place + 1)
    let third ← digitAt c (place + 2)
    let fourth ← digitAt d (place + 3)
    let left ← decodeFrom (place + 4) (e :: rest)
    .ok (join first second third fourth ++ left)
  | last => decodeLast place last

/-- One octet too many that is no symbol at all is named before anything else. -/
def decode (bytes : Octets) : Except Fault Octets :=
  match bytes.getLast? with
  | some last =>
    if bytes.length % 4 = 1 && last != pad && (digit? last).isNone then
      .error (.symbol last (bytes.length - 1))
    else decodeFrom 0 bytes
  | none => .ok []

end LoginGateway.Base64
