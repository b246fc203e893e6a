import LoginGateway.Text.Utf8

/-! Percent escapes. Which octets are escaped is the caller's choice; reading
takes every well-formed escape and leaves all other octets as they are. -/

namespace LoginGateway.Percent

def hexDigit (digit : Nat) : Char := Char.ofNat (if digit < 10 then 48 + digit else 55 + digit)

def hexValue? (octet : UInt8) : Option Nat :=
  if 48 ≤ octet && octet ≤ 57 then some (octet.toNat - 48)
  else if 65 ≤ octet && octet ≤ 70 then some (octet.toNat - 55)
  else if 97 ≤ octet && octet ≤ 102 then some (octet.toNat - 87)
  else none

def escape (octet : UInt8) : List Char :=
  ['%', hexDigit (octet.toNat / 16), hexDigit (octet.toNat % 16)]

/-- Octets as text: those that `escaped` names, and all beyond ASCII, as escapes. -/
def encode (escaped : UInt8 → Bool) (bytes : Octets) : List Char :=
  bytes.flatMap fun octet =>
    if escaped octet || 0x80 ≤ octet then escape octet else [Char.ofNat octet.toNat]

/-- A text in which the characters that `escaped` names are replaced by escapes. -/
def encodeText (escaped : UInt8 → Bool) (text : List Char) : List Char :=
  encode escaped (Utf8.encode text)

def decode : Octets → Octets
  | 37 :: high :: low :: rest =>
    match hexValue? high, hexValue? low with
    | some h, some l => UInt8.ofNat (h * 16 + l) :: decode rest
    | _, _ => 37 :: decode (high :: low :: rest)
  | octet :: rest => octet :: decode rest
  | [] => []

def isControl (octet : UInt8) : Bool := octet < 0x20 || 0x7F ≤ octet

def isOneOf (set : String) (octet : UInt8) : Bool :=
  octet < 0x80 && set.toList.contains (Char.ofNat octet.toNat)

end LoginGateway.Percent
