import LoginGateway.Text.Percent
import LoginGateway.Text.Split

/-! Form encoding, the notation of queries and of posted forms. A blank is a plus
sign, and all but a few unreserved characters are escaped. -/

namespace LoginGateway.Form

def isPlain (octet : UInt8) : Bool :=
  (48 ≤ octet && octet ≤ 57) || (65 ≤ octet && octet ≤ 90) || (97 ≤ octet && octet ≤ 122)
    || octet = 42 || octet = 45 || octet = 46 || octet = 95

def encodeOctets (bytes : Octets) : List Char :=
  bytes.flatMap fun octet =>
    if isPlain octet then [Char.ofNat octet.toNat]
    else if octet = 32 then ['+'] else Percent.escape octet

def encode (text : String) : List Char := encodeOctets (octets text)

def decode (bytes : Octets) : String :=
  String.ofList <| Utf8.decodeLossy <| Percent.decode <|
    bytes.map fun octet => if octet = 43 then 32 else octet

def encodePair (pair : String × String) : List Char := encode pair.1 ++ '=' :: encode pair.2

def serialize (pairs : List (String × String)) : List Char :=
  (pairs.map encodePair).intersperse ['&'] |>.flatten

def parse (bytes : Octets) : List (String × String) :=
  (pieces 38 bytes).filter (· ≠ []) |>.map fun piece =>
    let (name, value) := cutFirst 61 piece
    (decode name, decode (value.getD []))

def first? (pairs : List (String × String)) (name : String) : Option String :=
  (pairs.find? (·.1 = name)).map (·.2)

end LoginGateway.Form
