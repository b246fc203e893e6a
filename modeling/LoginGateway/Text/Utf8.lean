/-! UTF-8 as a function of the octets in front. A reader never looks back, so a
text is a list of characters and its octets are a list of bytes. Broken input is
cut where the standard cuts it, after the longest beginning of a sequence. -/

namespace LoginGateway

abbrev Octets := List UInt8

namespace Utf8

def encode (text : List Char) : Octets := text.flatMap String.utf8EncodeChar

def continues (low high octet : UInt8) : Bool := low ≤ octet && octet ≤ high

def payload (octet : UInt8) : Nat := octet.toNat % 64

/-- What a list of octets begins with: a character, or nothing when the octets in
front are broken, and the octets left after it. A lead octet bounds the octet
after it so that no character has two spellings and no surrogate has one. -/
def front (lead : UInt8) (rest : Octets) : Option Char × Octets :=
  if lead < 0x80 then (some (Char.ofNat lead.toNat), rest)
  else if lead < 0xC2 then (none, rest)
  else if lead < 0xE0 then
    match rest with
    | second :: tail =>
      if continues 0x80 0xBF second then
        (some (Char.ofNat (lead.toNat % 32 * 64 + payload second)), tail)
      else (none, rest)
    | [] => (none, [])
  else if lead < 0xF0 then
    match rest with
    | second :: tail =>
      if continues (if lead = 0xE0 then 0xA0 else 0x80) (if lead = 0xED then 0x9F else 0xBF) second then
        match tail with
        | third :: tail' =>
          if continues 0x80 0xBF third then
            (some (Char.ofNat ((lead.toNat % 16 * 64 + payload second) * 64 + payload third)), tail')
          else (none, tail)
        | [] => (none, [])
      else (none, rest)
    | [] => (none, [])
  else if lead < 0xF5 then
    match rest with
    | second :: tail =>
      if continues (if lead = 0xF0 then 0x90 else 0x80) (if lead = 0xF4 then 0x8F else 0xBF) second then
        match tail with
        | third :: tail' =>
          if continues 0x80 0xBF third then
            match tail' with
            | fourth :: tail'' =>
              if continues 0x80 0xBF fourth then
                (some (Char.ofNat (((lead.toNat % 8 * 64 + payload second) * 64 + payload third) * 64
                  + payload fourth)), tail'')
              else (none, tail')
            | [] => (none, [])
          else (none, tail)
        | [] => (none, [])
      else (none, rest)
    | [] => (none, [])
  else (none, rest)

theorem front_length (lead : UInt8) (rest : Octets) :
    (front lead rest).2.length ≤ rest.length := by
  unfold front
  repeat' split
  all_goals simp only [List.length_cons, List.length_nil]
  all_goals omega

def decode? : Octets → Option (List Char)
  | [] => some []
  | lead :: rest =>
    match front lead rest, front_length lead rest with
    | (some char, left), _ => (decode? left).map (char :: ·)
    | (none, _), _ => none
termination_by octets => octets.length
decreasing_by simp_all only [List.length_cons]; omega

/-- How many octets stand before the first broken one. -/
def soundLength : Octets → Nat
  | [] => 0
  | lead :: rest =>
    match front lead rest, front_length lead rest with
    | (some _, left), _ => rest.length + 1 - left.length + soundLength left
    | (none, _), _ => 0
termination_by octets => octets.length
decreasing_by simp_all only [List.length_cons]; omega

def replacement : Char := Char.ofNat 0xFFFD

def decodeLossy : Octets → List Char
  | [] => []
  | lead :: rest =>
    match front lead rest, front_length lead rest with
    | (char, left), _ => char.getD replacement :: decodeLossy left
termination_by octets => octets.length
decreasing_by simp_all only [List.length_cons]; omega

end Utf8

def octets (text : String) : Octets := Utf8.encode text.toList

def text? (bytes : Octets) : Option String := (Utf8.decode? bytes).map String.ofList

end LoginGateway
