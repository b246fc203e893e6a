import LoginGateway.Cookie
import LoginGateway.Proofs.Utf8

/-! What escapes stand for. A text that is written with escapes is read as itself,
in forms and in cookies alike, as long as the percent sign is escaped too. -/

namespace LoginGateway.Percent

theorem hexDigit_spec : ∀ digit < 16,
    (hexDigit digit).toNat < 0x80 ∧ (hexDigit digit).toNat ≠ 43 ∧
      hexValue? (UInt8.ofNat (hexDigit digit).toNat) = some digit := by
  decide

theorem halves_lt (octet : UInt8) : octet.toNat / 16 < 16 ∧ octet.toNat % 16 < 16 := by
  have bound := octet.toNat_lt
  omega

def hexOctet (digit : Nat) : UInt8 := UInt8.ofNat (hexDigit digit).toNat

theorem encode_escape (octet : UInt8) (rest : List Char) :
    Utf8.encode (escape octet ++ rest) =
      37 :: hexOctet (octet.toNat / 16) :: hexOctet (octet.toNat % 16) :: Utf8.encode rest := by
  obtain ⟨high, low⟩ := halves_lt octet
  rw [escape, List.cons_append, List.cons_append, List.cons_append, List.nil_append,
    Utf8.encode_cons_ascii (by decide), Utf8.encode_cons_ascii (hexDigit_spec _ high).1,
    Utf8.encode_cons_ascii (hexDigit_spec _ low).1]
  rfl

theorem decode_escape (octet : UInt8) (rest : Octets) :
    decode (37 :: hexOctet (octet.toNat / 16) :: hexOctet (octet.toNat % 16) :: rest) =
      octet :: decode rest := by
  obtain ⟨high, low⟩ := halves_lt octet
  have same : octet.toNat / 16 * 16 + octet.toNat % 16 = octet.toNat := by omega
  simp only [decode, hexOctet, (hexDigit_spec _ high).2.2, (hexDigit_spec _ low).2.2, same,
    UInt8.ofNat_toNat]

theorem decode_cons {octet : UInt8} (other : octet ≠ 37) (rest : Octets) :
    decode (octet :: rest) = octet :: decode rest := by
  rw [decode]
  intro _ _ _ same _
  exact absurd same other

theorem decode_append {front : Octets} (absent : 37 ∉ front) (rest : Octets) :
    decode (front ++ rest) = front ++ decode rest := by
  induction front with
  | nil => rfl
  | cons octet front ih =>
    obtain ⟨different, later⟩ := not_or.mp (mt List.mem_cons.mpr absent)
    rw [List.cons_append, decode_cons (Ne.symm different), ih later, List.cons_append]

theorem decode_of_not_mem {bytes : Octets} (absent : 37 ∉ bytes) : decode bytes = bytes := by
  have whole := decode_append absent []
  rwa [List.append_nil, decode, List.append_nil] at whole

theorem encode_plain {octet : UInt8} (ascii : octet < 0x80) (rest : List Char) :
    Utf8.encode (Char.ofNat octet.toNat :: rest) = octet :: Utf8.encode rest := by
  have small : octet.toNat < 0x80 := ascii
  have same := Utf8.toNat_char small
  rw [Utf8.encode_cons_ascii (by rw [same]; exact small), same, UInt8.ofNat_toNat]

theorem decode_encode {escaped : UInt8 → Bool} (sign : escaped 37 = true) (bytes : Octets) :
    decode (Utf8.encode (encode escaped bytes)) = bytes := by
  induction bytes with
  | nil => rfl
  | cons octet bytes ih =>
    rw [encode, List.flatMap_cons]
    change decode (Utf8.encode (_ ++ encode escaped bytes)) = _
    split
    next => rw [encode_escape, decode_escape, ih]
    next plain =>
      simp only [Bool.or_eq_true, decide_eq_true_eq, not_or] at plain
      have other : octet ≠ 37 := fun same => plain.1 (same ▸ sign)
      rw [List.cons_append, List.nil_append, encode_plain (UInt8.not_le.mp plain.2),
        decode_cons other, ih]

end LoginGateway.Percent

namespace LoginGateway.Form

/-- A plus sign in the place of every blank, as it is read. -/
def blank (octet : UInt8) : UInt8 := if octet = 43 then 32 else octet

theorem blank_hexOctet {digit : Nat} (small : digit < 16) :
    blank (Percent.hexOctet digit) = Percent.hexOctet digit := by
  obtain ⟨ascii, other, _⟩ := Percent.hexDigit_spec digit small
  refine if_neg fun same => other ?_
  have value := congrArg UInt8.toNat same
  rw [Percent.hexOctet, Utf8.toNat_ofNat _ (by omega)] at value
  exact value

theorem isPlain_spec {octet : UInt8} (plain : isPlain octet = true) :
    octet < 0x80 ∧ octet ≠ 37 ∧ octet ≠ 43 := by
  simp only [isPlain, Bool.or_eq_true, Bool.and_eq_true, decide_eq_true_eq, UInt8.le_iff_toNat_le,
    ← UInt8.toNat_inj, UInt8.reduceToNat, UInt8.lt_iff_toNat_lt, ne_eq] at plain ⊢
  omega

theorem decode_encodeOctets (bytes : Octets) :
    Percent.decode ((Utf8.encode (encodeOctets bytes)).map blank) = bytes := by
  induction bytes with
  | nil => rfl
  | cons octet bytes ih =>
    rw [encodeOctets, List.flatMap_cons]
    change Percent.decode ((Utf8.encode (_ ++ encodeOctets bytes)).map blank) = _
    split
    next plain =>
      obtain ⟨ascii, sign, plus⟩ := isPlain_spec plain
      rw [List.cons_append, List.nil_append, Percent.encode_plain ascii, List.map_cons,
        blank, if_neg plus, Percent.decode_cons sign, ih]
    next =>
      split
      next same =>
        have blank : (32 : UInt8) ≠ 37 := by decide
        rw [List.cons_append, List.nil_append, Utf8.encode_cons_ascii (by decide), List.map_cons,
          same]
        exact (Percent.decode_cons blank _).trans (congrArg _ ih)
      next =>
        obtain ⟨high, low⟩ := Percent.halves_lt octet
        rw [Percent.encode_escape, List.map_cons, List.map_cons, List.map_cons,
          blank_hexOctet high, blank_hexOctet low]
        exact (Percent.decode_escape octet _).trans (congrArg _ ih)

theorem decode_octets_encode (text : String) : decode (Utf8.encode (encode text)) = text := by
  have read := decode_encodeOctets (octets text)
  rw [decode, encode]
  change String.ofList (Utf8.decodeLossy (Percent.decode (List.map blank _))) = text
  rw [read, octets, Utf8.decodeLossy_encode, String.ofList_toList]

end LoginGateway.Form

namespace LoginGateway.Cookie

theorem escape_injective {first second : String} (same : escape first = escape second) :
    first = second := by
  have sign : isEscaped 37 = true := by decide
  have read := congrArg (fun text : String => Percent.decode (Utf8.encode text.toList)) same
  simp only [escape, Percent.encodeText, String.toList_ofList, Percent.decode_encode sign] at read
  exact String.toList_inj.mp (Utf8.encode_injective read)

end LoginGateway.Cookie
