import LoginGateway.Proofs.Utf8

/-! The strict reader of UTF-8 takes nothing but what is written for a text: no character has
a second spelling, and no octets are left out. -/

namespace LoginGateway

namespace Utf8

theorem utf8EncodeChar_ofNat {code : Nat} (valid : code.isValidChar) :
    String.utf8EncodeChar (Char.ofNat code) =
      if code ≤ 0x7F then [UInt8.ofNat code]
      else if code ≤ 0x7FF then [UInt8.ofNat (code / 64 % 32 + 192), UInt8.ofNat (code % 64 + 128)]
      else if code ≤ 0xFFFF then [UInt8.ofNat (code / 4096 % 16 + 224),
        UInt8.ofNat (code / 64 % 64 + 128), UInt8.ofNat (code % 64 + 128)]
      else [UInt8.ofNat (code / 262144 % 8 + 240), UInt8.ofNat (code / 4096 % 64 + 128),
        UInt8.ofNat (code / 64 % 64 + 128), UInt8.ofNat (code % 64 + 128)] := by
  have same : (Char.ofNat code).toNat = code := by
    rw [Char.ofNat, dif_pos valid]
    rfl
  rw [String.utf8EncodeChar]
  simp only [Char.toNat_val, same]

theorem ofNat_eq (octet : UInt8) {value : Nat} (same : value = octet.toNat) :
    UInt8.ofNat value = octet := by
  rw [same, UInt8.ofNat_toNat]

/-- A character is read only where what is asked for is there. -/
theorem taken_of_ite {asked : Prop} [Decidable asked] {taken : Option Char × Octets} {char : Char}
    {missed left : Octets} (found : (if asked then taken else (none, missed)) = (some char, left)) :
    asked ∧ taken = (some char, left) := by
  split at found
  next here => exact ⟨here, found⟩
  next => cases found

theorem encode_of_front {lead : UInt8} {rest left : Octets} {char : Char}
    (found : front lead rest = (some char, left)) : lead :: rest = String.utf8EncodeChar char ++ left := by
  have bound := lead.toNat_lt
  rw [front.eq_def] at found
  simp only [UInt8.lt_iff_toNat_lt, UInt8.reduceToNat, continues_iff, ← UInt8.toNat_inj,
    apply_ite UInt8.toNat] at found
  by_cases one : lead.toNat < 0x80
  · rw [if_pos one] at found
    cases found
    rw [utf8EncodeChar_ofNat (.inl (by omega)), if_pos (by omega), ofNat_eq lead rfl]
    rfl
  rw [if_neg one] at found
  by_cases broken : lead.toNat < 0xC2
  · rw [if_pos broken] at found
    cases found
  rw [if_neg broken] at found
  by_cases two : lead.toNat < 0xE0
  · rw [if_pos two] at found
    obtain _ | ⟨second, tail⟩ := rest
    · cases found
    obtain ⟨next, taken⟩ := taken_of_ite found
    cases taken
    simp only [payload]
    rw [utf8EncodeChar_ofNat (.inl (by omega)), if_neg (by omega), if_pos (by omega),
      ofNat_eq lead (by omega), ofNat_eq second (by omega)]
    rfl
  rw [if_neg two] at found
  by_cases three : lead.toNat < 0xF0
  · rw [if_pos three] at found
    obtain _ | ⟨second, tail⟩ := rest
    · cases found
    obtain ⟨next, found⟩ := taken_of_ite found
    obtain _ | ⟨third, tail⟩ := tail
    · cases found
    obtain ⟨last, taken⟩ := taken_of_ite found
    cases taken
    simp only [payload]
    have range : 0x80 ≤ second.toNat ∧ second.toNat ≤ 0xBF ∧ (lead.toNat = 0xE0 → 0xA0 ≤ second.toNat) ∧
        (lead.toNat = 0xED → second.toNat ≤ 0x9F) := by
      split at next <;> split at next <;> omega
    clear next
    rw [utf8EncodeChar_ofNat (by rw [Nat.isValidChar]; omega), if_neg (by omega), if_neg (by omega),
      if_pos (by omega), ofNat_eq lead (by omega), ofNat_eq second (by omega), ofNat_eq third (by omega)]
    rfl
  rw [if_neg three] at found
  by_cases four : lead.toNat < 0xF5
  · rw [if_pos four] at found
    obtain _ | ⟨second, tail⟩ := rest
    · cases found
    obtain ⟨next, found⟩ := taken_of_ite found
    obtain _ | ⟨third, tail⟩ := tail
    · cases found
    obtain ⟨later, found⟩ := taken_of_ite found
    obtain _ | ⟨fourth, tail⟩ := tail
    · cases found
    obtain ⟨last, taken⟩ := taken_of_ite found
    cases taken
    simp only [payload]
    have range : 0x80 ≤ second.toNat ∧ second.toNat ≤ 0xBF ∧ (lead.toNat = 0xF0 → 0x90 ≤ second.toNat) ∧
        (lead.toNat = 0xF4 → second.toNat ≤ 0x8F) := by
      split at next <;> split at next <;> omega
    clear next
    rw [utf8EncodeChar_ofNat (by rw [Nat.isValidChar]; omega), if_neg (by omega), if_neg (by omega),
      if_neg (by omega), ofNat_eq lead (by omega), ofNat_eq second (by omega), ofNat_eq third (by omega),
      ofNat_eq fourth (by omega)]
    rfl
  · rw [if_neg four] at found
    cases found

theorem encode_of_decode? {bytes : Octets} {text : List Char} (read : decode? bytes = some text) :
    encode text = bytes := by
  induction bytes using decode?.induct generalizing text with
  | case1 =>
    rw [decode?] at read
    cases read
    rfl
  | case2 lead rest char left bound found ih =>
    rw [decode?_cons found] at read
    obtain ⟨others, later, rfl⟩ := Option.map_eq_some_iff.mp read
    rw [encode_cons, ih later, encode_of_front found]
  | case3 lead rest left bound found =>
    rw [decode?] at read
    split at read
    next same _ => cases found.symm.trans same
    next => cases read

end Utf8

theorem text?_eq_some_iff {bytes : Octets} {text : String} :
    text? bytes = some text ↔ bytes = octets text := by
  constructor
  · intro read
    obtain ⟨chars, decoded, rfl⟩ := Option.map_eq_some_iff.mp read
    rw [octets, String.toList_ofList, Utf8.encode_of_decode? decoded]
  · rintro rfl
    exact text?_octets text

end LoginGateway
