import LoginGateway.Proofs.Base64

/-! The reader of base64 takes nothing but what the writer writes. Letters of another
alphabet, a group that is not filled up, padding in the wrong place and bits that
belong to no octet are all refused, so octets have one spelling. -/

namespace LoginGateway

theorem bind_eq_ok {α β ε : Type} {first : Except ε α} {next : α → Except ε β} {result : β} :
    first >>= next = .ok result ↔ ∃ value, first = .ok value ∧ next value = .ok result := by
  cases first with
  | error fault => exact ⟨nofun, nofun⟩
  | ok value => exact ⟨fun made => ⟨value, rfl, made⟩, fun ⟨_, rfl, made⟩ => made⟩

namespace Base64

theorem digit?_eq_some_iff {octet : UInt8} {digit : Nat} : digit? octet = some digit ↔
    (65 ≤ octet.toNat ∧ octet.toNat ≤ 90 ∧ octet.toNat = digit + 65) ∨
    (97 ≤ octet.toNat ∧ octet.toNat ≤ 122 ∧ octet.toNat = digit + 71) ∨
    (48 ≤ octet.toNat ∧ octet.toNat ≤ 57 ∧ octet.toNat + 4 = digit) ∨
    (octet.toNat = 45 ∧ digit = 62) ∨ (octet.toNat = 95 ∧ digit = 63) := by
  simp only [digit?, Bool.and_eq_true, decide_eq_true_eq, UInt8.le_iff_toNat_le,
    ← UInt8.toNat_inj, UInt8.reduceToNat]
  repeat' split
  all_goals simp only [Option.some.injEq, reduceCtorEq, false_iff]
  all_goals omega

theorem digit?_injective {first second : UInt8} {digit : Nat}
    (one : digit? first = some digit) (other : digit? second = some digit) : first = second := by
  rw [digit?_eq_some_iff] at one other
  rw [← UInt8.toNat_inj]
  omega

theorem code_of_digitAt {octet : UInt8} {place digit : Nat}
    (read : digitAt octet place = .ok digit) : digit < 64 ∧ octet = code digit := by
  unfold digitAt at read
  split at read
  next found =>
    cases read
    have small : digit < 64 := by
      rw [digit?_eq_some_iff] at found
      omega
    exact ⟨small, digit?_injective found (digit?_code small)⟩
  next => cases read

theorem octets_join {w x y z : Nat} (w64 : w < 64) (x64 : x < 64) (y64 : y < 64) (z64 : z < 64)
    (bytes : Octets) : Utf8.encode (encode (join w x y z ++ bytes)) =
      code w :: code x :: code y :: code z :: Utf8.encode (encode bytes) := by
  have first : (w * 4 + x / 16) / 4 = w := by omega
  have second : (w * 4 + x / 16) % 4 * 16 + (x % 16 * 16 + y / 4) / 16 = x := by omega
  have third : (x % 16 * 16 + y / 4) % 16 * 4 + (y % 4 * 64 + z) / 64 = y := by omega
  have fourth : (y % 4 * 64 + z) % 64 = z := by omega
  rw [join, List.cons_append, List.cons_append, List.cons_append, List.nil_append, encode,
    Utf8.toNat_ofNat _ (by omega), Utf8.toNat_ofNat _ (by omega), Utf8.toNat_ofNat _ (by omega),
    first, second, third, fourth, octets_symbol w64, octets_symbol x64, octets_symbol y64,
    octets_symbol z64]

theorem octets_two {w x y : Nat} (w64 : w < 64) (x64 : x < 64) (y64 : y < 64) (clear : y % 4 = 0) :
    Utf8.encode (encode [UInt8.ofNat (w * 4 + x / 16), UInt8.ofNat (x % 16 * 16 + y / 4)]) =
      [code w, code x, code y, pad] := by
  have first : (w * 4 + x / 16) / 4 = w := by omega
  have second : (w * 4 + x / 16) % 4 * 16 + (x % 16 * 16 + y / 4) / 16 = x := by omega
  have third : (x % 16 * 16 + y / 4) % 16 * 4 = y := by omega
  rw [encode, Utf8.toNat_ofNat _ (by omega), Utf8.toNat_ofNat _ (by omega), first, second, third,
    octets_symbol w64, octets_symbol x64, octets_symbol y64, octets_pad, Utf8.encode_nil]

theorem octets_one {w x : Nat} (w64 : w < 64) (x64 : x < 64) (clear : x % 16 = 0) :
    Utf8.encode (encode [UInt8.ofNat (w * 4 + x / 16)]) = [code w, code x, pad, pad] := by
  have first : (w * 4 + x / 16) / 4 = w := by omega
  have second : (w * 4 + x / 16) % 4 * 16 = x := by omega
  rw [encode, Utf8.toNat_ofNat _ (by omega), first, second, octets_symbol w64, octets_symbol x64,
    octets_pad, octets_pad, Utf8.encode_nil]

/-- A last group is read only if it is full or filled up as it should be, and then
only without bits that belong to no octet. -/
theorem octets_of_decodeLast {place : Nat} {last bytes : Octets} (short : last.length ≤ 4)
    (read : decodeLast place last = .ok bytes) : last = Utf8.encode (encode bytes) := by
  unfold decodeLast at read
  split at read
  next =>
    cases read
    rfl
  next => simp only [bind_eq_ok, reduceCtorEq, and_false, exists_false] at read
  next => simp only [bind_eq_ok, reduceCtorEq, and_false, exists_false] at read
  next =>
    simp only [bind_eq_ok] at read
    obtain ⟨_, _, _, _, read⟩ := read
    split at read
    next => cases read
    next => simp only [bind_eq_ok, reduceCtorEq, and_false, exists_false] at read
  next a b c d more =>
    simp only [List.length_cons] at short
    cases List.length_eq_zero_iff.mp (by omega : more.length = 0)
    simp only [bind_eq_ok] at read
    obtain ⟨first, firstRead, second, secondRead, read⟩ := read
    obtain ⟨w64, rfl⟩ := code_of_digitAt firstRead
    obtain ⟨x64, rfl⟩ := code_of_digitAt secondRead
    split at read
    next padded =>
      split at read
      next padded' =>
        split at read
        next clear =>
          cases read
          rw [octets_one w64 x64 clear, padded, padded']
        next => cases read
      next => cases read
    next =>
      simp only [bind_eq_ok] at read
      obtain ⟨third, thirdRead, read⟩ := read
      obtain ⟨y64, rfl⟩ := code_of_digitAt thirdRead
      split at read
      next padded =>
        split at read
        next clear =>
          cases read
          rw [octets_two w64 x64 y64 clear, padded]
        next => cases read
      next =>
        obtain ⟨fourth, fourthRead, made⟩ := bind_eq_ok.mp read
        obtain ⟨z64, rfl⟩ := code_of_digitAt fourthRead
        cases made
        have whole := octets_join w64 x64 y64 z64 []
        rw [List.append_nil] at whole
        exact whole.symm

theorem octets_of_decodeFrom {place : Nat} {octets bytes : Octets}
    (read : decodeFrom place octets = .ok bytes) : octets = Utf8.encode (encode bytes) := by
  fun_induction decodeFrom place octets generalizing bytes with
  | case1 place a b c d e rest ih =>
    simp only [bind_eq_ok] at read
    obtain ⟨first, firstRead, second, secondRead, third, thirdRead, fourth, fourthRead, left,
      leftRead, made⟩ := read
    obtain ⟨w64, rfl⟩ := code_of_digitAt firstRead
    obtain ⟨x64, rfl⟩ := code_of_digitAt secondRead
    obtain ⟨y64, rfl⟩ := code_of_digitAt thirdRead
    obtain ⟨z64, rfl⟩ := code_of_digitAt fourthRead
    cases made
    rw [octets_join w64 x64 y64 z64, ih leftRead]
  | case2 place last short =>
    refine octets_of_decodeLast (Nat.le_of_not_lt fun long => ?_) read
    obtain _ | ⟨a, _ | ⟨b, _ | ⟨c, _ | ⟨d, _ | ⟨e, rest⟩⟩⟩⟩⟩ := last
    all_goals first | exact short _ _ _ _ _ _ rfl | simp at long

/-- Octets are read as base64 exactly if they are what is written for the result. -/
theorem decode_eq_ok_iff {octets bytes : Octets} :
    decode octets = .ok bytes ↔ octets = Utf8.encode (encode bytes) := by
  constructor
  · intro read
    unfold decode at read
    split at read
    next =>
      split at read
      next => cases read
      next => exact octets_of_decodeFrom read
    next none =>
      cases read
      rw [List.getLast?_eq_none_iff.mp none]
      rfl
  · rintro rfl
    exact decode_encode bytes

end Base64

end LoginGateway
