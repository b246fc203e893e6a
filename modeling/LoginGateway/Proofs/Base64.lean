import LoginGateway.Proofs.Utf8
import LoginGateway.Text.Base64

/-! What the writer of base64 writes, the strict reader reads back, whatever the
number of octets leaves in the last group. -/

namespace LoginGateway.Base64

def isWritten (char : Char) : Bool :=
  char.isAlphanum || char = '-' || char = '_' || char = '='

def code (digit : Nat) : UInt8 := UInt8.ofNat (symbol digit).toNat

private theorem symbol_facts : ∀ digit < 64, (symbol digit).toNat < 0x80 ∧
    isWritten (symbol digit) = true ∧ digit? (code digit) = some digit ∧ code digit ≠ pad := by
  decide

theorem isWritten_symbol {digit : Nat} (small : digit < 64) : isWritten (symbol digit) = true :=
  (symbol_facts digit small).2.1

theorem digit?_code {digit : Nat} (small : digit < 64) : digit? (code digit) = some digit :=
  (symbol_facts digit small).2.2.1

theorem digitAt_code {digit : Nat} (small : digit < 64) (place : Nat) :
    digitAt (code digit) place = .ok digit := by
  rw [digitAt, digit?_code small]

theorem code_ne_pad {digit : Nat} (small : digit < 64) : code digit ≠ pad :=
  (symbol_facts digit small).2.2.2

theorem octets_symbol {digit : Nat} (small : digit < 64) (text : List Char) :
    Utf8.encode (symbol digit :: text) = code digit :: Utf8.encode text :=
  Utf8.encode_cons_ascii (symbol_facts digit small).1 text

theorem octets_pad (text : List Char) : Utf8.encode ('=' :: text) = pad :: Utf8.encode text :=
  Utf8.encode_cons_ascii (by decide) text

theorem join_digits (a b c : UInt8) :
    join (a.toNat / 4) (a.toNat % 4 * 16 + b.toNat / 16) (b.toNat % 16 * 4 + c.toNat / 64)
      (c.toNat % 64) = [a, b, c] := by
  have boundB : b.toNat < 256 := b.toNat_lt
  have boundC : c.toNat < 256 := c.toNat_lt
  have first : a.toNat / 4 * 4 + (a.toNat % 4 * 16 + b.toNat / 16) / 16 = a.toNat := by omega
  have second : (a.toNat % 4 * 16 + b.toNat / 16) % 16 * 16
      + (b.toNat % 16 * 4 + c.toNat / 64) / 4 = b.toNat := by omega
  have third : (b.toNat % 16 * 4 + c.toNat / 64) % 4 * 64 + c.toNat % 64 = c.toNat := by omega
  simp only [join, first, second, third, UInt8.ofNat_toNat]

theorem isWritten_of_mem_encode (bytes : Octets) :
    ∀ char ∈ encode bytes, isWritten char = true := by
  fun_induction encode bytes with
  | case1 a b c rest ih =>
    have boundA : a.toNat < 256 := a.toNat_lt
    have boundB : b.toNat < 256 := b.toNat_lt
    have boundC : c.toNat < 256 := c.toNat_lt
    simp only [List.forall_mem_cons]
    exact ⟨isWritten_symbol (by omega), isWritten_symbol (by omega), isWritten_symbol (by omega),
      isWritten_symbol (by omega), ih⟩
  | case2 a b =>
    have boundA : a.toNat < 256 := a.toNat_lt
    have boundB : b.toNat < 256 := b.toNat_lt
    simp only [List.forall_mem_cons]
    exact ⟨isWritten_symbol (by omega), isWritten_symbol (by omega), isWritten_symbol (by omega),
      rfl, by simp⟩
  | case3 a =>
    have boundA : a.toNat < 256 := a.toNat_lt
    simp only [List.forall_mem_cons]
    exact ⟨isWritten_symbol (by omega), isWritten_symbol (by omega), rfl, rfl, by simp⟩
  | case4 => simp

theorem length_encode (bytes : Octets) : (encode bytes).length = (bytes.length + 2) / 3 * 4 := by
  fun_induction encode bytes with
  | case1 a b c rest ih =>
    simp only [List.length_cons, ih]
    omega
  | case2 a b => simp
  | case3 a => simp
  | case4 => simp

theorem length_octets_encode (bytes : Octets) :
    (Utf8.encode (encode bytes)).length = (encode bytes).length := by
  fun_induction encode bytes with
  | case1 a b c rest ih =>
    have boundA : a.toNat < 256 := a.toNat_lt
    have boundB : b.toNat < 256 := b.toNat_lt
    have boundC : c.toNat < 256 := c.toNat_lt
    rw [octets_symbol (by omega), octets_symbol (by omega), octets_symbol (by omega),
      octets_symbol (by omega)]
    simp only [List.length_cons, ih]
  | case2 a b =>
    have boundA : a.toNat < 256 := a.toNat_lt
    have boundB : b.toNat < 256 := b.toNat_lt
    rw [octets_symbol (by omega), octets_symbol (by omega), octets_symbol (by omega), octets_pad]
    rfl
  | case3 a =>
    have boundA : a.toNat < 256 := a.toNat_lt
    rw [octets_symbol (by omega), octets_symbol (by omega), octets_pad, octets_pad]
    rfl
  | case4 => rfl

theorem decodeLast_two (place : Nat) (a b : UInt8) :
    decodeLast place (Utf8.encode (encode [a, b])) = .ok [a, b] := by
  have boundA : a.toNat < 256 := a.toNat_lt
  have boundB : b.toNat < 256 := b.toNat_lt
  have first : a.toNat / 4 * 4 + (a.toNat % 4 * 16 + b.toNat / 16) / 16 = a.toNat := by omega
  have second : (a.toNat % 4 * 16 + b.toNat / 16) % 16 * 16 + b.toNat % 16 * 4 / 4 = b.toNat := by
    omega
  rw [encode, octets_symbol (by omega), octets_symbol (by omega), octets_symbol (by omega),
    octets_pad, Utf8.encode_nil, decodeLast, digitAt_code (by omega), digitAt_code (by omega),
    digitAt_code (by omega)]
  simp only [code_ne_pad (show b.toNat % 16 * 4 < 64 by omega), if_false, if_true, bind,
    Except.bind]
  rw [if_pos (by omega), first, second, UInt8.ofNat_toNat, UInt8.ofNat_toNat]

theorem decodeLast_one (place : Nat) (a : UInt8) :
    decodeLast place (Utf8.encode (encode [a])) = .ok [a] := by
  have boundA : a.toNat < 256 := a.toNat_lt
  have first : a.toNat / 4 * 4 + a.toNat % 4 * 16 / 16 = a.toNat := by omega
  rw [encode, octets_symbol (by omega), octets_symbol (by omega), octets_pad, octets_pad,
    Utf8.encode_nil, decodeLast, digitAt_code (by omega), digitAt_code (by omega)]
  simp only [if_true, bind, Except.bind]
  rw [if_pos (by omega), first, UInt8.ofNat_toNat]

theorem decodeLast_three (place : Nat) (a b c : UInt8) :
    decodeLast place (Utf8.encode (encode [a, b, c])) = .ok [a, b, c] := by
  have boundA : a.toNat < 256 := a.toNat_lt
  have boundB : b.toNat < 256 := b.toNat_lt
  have boundC : c.toNat < 256 := c.toNat_lt
  rw [encode, encode, octets_symbol (by omega), octets_symbol (by omega), octets_symbol (by omega),
    octets_symbol (by omega), Utf8.encode_nil, decodeLast, digitAt_code (by omega),
    digitAt_code (by omega), digitAt_code (by omega), digitAt_code (by omega)]
  simp only [code_ne_pad (show b.toNat % 16 * 4 + c.toNat / 64 < 64 by omega),
    code_ne_pad (show c.toNat % 64 < 64 by omega), if_false, bind, Except.bind]
  rw [join_digits]

theorem decodeFrom_group {w x y z : Nat} (w64 : w < 64) (x64 : x < 64) (y64 : y < 64) (z64 : z < 64)
    (place : Nat) {octets rest : Octets} (more : octets ≠ [])
    (read : decodeFrom (place + 4) octets = .ok rest) :
    decodeFrom place (code w :: code x :: code y :: code z :: octets) = .ok (join w x y z ++ rest) := by
  obtain ⟨next, others, rfl⟩ := List.exists_cons_of_ne_nil more
  rw [decodeFrom, digitAt_code w64, digitAt_code x64, digitAt_code y64, digitAt_code z64, read]
  rfl

theorem octets_encode_ne_nil {bytes : Octets} (some : bytes ≠ []) :
    Utf8.encode (encode bytes) ≠ [] := by
  obtain ⟨first, rest, rfl⟩ := List.exists_cons_of_ne_nil some
  rw [← List.length_pos_iff, length_octets_encode, length_encode, List.length_cons]
  omega

theorem decodeFrom_last (place : Nat) {bytes : Octets} (short : bytes.length ≤ 3) :
    decodeFrom place (Utf8.encode (encode bytes)) = decodeLast place (Utf8.encode (encode bytes)) := by
  have bound : (Utf8.encode (encode bytes)).length ≤ 4 := by
    rw [length_octets_encode, length_encode]
    omega
  unfold decodeFrom
  split
  next spelled =>
    rw [spelled] at bound
    simp only [List.length_cons] at bound
    omega
  next => rfl

theorem decodeFrom_encode (place : Nat) (bytes : Octets) :
    decodeFrom place (Utf8.encode (encode bytes)) = .ok bytes := by
  fun_induction encode bytes generalizing place with
  | case1 a b c rest ih =>
    have boundA : a.toNat < 256 := a.toNat_lt
    have boundB : b.toNat < 256 := b.toNat_lt
    have boundC : c.toNat < 256 := c.toNat_lt
    -- A full group at the end is left to the reader of the last group.
    by_cases last : rest = []
    · subst last
      exact (decodeFrom_last place (by simp)).trans (decodeLast_three place a b c)
    · rw [octets_symbol (by omega), octets_symbol (by omega), octets_symbol (by omega),
        octets_symbol (by omega), decodeFrom_group (by omega) (by omega) (by omega) (by omega) place
          (octets_encode_ne_nil last) (ih (place + 4)), join_digits]
      rfl
  | case2 a b => exact (decodeFrom_last place (by simp)).trans (decodeLast_two place a b)
  | case3 a => exact (decodeFrom_last place (by simp)).trans (decodeLast_one place a)
  | case4 => rfl

theorem decode_encode (bytes : Octets) : decode (Utf8.encode (encode bytes)) = .ok bytes := by
  have whole : (Utf8.encode (encode bytes)).length % 4 ≠ 1 := by
    rw [length_octets_encode, length_encode]
    omega
  unfold decode
  split
  next last ends =>
    rw [if_neg (by simp [whole])]
    exact decodeFrom_encode 0 bytes
  next none =>
    have empty := List.getLast?_eq_none_iff.mp none
    have read := decodeFrom_encode 0 bytes
    rw [empty] at read
    exact read

end LoginGateway.Base64
