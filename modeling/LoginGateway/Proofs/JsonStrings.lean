import LoginGateway.Json.Value
import LoginGateway.Proofs.Utf8

/-! A string of any characters is read back from the way it is written. Inside a
string every octet belongs to an escape or stands for itself, so the reader's two
ways of going on cover all that the writer does. -/

namespace LoginGateway.Json

def Takes {source : Octets} {α : Type} (result : Except Fault (Took source α)) (value : α)
    (rest : Octets) : Prop :=
  ∃ less, result = .ok ⟨value, rest, less⟩

theorem Takes.ok {source : Octets} {α : Type} (taken : Took source α) :
    Takes (.ok taken) taken.value taken.rest := ⟨taken.shorter, rfl⟩

/-- An octet that stands for itself inside a string. -/
def isLiteral (octet : UInt8) : Prop := octet ≠ 34 ∧ octet ≠ 92 ∧ ¬ octet < 0x20

theorem stringOctets_quote (tail : Octets) : Takes (stringOctets (34 :: tail)) [] tail := by
  rw [stringOctets, if_pos rfl]
  exact Takes.ok _

theorem stringOctets_literal {octet : UInt8} {tail back rest : Octets} (literal : isLiteral octet)
    (read : Takes (stringOctets tail) back rest) :
    Takes (stringOctets (octet :: tail)) (octet :: back) rest := by
  obtain ⟨less, read⟩ := read
  rw [stringOctets, if_neg literal.1, if_neg literal.2.1, if_neg literal.2.2, read]
  exact Takes.ok _

theorem stringOctets_literals {octets tail back rest : Octets}
    (literal : ∀ octet ∈ octets, isLiteral octet) (read : Takes (stringOctets tail) back rest) :
    Takes (stringOctets (octets ++ tail)) (octets ++ back) rest := by
  induction octets with
  | nil => exact read
  | cons octet octets ih =>
    obtain ⟨first, others⟩ := List.forall_mem_cons.mp literal
    exact stringOctets_literal first (ih others)

theorem stringOctets_escape {tail between front back rest : Octets}
    (escape : Takes (escaped tail) front between) (read : Takes (stringOctets between) back rest) :
    Takes (stringOctets (92 :: tail)) (front ++ back) rest := by
  obtain ⟨_, escape⟩ := escape
  obtain ⟨_, read⟩ := read
  rw [stringOctets, if_neg (by decide), if_pos rfl, escape]
  simp only [bind, Except.bind]
  rw [read]
  exact Takes.ok _

theorem escaped_short {letter octet : UInt8} (found : shortEscape? letter = some octet)
    (short : letter ≠ 117) (tail : Octets) : Takes (escaped (letter :: tail)) [octet] tail := by
  rw [escaped, if_neg short, found]
  exact Takes.ok _

private theorem hexValue?_digitChar : ∀ digit < 16,
    hexValue? (UInt8.ofNat (Nat.digitChar digit).toNat) = some digit ∧
      (Nat.digitChar digit).toNat < 0x80 := by
  decide

private theorem hexValue?_high : ∀ digit < 2,
    hexValue? (UInt8.ofNat (Char.ofNat (48 + digit)).toNat) = some digit ∧
      (Char.ofNat (48 + digit)).toNat < 0x80 := by
  decide

theorem escaped_control {char : Char} (control : char.toNat < 0x20) (tail : Octets) :
    Takes (escaped (Utf8.encode ['u', '0', '0', Char.ofNat (48 + char.toNat / 16),
      Nat.digitChar (char.toNat % 16)] ++ tail)) (Utf8.encode [char]) tail := by
  obtain ⟨high, highAscii⟩ := hexValue?_high (char.toNat / 16) (by omega)
  obtain ⟨low, lowAscii⟩ := hexValue?_digitChar (char.toNat % 16) (by omega)
  have zero : hexValue? (UInt8.ofNat '0'.toNat) = some 0 := by decide
  have unit : ((0 * 16 + 0) * 16 + char.toNat / 16) * 16 + char.toNat % 16 = char.toNat := by omega
  rw [Utf8.encode_cons_ascii (by decide), Utf8.encode_cons_ascii (by decide),
    Utf8.encode_cons_ascii (by decide), Utf8.encode_cons_ascii highAscii,
    Utf8.encode_cons_ascii lowAscii, Utf8.encode_nil]
  simp only [List.cons_append, List.nil_append]
  rw [escaped, if_pos (by decide), hexUnit, zero, high, low]
  dsimp only [bind, Except.bind]
  rw [unit, if_neg (by simp; omega), if_pos (by simp; omega), Char.ofNat_toNat]
  exact Takes.ok _

/-- A character that is written as it is has no octet that the reader acts on. -/
theorem isLiteral_of_mem {char : Char} (quote : char ≠ '\x22') (slash : char ≠ '\\')
    (visible : ¬ char.toNat < 0x20) : ∀ octet ∈ Utf8.encode [char], isLiteral octet := by
  intro octet inside
  have away : ∀ other : Char, char ≠ other → char.toNat ≠ other.toNat :=
    fun other different same => different (Char.toNat_inj.mp same)
  have notQuote := away _ quote
  have notSlash := away _ slash
  have value : octet.toNat ≠ 34 ∧ octet.toNat ≠ 92 ∧ ¬ octet.toNat < 0x20 := by
    by_cases ascii : char.toNat < 0x80
    · rw [Utf8.encode_cons_ascii ascii, Utf8.encode_nil, List.mem_singleton] at inside
      rw [inside, Utf8.toNat_ofNat _ (by omega)]
      exact ⟨notQuote, notSlash, visible⟩
    · have high := Utf8.high_of_mem_encode (Nat.le_of_not_lt ascii) octet inside
      omega
  exact ⟨fun same => value.1 (by rw [same]; rfl), fun same => value.2.1 (by rw [same]; rfl),
    fun less => value.2.2 (UInt8.lt_iff_toNat_lt.mp less)⟩

/-- What the writer does with a character: it writes a letter that stands for it,
its number if it is any other control, and otherwise the character itself. -/
theorem escapeChar_cases (char : Char) :
    (∃ letter octet, escapeChar char = ['\\', letter] ∧ letter.toNat < 0x80 ∧
      shortEscape? (UInt8.ofNat letter.toNat) = some octet ∧ UInt8.ofNat letter.toNat ≠ 117 ∧
      Utf8.encode [char] = [octet]) ∨
    (char.toNat < 0x20 ∧ escapeChar char = '\\' :: ['u', '0', '0',
      Char.ofNat (48 + char.toNat / 16), Nat.digitChar (char.toNat % 16)]) ∨
    (escapeChar char = [char] ∧ ∀ octet ∈ Utf8.encode [char], isLiteral octet) := by
  unfold escapeChar
  split
  next special =>
    rcases Bool.or_eq_true _ _ |>.mp special with same | same
    all_goals
      cases of_decide_eq_true same
      exact .inl ⟨_, _, rfl, by decide, rfl, by decide, rfl⟩
  next special =>
    split
    next same => exact .inl ⟨'b', 8, rfl, by decide, rfl, by decide, by rw [same]; rfl⟩
    split
    next same => exact .inl ⟨'f', 12, rfl, by decide, rfl, by decide, by rw [same]; rfl⟩
    split
    next same => exact .inl ⟨'n', 10, rfl, by decide, rfl, by decide, by rw [same]; rfl⟩
    split
    next same => exact .inl ⟨'r', 13, rfl, by decide, rfl, by decide, by rw [same]; rfl⟩
    split
    next same => exact .inl ⟨'t', 9, rfl, by decide, rfl, by decide, by rw [same]; rfl⟩
    split
    next control => exact .inr (.inl ⟨control, rfl⟩)
    next visible =>
      simp only [Bool.or_eq_true, decide_eq_true_eq, not_or] at special
      exact .inr (.inr ⟨rfl, isLiteral_of_mem special.1 special.2 visible⟩)

theorem stringOctets_escapeChar (char : Char) {tail back rest : Octets}
    (read : Takes (stringOctets tail) back rest) :
    Takes (stringOctets (Utf8.encode (escapeChar char) ++ tail)) (Utf8.encode [char] ++ back) rest := by
  rcases escapeChar_cases char with
    ⟨letter, octet, written, ascii, found, different, same⟩ | ⟨control, written⟩ | ⟨written, literal⟩
  · rw [written, same, Utf8.encode_cons_ascii (by decide), Utf8.encode_cons_ascii ascii]
    exact stringOctets_escape (escaped_short found different tail) read
  · rw [written, Utf8.encode_cons_ascii (by decide)]
    exact stringOctets_escape (escaped_control control tail) read
  · rw [written]
    exact stringOctets_literals literal read

theorem stringOctets_flatMap (text : List Char) (rest : Octets) :
    Takes (stringOctets (Utf8.encode (text.flatMap escapeChar) ++ 34 :: rest))
      (Utf8.encode text) rest := by
  induction text with
  | nil => exact stringOctets_quote rest
  | cons char text ih =>
    have read := stringOctets_escapeChar char ih
    rw [← List.append_assoc, ← Utf8.encode_append, ← List.flatMap_cons, ← Utf8.encode_append,
      List.singleton_append] at read
    exact read

theorem octets_quote (text : String) (rest : Octets) :
    Utf8.encode (quote text) ++ rest =
      34 :: (Utf8.encode (text.toList.flatMap escapeChar) ++ 34 :: rest) := by
  rw [quote, List.cons_append, Utf8.encode_cons_ascii (by decide), Utf8.encode_append,
    Utf8.encode_cons_ascii (by decide), Utf8.encode_nil, List.cons_append, List.append_assoc]
  rfl

theorem string_quote (text : String) (rest : Octets) :
    Takes (string (Utf8.encode (text.toList.flatMap escapeChar) ++ 34 :: rest)) text rest := by
  obtain ⟨less, read⟩ := stringOctets_flatMap text.toList rest
  have same : text? (Utf8.encode text.toList) = some text := text?_octets text
  rw [string, read]
  simp only [bind, Except.bind, same]
  exact Takes.ok _

end LoginGateway.Json
