import LoginGateway.Text.Utf8

/-! Every text is read back from its octets, by the strict reader and by the one
that marks broken pieces. The bounds on the octet after a lead octet never cut
off what the writer wrote. -/

namespace LoginGateway.Utf8

theorem continues_iff {low high octet : UInt8} :
    continues low high octet = true ↔ low.toNat ≤ octet.toNat ∧ octet.toNat ≤ high.toNat := by
  simp only [continues, Bool.and_eq_true, decide_eq_true_eq, UInt8.le_iff_toNat_le]

theorem toNat_ofNat (value : Nat) (small : value < 256) : (UInt8.ofNat value).toNat = value :=
  UInt8.toNat_ofNat_of_lt' small

theorem front_one {lead : UInt8} {rest : Octets} (low : lead.toNat < 0x80) :
    front lead rest = (some (Char.ofNat lead.toNat), rest) := by
  rw [front.eq_def, if_pos (UInt8.lt_iff_toNat_lt.mpr low)]

theorem front_two {lead second : UInt8} {rest : Octets}
    (low : 0xC2 ≤ lead.toNat) (high : lead.toNat < 0xE0)
    (next : 0x80 ≤ second.toNat ∧ second.toNat ≤ 0xBF) :
    front lead (second :: rest) =
      (some (Char.ofNat (lead.toNat % 32 * 64 + payload second)), rest) := by
  rw [front.eq_def]
  simp only [UInt8.lt_iff_toNat_lt, UInt8.reduceToNat, continues_iff]
  rw [if_neg (by omega), if_neg (by omega), if_pos high, if_pos next]

theorem front_three {lead second third : UInt8} {rest : Octets}
    (low : 0xE0 ≤ lead.toNat) (high : lead.toNat < 0xF0)
    (next : 0x80 ≤ second.toNat ∧ second.toNat ≤ 0xBF)
    (short : lead.toNat = 0xE0 → 0xA0 ≤ second.toNat)
    (surrogate : lead.toNat = 0xED → second.toNat ≤ 0x9F)
    (last : 0x80 ≤ third.toNat ∧ third.toNat ≤ 0xBF) :
    front lead (second :: third :: rest) =
      (some (Char.ofNat ((lead.toNat % 16 * 64 + payload second) * 64 + payload third)), rest) := by
  rw [front.eq_def]
  simp only [UInt8.lt_iff_toNat_lt, UInt8.reduceToNat, continues_iff, ← UInt8.toNat_inj,
    apply_ite UInt8.toNat]
  rw [if_neg (by omega), if_neg (by omega), if_neg (by omega), if_pos high,
    if_pos (by split <;> split <;> omega), if_pos last]

theorem front_four {lead second third fourth : UInt8} {rest : Octets}
    (low : 0xF0 ≤ lead.toNat) (high : lead.toNat < 0xF5)
    (next : 0x80 ≤ second.toNat ∧ second.toNat ≤ 0xBF)
    (short : lead.toNat = 0xF0 → 0x90 ≤ second.toNat)
    (large : lead.toNat = 0xF4 → second.toNat ≤ 0x8F)
    (later : 0x80 ≤ third.toNat ∧ third.toNat ≤ 0xBF)
    (last : 0x80 ≤ fourth.toNat ∧ fourth.toNat ≤ 0xBF) :
    front lead (second :: third :: fourth :: rest) =
      (some (Char.ofNat (((lead.toNat % 8 * 64 + payload second) * 64 + payload third) * 64
        + payload fourth)), rest) := by
  rw [front.eq_def]
  simp only [UInt8.lt_iff_toNat_lt, UInt8.reduceToNat, continues_iff, ← UInt8.toNat_inj,
    apply_ite UInt8.toNat]
  rw [if_neg (by omega), if_neg (by omega), if_neg (by omega), if_neg (by omega), if_pos high,
    if_pos (by split <;> split <;> omega), if_pos later, if_pos last]

/-- The octets of a character are read as that character and nothing more is taken. -/
theorem front_utf8EncodeChar (char : Char) (rest : Octets) :
    ∃ lead tail, String.utf8EncodeChar char = lead :: tail ∧
      front lead (tail ++ rest) = (some char, rest) := by
  have valid : char.toNat < 0xD800 ∨ 0xDFFF < char.toNat ∧ char.toNat < 0x110000 := char.valid
  have same : Char.ofNat char.toNat = char := Char.ofNat_toNat char
  unfold String.utf8EncodeChar
  simp only [Char.toNat_val]
  generalize char.toNat = value at *
  split
  next one =>
    have lead := toNat_ofNat value (by omega)
    refine ⟨_, _, rfl, ?_⟩
    rw [List.nil_append, front_one (by omega), lead, same]
  next notOne =>
    split
    next two =>
      have lead := toNat_ofNat (value / 64 % 32 + 192) (by omega)
      have second := toNat_ofNat (value % 64 + 128) (by omega)
      refine ⟨_, _, rfl, ?_⟩
      rw [List.cons_append, List.nil_append, front_two, ← same]
      all_goals simp only [payload, lead, second]
      · congr
        omega
      all_goals omega
    next notTwo =>
      split
      next three =>
        have lead := toNat_ofNat (value / 4096 % 16 + 224) (by omega)
        have second := toNat_ofNat (value / 64 % 64 + 128) (by omega)
        have third := toNat_ofNat (value % 64 + 128) (by omega)
        refine ⟨_, _, rfl, ?_⟩
        rw [List.cons_append, List.cons_append, List.nil_append, front_three, ← same]
        all_goals simp only [payload, lead, second, third]
        · congr
          omega
        all_goals omega
      next notThree =>
        have lead := toNat_ofNat (value / 262144 % 8 + 240) (by omega)
        have second := toNat_ofNat (value / 4096 % 64 + 128) (by omega)
        have third := toNat_ofNat (value / 64 % 64 + 128) (by omega)
        have fourth := toNat_ofNat (value % 64 + 128) (by omega)
        refine ⟨_, _, rfl, ?_⟩
        rw [List.cons_append, List.cons_append, List.cons_append, List.nil_append, front_four,
          ← same]
        all_goals simp only [payload, lead, second, third, fourth]
        · congr
          omega
        all_goals omega

@[simp] theorem encode_nil : encode [] = [] := rfl

theorem encode_cons (char : Char) (text : List Char) :
    encode (char :: text) = String.utf8EncodeChar char ++ encode text :=
  List.flatMap_cons

@[simp] theorem encode_append (first second : List Char) :
    encode (first ++ second) = encode first ++ encode second :=
  List.flatMap_append

theorem encode_cons_ascii {char : Char} (ascii : char.toNat < 0x80) (text : List Char) :
    encode (char :: text) = UInt8.ofNat char.toNat :: encode text := by
  have small : char.val.toNat ≤ 0x7F := Nat.le_of_lt_succ ascii
  rw [encode_cons, String.utf8EncodeChar, if_pos small]
  rfl

theorem high_of_mem_encode {char : Char} (beyond : 0x80 ≤ char.toNat) :
    ∀ octet ∈ encode [char], 0x80 ≤ octet.toNat := by
  have valid : char.toNat < 0x110000 := by
    rcases char.valid with low | high
    · exact Nat.lt_trans low (by decide)
    · exact high.2
  rw [encode_cons, encode_nil, List.append_nil, String.utf8EncodeChar]
  simp only [Char.toNat_val]
  generalize char.toNat = value at *
  intro octet inside
  split at inside
  next one => omega
  next =>
    split at inside
    next two =>
      simp only [List.mem_cons, List.not_mem_nil, or_false] at inside
      rcases inside with rfl | rfl <;> rw [toNat_ofNat _ (by omega)] <;> omega
    next =>
      split at inside
      next three =>
        simp only [List.mem_cons, List.not_mem_nil, or_false] at inside
        rcases inside with rfl | rfl | rfl <;> rw [toNat_ofNat _ (by omega)] <;> omega
      next =>
        simp only [List.mem_cons, List.not_mem_nil, or_false] at inside
        rcases inside with rfl | rfl | rfl | rfl <;> rw [toNat_ofNat _ (by omega)] <;> omega

theorem exists_lead {char : Char} (beyond : 0x80 ≤ char.toNat) :
    ∃ lead rest, String.utf8EncodeChar char = lead :: rest ∧ 0x80 ≤ lead := by
  obtain ⟨lead, rest, spelled, _⟩ := front_utf8EncodeChar char []
  have whole : encode [char] = lead :: rest := by
    rw [encode_cons, encode_nil, List.append_nil, spelled]
  have among : lead ∈ encode [char] := by
    rw [whole]
    exact List.mem_cons_self
  exact ⟨lead, rest, spelled, UInt8.le_iff_toNat_le.mpr (high_of_mem_encode beyond lead among)⟩

theorem toNat_char {value : Nat} (ascii : value < 0x80) : (Char.ofNat value).toNat = value := by
  have valid : value.isValidChar := .inl (by omega)
  rw [Char.ofNat, dif_pos valid]
  rfl

theorem mem_of_mem_encode {octet : UInt8} {text : List Char} (ascii : octet.toNat < 0x80)
    (inside : octet ∈ encode text) : Char.ofNat octet.toNat ∈ text := by
  induction text with
  | nil => cases inside
  | cons char text ih =>
    by_cases low : char.toNat < 0x80
    · rw [encode_cons_ascii low] at inside
      rcases List.mem_cons.mp inside with rfl | later
      · rw [toNat_ofNat _ (by omega), Char.ofNat_toNat]
        exact List.mem_cons_self
      · exact List.mem_cons_of_mem char (ih later)
    · have high := high_of_mem_encode (Nat.le_of_not_lt low) octet
      rw [encode_cons, encode_nil, List.append_nil] at high
      rw [encode_cons] at inside
      rcases List.mem_append.mp inside with here | later
      · exact absurd (high here) (by omega)
      · exact List.mem_cons_of_mem char (ih later)

theorem not_mem_utf8EncodeChar {octet : UInt8} {char : Char} (ascii : octet.toNat < 0x80)
    (other : char ≠ Char.ofNat octet.toNat) : octet ∉ String.utf8EncodeChar char := by
  intro inside
  have among : octet ∈ encode [char] := by
    rwa [encode_cons, encode_nil, List.append_nil]
  exact other (List.mem_singleton.mp (mem_of_mem_encode ascii among)).symm

theorem front_encode (char : Char) (text : List Char) :
    ∃ lead rest, encode (char :: text) = lead :: rest ∧
      front lead rest = (some char, encode text) := by
  obtain ⟨lead, tail, spelled, found⟩ := front_utf8EncodeChar char (encode text)
  exact ⟨lead, tail ++ encode text, by rw [encode_cons, spelled, List.cons_append], found⟩

theorem decode?_cons {lead : UInt8} {rest left : Octets} {char : Char}
    (found : front lead rest = (some char, left)) :
    decode? (lead :: rest) = (decode? left).map (char :: ·) := by
  rw [decode?]
  split
  next same _ =>
    cases found.symm.trans same
    rfl
  next same _ => cases found.symm.trans same

theorem decodeLossy_front (lead : UInt8) (rest : Octets) : decodeLossy (lead :: rest) =
    (front lead rest).1.getD replacement :: decodeLossy (front lead rest).2 := by
  rw [decodeLossy]

theorem decodeLossy_cons {lead : UInt8} {rest left : Octets} {char : Char}
    (found : front lead rest = (some char, left)) :
    decodeLossy (lead :: rest) = char :: decodeLossy left := by
  rw [decodeLossy_front, found, Option.getD_some]

theorem decode?_encode (text : List Char) : decode? (encode text) = some text := by
  induction text with
  | nil => rw [encode_nil, decode?]
  | cons char text ih =>
    obtain ⟨lead, rest, spelled, found⟩ := front_encode char text
    rw [spelled, decode?_cons found, ih, Option.map_some]

theorem decodeLossy_encode (text : List Char) : decodeLossy (encode text) = text := by
  induction text with
  | nil => rw [encode_nil, decodeLossy]
  | cons char text ih =>
    obtain ⟨lead, rest, spelled, found⟩ := front_encode char text
    rw [spelled, decodeLossy_cons found, ih]

theorem encode_injective {first second : List Char} (same : encode first = encode second) :
    first = second := by
  have read := congrArg decode? same
  rw [decode?_encode, decode?_encode] at read
  exact Option.some.inj read

end LoginGateway.Utf8

namespace LoginGateway

theorem toLower_of_high {char : Char} (high : 0x80 ≤ char.toNat) : char.toLower = char := by
  refine dif_neg ?_
  rintro ⟨_, small⟩
  exact absurd (UInt32.le_iff_toNat_le.mp small) (Nat.not_le.mpr (Nat.lt_of_lt_of_le (by decide) high))

/-- What holds of the first 128 characters can be told by looking at each of them. -/
@[elab_as_elim]
theorem of_ascii {holds : Char → Prop} {char : Char} (ascii : char.toNat < 0x80)
    (each : ∀ code < 0x80, holds (Char.ofNat code)) : holds char := by
  have here := each char.toNat ascii
  rwa [Char.ofNat_toNat] at here

theorem toLower_eq_iff {sign : Char} (other : sign.isAlpha = false) (char : Char) :
    char.toLower = sign ↔ char = sign := by
  have stays {char : Char} (plain : char.isAlpha = false ∨ char.toLower.isAlpha = false) :
      char.toLower = char := by
    by_cases ascii : char.toNat < 0x80
    · exact of_ascii ascii (by decide) plain
    · exact toLower_of_high (Nat.le_of_not_lt ascii)
  constructor
  · rintro rfl
    exact (stays (.inr other)).symm
  · rintro rfl
    exact stays (.inl other)

theorem ascii_of_isAlphanum {char : Char} (letter : char.isAlphanum = true) : char.toNat < 0x80 := by
  have same : char.toNat = char.val.toNat := rfl
  change (decide (65 ≤ char.val ∧ char.val ≤ 90)
    || decide (97 ≤ char.val) && decide (char.val ≤ 122)
    || decide (48 ≤ char.val) && decide (char.val ≤ 57)) = true at letter
  simp only [Bool.or_eq_true, Bool.and_eq_true, decide_eq_true_eq, UInt32.le_iff_toNat_le,
    UInt32.reduceToNat, ← same] at letter
  omega

theorem text?_octets (text : String) : text? (octets text) = some text := by
  rw [text?, octets, Utf8.decode?_encode, Option.map_some, String.ofList_toList]

theorem octets_injective {first second : String} (same : octets first = octets second) :
    first = second :=
  String.toList_inj.mp (Utf8.encode_injective same)

end LoginGateway
