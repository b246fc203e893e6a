import LoginGateway.Proofs.FormPairs

/-! A form is read as nothing longer than it is. What is no text in it becomes marks of
three octets each, but it can only come from escapes, which are as long. -/

namespace LoginGateway

namespace Utf8

/-- An octet that only stands behind a lead octet. -/
def IsTrailing (octet : UInt8) : Prop := 0x80 ≤ octet.toNat ∧ octet.toNat ≤ 0xBF

theorem front_of_trailing {lead : UInt8} (trailing : IsTrailing lead) (rest : Octets) :
    front lead rest = (none, rest) := by
  obtain ⟨low, high⟩ := trailing
  have notOne : ¬ lead < 0x80 := by
    rw [UInt8.lt_iff_toNat_lt]
    exact Nat.not_lt.mpr low
  have early : lead < 0xC2 := by
    rw [UInt8.lt_iff_toNat_lt]
    exact Nat.lt_of_le_of_lt high (by decide)
  rw [front.eq_def, if_neg notOne, if_pos early]

theorem isTrailing_of_continues {low high octet : UInt8} (above : 0x80 ≤ low.toNat)
    (below : high.toNat ≤ 0xBF) (next : continues low high octet = true) : IsTrailing octet := by
  obtain ⟨least, most⟩ := continues_iff.mp next
  exact ⟨Nat.le_trans above least, Nat.le_trans most below⟩

/-- What is read takes only trailing octets with it from what is left, and is no longer
than three octets for the lead octet and for each that it takes. -/
def Takes (rest : Octets) (read : Option Char × Octets) : Prop :=
  ∃ taken, rest = taken ++ read.2 ∧ (∀ octet ∈ taken, IsTrailing octet) ∧
    (String.utf8EncodeChar (read.1.getD replacement)).length ≤ 3 * (taken.length + 1)

section Takes

variable {octet : UInt8} {tail : Octets} {read : Option Char × Octets}

theorem takes_none (rest : Octets) : Takes rest (none, rest) := by
  have mark : (String.utf8EncodeChar replacement).length ≤ 3 := by decide
  exact ⟨[], rfl, nofun, mark⟩

theorem takes_ascii {code : Nat} (ascii : code < 0x80) (rest : Octets) :
    Takes rest (some (Char.ofNat code), rest) := by
  refine ⟨[], rfl, nofun, ?_⟩
  have whole := encode_cons_ascii (by rw [toNat_char ascii]; exact ascii) []
  rw [encode_cons, encode_nil, List.append_nil] at whole
  rw [Option.getD_some, whole, List.length_singleton]
  decide

theorem takes_char (trailing : IsTrailing octet) (char : Char) :
    Takes (octet :: tail) (some char, tail) := by
  refine ⟨[octet], rfl, List.forall_mem_singleton.mpr trailing, ?_⟩
  have bound := char.utf8Size_le_four
  rw [Option.getD_some, List.length_singleton, String.length_utf8EncodeChar]
  omega

theorem Takes.cons (trailing : IsTrailing octet) (takes : Takes tail read) :
    Takes (octet :: tail) read := by
  obtain ⟨taken, same, rest, small⟩ := takes
  refine ⟨octet :: taken, by rw [same, List.cons_append],
    List.forall_mem_cons.mpr ⟨trailing, rest⟩, ?_⟩
  rw [List.length_cons]
  omega

theorem takes_next {low high : UInt8} {next : UInt8 → Octets → Option Char × Octets}
    (above : 0x80 ≤ low.toNat) (below : high.toNat ≤ 0xBF)
    (further : ∀ octet tail, IsTrailing octet → Takes (octet :: tail) (next octet tail))
    (rest : Octets) : Takes rest (match rest with
      | octet :: tail => if continues low high octet then next octet tail else (none, rest)
      | [] => (none, [])) := by
  cases rest with
  | nil => exact takes_none []
  | cons octet tail =>
    simp only []
    split
    next continued => exact further octet tail (isTrailing_of_continues above below continued)
    next => exact takes_none (octet :: tail)

end Takes

theorem takes_front (lead : UInt8) (rest : Octets) : Takes rest (front lead rest) := by
  have least : 0x80 ≤ (0x80 : UInt8).toNat := by decide
  have most : (0xBF : UInt8).toNat ≤ 0xBF := by decide
  unfold front
  split
  next ascii => exact takes_ascii ascii rest
  next =>
    split
    next => exact takes_none rest
    next =>
      split
      next =>
        apply takes_next least most
        intro second tail trailing
        exact takes_char trailing _
      next =>
        split
        next =>
          apply takes_next (by split <;> decide) (by split <;> decide)
          intro second tail trailing
          refine .cons trailing (takes_next least most ?_ tail)
          intro third tail trailing
          exact takes_char trailing _
        next =>
          split
          next =>
            apply takes_next (by split <;> decide) (by split <;> decide)
            intro second tail trailing
            refine .cons trailing (takes_next least most ?_ tail)
            intro third tail trailing
            refine .cons trailing (takes_next least most ?_ tail)
            intro fourth tail trailing
            exact takes_char trailing _
          next => exact takes_none rest

/-- Octets that were written in so many: a character in its own octets, and any octet in
the three of an escape. -/
inductive WrittenIn : Octets → Nat → Prop where
  | nil : WrittenIn [] 0
  | char (char : Char) {bytes : Octets} {size : Nat} (rest : WrittenIn bytes size) :
      WrittenIn (String.utf8EncodeChar char ++ bytes) ((String.utf8EncodeChar char).length + size)
  | escape (octet : UInt8) {bytes : Octets} {size : Nat} (rest : WrittenIn bytes size) :
      WrittenIn (octet :: bytes) (3 + size)

namespace WrittenIn

variable {bytes taken : Octets} {size : Nat}

/-- A trailing octet in front was written as an escape, for no character begins with it. -/
theorem of_trailing {octet : UInt8} (written : WrittenIn (octet :: bytes) size)
    (trailing : IsTrailing octet) : ∃ less, WrittenIn bytes less ∧ size = 3 + less := by
  generalize same : octet :: bytes = whole at written
  cases written with
  | nil => cases same
  | @char char bytes' size' rest =>
    obtain ⟨lead, tail, spelled, found⟩ := front_utf8EncodeChar char bytes'
    rw [spelled, List.cons_append] at same
    cases same
    rw [front_of_trailing trailing] at found
    cases found
  | escape octet rest =>
    cases same
    exact ⟨_, rest, rfl⟩

theorem drop_trailing (written : WrittenIn (taken ++ bytes) size)
    (trailing : ∀ octet ∈ taken, IsTrailing octet) :
    ∃ less, WrittenIn bytes less ∧ size = 3 * taken.length + less := by
  induction taken generalizing size with
  | nil => exact ⟨size, written, by simp⟩
  | cons octet taken ih =>
    obtain ⟨first, later⟩ := List.forall_mem_cons.mp trailing
    obtain ⟨less, rest, total⟩ := written.of_trailing first
    obtain ⟨least, rest, total'⟩ := ih rest later
    refine ⟨least, rest, ?_⟩
    rw [List.length_cons]
    omega

/-- Octets are read as a text that is no longer than what they were written in. -/
theorem length_decodeLossy_le (written : WrittenIn bytes size) :
    (encode (decodeLossy bytes)).length ≤ size := by
  induction size using Nat.strongRecOn generalizing bytes with
  | ind size ih =>
    cases written with
    | nil => simp [decodeLossy]
    | @char char bytes' size' rest =>
      obtain ⟨lead, tail, spelled, found⟩ := front_utf8EncodeChar char bytes'
      have bound := ih size' (by rw [spelled, List.length_cons]; omega) rest
      rw [spelled, List.cons_append, decodeLossy_cons found, encode_cons, List.length_append,
        ← spelled]
      omega
    | @escape octet bytes' size' rest =>
      obtain ⟨taken, same, trailing, small⟩ := takes_front octet bytes'
      rw [same] at rest
      obtain ⟨less, rest, total⟩ := rest.drop_trailing trailing
      have bound := ih less (by omega) rest
      rw [decodeLossy_front, encode_cons, List.length_append]
      omega

end WrittenIn

theorem exists_of_encode_cons {octet : UInt8} {rest : Octets} {text : List Char}
    (ascii : octet.toNat < 0x80) (same : encode text = octet :: rest) :
    ∃ char others, text = char :: others ∧ rest = encode others := by
  cases text with
  | nil => cases same
  | cons char others =>
    refine ⟨char, others, rfl, ?_⟩
    by_cases low : char.toNat < 0x80
    · rw [encode_cons_ascii low] at same
      exact (List.cons.inj same).2.symm
    · have high := high_of_mem_encode (Nat.le_of_not_lt low) octet
      obtain ⟨lead, tail, spelled, _⟩ := front_utf8EncodeChar char (encode others)
      rw [encode_cons, encode_nil, List.append_nil, spelled] at high
      rw [encode_cons, spelled, List.cons_append] at same
      rw [(List.cons.inj same).1] at high
      exact absurd (high List.mem_cons_self) (by omega)

end Utf8

namespace Percent

theorem ascii_of_hexValue? {octet : UInt8} {value : Nat} (digit : hexValue? octet = some value) :
    octet.toNat < 0x80 := by
  apply Nat.lt_of_not_le
  intro beyond
  have large (code : UInt8) (small : code.toNat < 0x80) : ¬ octet ≤ code := by
    rw [UInt8.le_iff_toNat_le]
    omega
  simp [hexValue?, large] at digit

theorem decode_sign (bytes : Octets) : decode (37 :: bytes) = 37 :: decode bytes ∨
    ∃ high low rest octet, bytes = high :: low :: rest ∧ high.toNat < 0x80 ∧ low.toNat < 0x80 ∧
      decode (37 :: bytes) = octet :: decode rest := by
  cases bytes with
  | nil => exact .inl rfl
  | cons high rest =>
    cases rest with
    | nil => exact .inl rfl
    | cons low rest =>
      cases first : hexValue? high with
      | none => simp [decode, first]
      | some upper =>
        cases second : hexValue? low with
        | none => simp [decode, first, second]
        | some lower =>
          refine .inr ⟨high, low, rest, UInt8.ofNat (upper * 16 + lower), rfl,
            ascii_of_hexValue? first, ascii_of_hexValue? second, ?_⟩
          simp only [decode, first, second]

/-- Reading its escapes leaves all other characters of a text whole. -/
theorem writtenIn_decode (text : List Char) :
    Utf8.WrittenIn (decode (Utf8.encode text)) (Utf8.encode text).length := by
  cases text with
  | nil => exact .nil
  | cons char rest =>
    have here := Utf8.WrittenIn.char char (writtenIn_decode rest)
    rw [Utf8.encode_cons, List.length_append]
    by_cases sign : char = '%'
    · have spelled : String.utf8EncodeChar char = [37] := by
        rw [sign]
        decide
      rw [spelled] at here ⊢
      rcases decode_sign (Utf8.encode rest) with
        plain | ⟨high, low, bytes, octet, same, digit, digit', read⟩
      · rw [List.singleton_append, plain]
        exact here
      · -- The digits are characters of their own, so what is left is a text again.
        obtain ⟨_, others, rfl, tail⟩ := Utf8.exists_of_encode_cons digit same
        obtain ⟨_, text, rfl, rfl⟩ := Utf8.exists_of_encode_cons digit' tail.symm
        rw [List.singleton_append, read, same, List.length_singleton, List.length_cons,
          List.length_cons]
        have total : 1 + ((Utf8.encode text).length + 1 + 1) = 3 + (Utf8.encode text).length := by
          omega
        rw [total]
        exact .escape octet (writtenIn_decode text)
    · rw [decode_append (Utf8.not_mem_utf8EncodeChar (by decide) sign)]
      exact here
termination_by text.length

end Percent

namespace Form

theorem map_blank_encode (text : List Char) : (Utf8.encode text).map blank =
    Utf8.encode (text.map fun char => if char = '+' then ' ' else char) := by
  induction text with
  | nil => rfl
  | cons char text ih =>
    rw [List.map_cons]
    by_cases plus : char = '+'
    · rw [plus, Utf8.encode_cons_ascii (by decide), List.map_cons, ih, if_pos rfl,
        Utf8.encode_cons_ascii (by decide)]
      rfl
    · have absent := Utf8.not_mem_utf8EncodeChar (by decide : (43 : UInt8).toNat < 0x80) plus
      have kept : (String.utf8EncodeChar char).map blank = String.utf8EncodeChar char := by
        apply map_eq_self
        rintro octet inside
        refine if_neg ?_
        rintro rfl
        exact absent inside
      rw [Utf8.encode_cons, List.map_append, kept, ih, if_neg plus, Utf8.encode_cons]

theorem length_decode_le (text : List Char) :
    (octets (decode (Utf8.encode text))).length ≤ (Utf8.encode text).length := by
  have written := Percent.writtenIn_decode (text.map fun char => if char = '+' then ' ' else char)
  rw [← map_blank_encode, List.length_map] at written
  rw [octets, decode, String.toList_ofList]
  exact written.length_decodeLossy_le

end Form

namespace Utf8

variable {sign : UInt8} (ascii : sign.toNat < 0x80)
include ascii

theorem encode_cut (before after : List Char) : encode (before ++ Char.ofNat sign.toNat :: after) =
    encode before ++ sign :: encode after := by
  rw [encode_append, Percent.encode_plain (UInt8.lt_iff_toNat_lt.mpr ascii)]

theorem pieces_encode (text : List Char) :
    pieces sign (encode text) = (pieces (Char.ofNat sign.toNat) text).map encode := by
  by_cases here : Char.ofNat sign.toNat ∈ text
  · obtain ⟨head, tail, cut, absent⟩ := List.eq_append_cons_of_mem here
    have free : sign ∉ encode head := fun inside => absent (mem_of_mem_encode ascii inside)
    rw [cut, encode_cut ascii, pieces_append, pieces_append, pieces_of_not_mem free,
      pieces_of_not_mem absent, pieces_encode tail, List.map_append, List.map_singleton]
  · have free : sign ∉ encode text := fun inside => here (mem_of_mem_encode ascii inside)
    rw [pieces_of_not_mem free, pieces_of_not_mem here, List.map_singleton]
termination_by text.length
decreasing_by
  rw [cut, List.length_append, List.length_cons]
  omega

theorem cutFirst_encode (text : List Char) : cutFirst sign (encode text) =
    (encode (cutFirst (Char.ofNat sign.toNat) text).1,
      (cutFirst (Char.ofNat sign.toNat) text).2.map encode) := by
  by_cases here : Char.ofNat sign.toNat ∈ text
  · obtain ⟨head, tail, cut, absent⟩ := List.eq_append_cons_of_mem here
    have free : sign ∉ encode head := fun inside => absent (mem_of_mem_encode ascii inside)
    rw [cut, encode_cut ascii, cutFirst_append free, cutFirst_append absent]
    rfl
  · have free : sign ∉ encode text := fun inside => here (mem_of_mem_encode ascii inside)
    rw [cutFirst_of_not_mem free, cutFirst_of_not_mem here]
    rfl

end Utf8

namespace Form

/-- The names and values of a form are no longer than the form. -/
theorem length_le_of_mem_parse {text : List Char} {pair : String × String}
    (inside : pair ∈ parse (Utf8.encode text)) :
    (octets pair.1).length + (octets pair.2).length ≤ (Utf8.encode text).length := by
  obtain ⟨piece, among, rfl⟩ := List.mem_map.mp inside
  have among := (List.mem_filter.mp among).1
  obtain ⟨before, after, whole, _⟩ := exists_of_mem_pieces among
  rw [Utf8.pieces_encode (by decide)] at among
  obtain ⟨part, _, rfl⟩ := List.mem_map.mp among
  have parts := length_cutFirst_le 61 (Utf8.encode part)
  rw [Utf8.cutFirst_encode (by decide)] at parts ⊢
  generalize cutFirst (Char.ofNat (61 : UInt8).toNat) part = cut at parts ⊢
  obtain ⟨name, value⟩ := cut
  have written : (value.map Utf8.encode).getD [] = Utf8.encode (value.getD []) := by
    cases value <;> rfl
  simp only [written] at parts ⊢
  rw [whole, List.length_append, List.length_append]
  calc (octets (decode (Utf8.encode name))).length
        + (octets (decode (Utf8.encode (value.getD [])))).length
      ≤ (Utf8.encode name).length + (Utf8.encode (value.getD [])).length :=
        Nat.add_le_add (length_decode_le name) (length_decode_le (value.getD []))
    _ ≤ (Utf8.encode part).length := parts
    _ ≤ before.length + (Utf8.encode part).length + after.length := by omega

theorem length_le_of_first? {text : List Char} {name value : String}
    (found : first? (parse (Utf8.encode text)) name = some value) :
    (octets value).length ≤ (Utf8.encode text).length := by
  obtain ⟨pair, first, rfl⟩ := Option.map_eq_some_iff.mp found
  have bound := length_le_of_mem_parse (List.mem_of_find?_eq_some first)
  omega

end Form

end LoginGateway
