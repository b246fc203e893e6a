import LoginGateway.Proofs.FieldValues
import LoginGateway.Proofs.UrlHosts

/-! In what characters the parts of a URL are written. An escape brings in nothing but
a percent sign and digits. So there are no controls in a path or a query, there is no
slash of either kind in a segment, and what needs no escape stays as it is. -/

namespace LoginGateway

def Printable (text : List Char) : Prop := ∀ char ∈ text, 0x20 ≤ char.toNat ∧ char.toNat ≠ 0x7F

theorem Printable.nil : Printable [] := nofun

theorem Printable.append {first second : List Char} (before : Printable first)
    (after : Printable second) : Printable (first ++ second) :=
  List.forall_mem_append.mpr ⟨before, after⟩

theorem Printable.cons {char : Char} {text : List Char}
    (visible : 0x20 ≤ char.toNat ∧ char.toNat ≠ 0x7F) (rest : Printable text) :
    Printable (char :: text) :=
  List.forall_mem_cons.mpr ⟨visible, rest⟩

theorem Headers.isValue_of_printable {text : List Char} (printable : Printable text) :
    isValue (Utf8.encode text) = true := by
  rw [isValue_iff]
  intro octet inside
  by_cases ascii : octet.toNat < 0x80
  · have char := printable _ (Utf8.mem_of_mem_encode ascii inside)
    rw [Utf8.toNat_char ascii] at char
    exact .inr char
  · omega

namespace Percent

variable {escaped : UInt8 → Bool} {text : List Char} {char : Char}

def signs : List Char := "%0123456789ABCDEF".toList

theorem hexDigit_mem_signs : ∀ digit < 16, hexDigit digit ∈ signs := by
  decide

theorem printable_signs : ∀ char ∈ signs, 0x20 ≤ char.toNat ∧ char.toNat ≠ 0x7F :=
  List.all_iff_forall_prop.mp (by decide)

theorem mem_signs_of_escape {octet : UInt8} (inside : char ∈ escape octet) : char ∈ signs := by
  obtain ⟨high, low⟩ := halves_lt octet
  simp only [escape, List.mem_cons, List.not_mem_nil, or_false] at inside
  rcases inside with rfl | rfl | rfl
  · decide
  · exact hexDigit_mem_signs _ high
  · exact hexDigit_mem_signs _ low

theorem mem_encodeText (inside : char ∈ encodeText escaped text) :
    char ∈ signs ∨ char ∈ text ∧ char.toNat < 0x80 ∧ escaped (UInt8.ofNat char.toNat) = false := by
  obtain ⟨octet, among, written⟩ := List.mem_flatMap.mp inside
  split at written
  next => exact .inl (mem_signs_of_escape written)
  next plain =>
    simp only [Bool.or_eq_true, decide_eq_true_eq, not_or, Bool.not_eq_true,
      UInt8.le_iff_toNat_le, UInt8.reduceToNat, Nat.not_le] at plain
    obtain rfl := List.mem_singleton.mp written
    rw [Utf8.toNat_char plain.2, UInt8.ofNat_toNat]
    exact .inr ⟨Utf8.mem_of_mem_encode plain.2 among, plain.2, plain.1⟩

theorem printable_encodeText (controls : ∀ octet, isControl octet = true → escaped octet = true)
    (text : List Char) : Printable (encodeText escaped text) := by
  intro char inside
  rcases mem_encodeText inside with sign | ⟨_, ascii, kept⟩
  · exact printable_signs char sign
  · have visible : isControl (UInt8.ofNat char.toNat) = false :=
      Bool.eq_false_iff.mpr fun control => by simp [controls _ control] at kept
    have code := Utf8.toNat_ofNat char.toNat (by omega)
    simp only [isControl, Bool.or_eq_false_iff, decide_eq_false_iff_not, UInt8.lt_iff_toNat_lt,
      UInt8.le_iff_toNat_le, UInt8.reduceToNat, code] at visible
    omega

theorem encodeText_of_plain
    (plain : ∀ char ∈ text, char.toNat < 0x80 ∧ escaped (UInt8.ofNat char.toNat) = false) :
    encodeText escaped text = text := by
  induction text with
  | nil => rfl
  | cons char text ih =>
    obtain ⟨ascii, kept⟩ := plain char List.mem_cons_self
    have code := Utf8.toNat_ofNat char.toNat (by omega)
    have low : ¬ (0x80 : UInt8) ≤ UInt8.ofNat char.toNat := by
      rw [UInt8.le_iff_toNat_le, code]
      exact Nat.not_le.mpr ascii
    have later := ih fun other inside => plain other (List.mem_cons_of_mem char inside)
    rw [encodeText, encode] at later ⊢
    rw [Utf8.encode_cons_ascii ascii, List.flatMap_cons, later, kept, code, Char.ofNat_toNat]
    simp [low]

end Percent

namespace Url

theorem pathSet_of_control (octet : UInt8) (control : Percent.isControl octet = true) :
    pathSet octet = true := by
  simp [pathSet, fragmentSet, control]

theorem querySet_of_control (octet : UInt8) (control : Percent.isControl octet = true) :
    querySet true octet = true := by
  simp [querySet, control]

theorem not_slash_of_cutSegments {special : Bool} {text piece : List Char}
    (among : piece ∈ cutSegments special text) : ∀ char ∈ piece, isSlash special char = false := by
  induction text generalizing piece with
  | nil =>
    rw [List.mem_singleton.mp among]
    nofun
  | cons first rest ih =>
    rw [cutSegments] at among
    split at among
    next =>
      rcases List.mem_cons.mp among with rfl | later
      · nofun
      · exact ih later
    next inner =>
      have begins : ∀ char ∈ [first], isSlash special char = false := by
        simpa using inner
      split at among
      next segment others same =>
        rw [same] at ih
        rcases List.mem_cons.mp among with rfl | later
        · exact List.forall_mem_cons.mpr ⟨begins first List.mem_cons_self, ih List.mem_cons_self⟩
        · exact ih (List.mem_cons_of_mem segment later)
      next =>
        rw [List.mem_singleton.mp among]
        exact begins

theorem cutSegments_ne_nil (special : Bool) (text : List Char) : cutSegments special text ≠ [] := by
  cases text with
  | nil => nofun
  | cons first rest =>
    rw [cutSegments]
    split
    · nofun
    · split <;> nofun

theorem mem_of_mem_goUp {file : Bool} {kept : List (List Char)} {segment : List Char}
    (inside : segment ∈ goUp file kept) : segment ∈ kept := by
  unfold goUp at inside
  split at inside
  · split at inside
    · exact inside
    · simp at inside
  · exact List.mem_cons_of_mem _ inside
  · exact inside

/-- Working off segments makes up none but an empty one and keeps none that means a place. -/
theorem mem_of_mem_settle {file : Bool} {segments kept : List (List Char)} {segment : List Char}
    (inside : segment ∈ settle file kept segments) :
    segment = [] ∨ segment ∈ kept ∨
      segment ∈ segments ∧ isDouble segment = false ∧ isSingle segment = false := by
  induction segments generalizing kept with
  | nil => exact .inr (.inl (List.mem_reverse.mp inside))
  | cons first rest ih =>
    cases rest with
    | nil =>
      rw [settle] at inside
      split at inside
      · rcases List.mem_cons.mp (List.mem_reverse.mp inside) with empty | before
        · exact .inl empty
        · exact .inr (.inl (mem_of_mem_goUp before))
      next notDouble =>
        split at inside
        · rcases List.mem_cons.mp (List.mem_reverse.mp inside) with empty | before
          · exact .inl empty
          · exact .inr (.inl before)
        next notSingle =>
          rcases List.mem_cons.mp (List.mem_reverse.mp inside) with rfl | before
          · exact .inr (.inr ⟨List.mem_cons_self, Bool.eq_false_iff.mpr notDouble,
              Bool.eq_false_iff.mpr notSingle⟩)
          · exact .inr (.inl before)
    | cons next rest =>
      have later {kept' : List (List Char)}
          (smaller : ∀ other ∈ kept', other ∈ kept ∨
            other = first ∧ isDouble first = false ∧ isSingle first = false)
          (found : segment ∈ settle file kept' (next :: rest)) :
          segment = [] ∨ segment ∈ kept ∨
            segment ∈ first :: next :: rest ∧ isDouble segment = false ∧
              isSingle segment = false := by
        rcases ih found with empty | before | ⟨after, plain⟩
        · exact .inl empty
        · rcases smaller segment before with old | ⟨rfl, plain⟩
          · exact .inr (.inl old)
          · exact .inr (.inr ⟨List.mem_cons_self, plain⟩)
        · exact .inr (.inr ⟨List.mem_cons_of_mem first after, plain⟩)
      rw [settle] at inside
      · split at inside
        · exact later (fun other old => .inl (mem_of_mem_goUp old)) inside
        next notDouble =>
          split at inside
          · exact later (fun other old => .inl old) inside
          next notSingle =>
            refine later (fun other old => ?_) inside
            rcases List.mem_cons.mp old with rfl | old
            · exact .inr ⟨rfl, Bool.eq_false_iff.mpr notDouble, Bool.eq_false_iff.mpr notSingle⟩
            · exact .inl old
      · simp

theorem settle_ne_nil {file : Bool} {segments : List (List Char)} (some : segments ≠ [])
    (kept : List (List Char)) : settle file kept segments ≠ [] := by
  induction segments generalizing kept with
  | nil => exact absurd rfl some
  | cons first rest ih =>
    cases rest with
    | nil =>
      rw [settle]
      split
      · simp
      · split <;> simp
    | cons next rest =>
      have later := ih (List.cons_ne_nil next rest)
      rw [settle]
      · split
        · exact later _
        · split <;> exact later _
      · simp

/-- A segment as it is written in the path of a URL, where backslashes count as slashes or
do not. -/
structure IsSegment (special : Bool) (segment : List Char) : Prop where
  plain : ∀ char ∈ segment, char.toNat < 0x80 ∧ pathSet (UInt8.ofNat char.toNat) = false
  noSlash : ∀ char ∈ segment, isSlash special char = false
  notDouble : isDouble segment = false
  notSingle : isSingle segment = false

variable {special : Bool}

theorem IsSegment.printable {segment : List Char} (written : IsSegment special segment) :
    Printable segment := by
  rw [← Percent.encodeText_of_plain written.plain]
  exact Percent.printable_encodeText pathSet_of_control segment

theorem isSegment_nil : IsSegment special [] := ⟨nofun, nofun, by decide, by decide⟩

theorem pathSet_of_edge : ∀ number ≤ 0x20, pathSet (UInt8.ofNat number) = true := by
  decide

theorem IsSegment.inner {segment : List Char} (written : IsSegment special segment) :
    ∀ char ∈ segment, isEdge char = false ∧ char ≠ '#' ∧ char ≠ '?' := by
  intro char inside
  have plain := (written.plain char inside).2
  refine ⟨decide_eq_false fun edge => ?_, ?_, ?_⟩
  · rw [pathSet_of_edge char.toNat edge] at plain
    cases plain
  · rintro rfl
    exact absurd plain (by decide)
  · rintro rfl
    exact absurd plain (by decide)

theorem inner_path {parts : List (List Char)}
    (written : ∀ segment ∈ parts, IsSegment special segment) :
    ∀ char ∈ parts.flatMap ('/' :: ·), isEdge char = false ∧ char ≠ '#' ∧ char ≠ '?' := by
  intro char inside
  obtain ⟨segment, among, here⟩ := List.mem_flatMap.mp inside
  rcases List.mem_cons.mp here with rfl | behind
  · decide
  · exact (written segment among).inner char behind

theorem isSlash_slash (special : Bool) : isSlash special '/' = true := by
  rw [isSlash, decide_eq_true rfl, Bool.true_or]

theorem not_slash_of_special {char : Char} (inner : isSlash true char = false) :
    isSlash special char = false := by
  cases special with
  | true => exact inner
  | false =>
    rw [isSlash, Bool.or_eq_false_iff] at inner
    rw [isSlash, inner.1]
    rfl

theorem plain_of_sign : ∀ char ∈ Percent.signs,
    (char.toNat < 0x80 ∧ pathSet (UInt8.ofNat char.toNat) = false) ∧ isSlash true char = false :=
  List.all_iff_forall_prop.mp (by decide)

theorem isSegment_encodeText {piece : List Char}
    (noSlash : ∀ char ∈ piece, isSlash special char = false)
    (notDouble : isDouble (Percent.encodeText pathSet piece) = false)
    (notSingle : isSingle (Percent.encodeText pathSet piece) = false) :
    IsSegment special (Percent.encodeText pathSet piece) := by
  refine ⟨fun char here => ?_, fun char here => ?_, notDouble, notSingle⟩
  · rcases Percent.mem_encodeText here with sign | ⟨_, kept⟩
    · exact (plain_of_sign char sign).1
    · exact kept
  · rcases Percent.mem_encodeText here with sign | ⟨old, _⟩
    · exact not_slash_of_special (plain_of_sign char sign).2
    · exact noSlash char old

/-- Whatever text the segments of a path are read from, they are written as segments are,
and there is a first one. -/
theorem isSegment_of_settle (file : Bool) (text : List Char) : ∃ first rest,
    settle file [] ((cutSegments special text).map (Percent.encodeText pathSet)) = first :: rest ∧
      ∀ segment ∈ first :: rest, IsSegment special segment := by
  have some : (cutSegments special text).map (Percent.encodeText pathSet) ≠ [] := by
    simpa using cutSegments_ne_nil special text
  have settled : settle file [] ((cutSegments special text).map (Percent.encodeText pathSet)) ≠ [] :=
    settle_ne_nil some []
  obtain ⟨first, rest, same⟩ := List.exists_cons_of_ne_nil settled
  refine ⟨first, rest, same, ?_⟩
  rw [← same]
  intro segment inside
  rcases mem_of_mem_settle inside with rfl | nothing | ⟨among, notDouble, notSingle⟩
  · exact isSegment_nil
  · cases nothing
  · obtain ⟨piece, cut, rfl⟩ := List.mem_map.mp among
    exact isSegment_encodeText (not_slash_of_cutSegments cut) notDouble notSingle

theorem isSegment_of_readPath (special : Bool) (text : List Char) : ∃ parts,
    readPath special text = .segments parts ∧ ∀ segment ∈ parts, IsSegment special segment := by
  cases text with
  | nil =>
    cases special with
    | true => exact ⟨[[]], rfl, List.forall_mem_singleton.mpr isSegment_nil⟩
    | false => exact ⟨[], rfl, nofun⟩
  | cons char rest =>
    obtain ⟨first, parts, same, written⟩ :=
      isSegment_of_settle false (if isSlash special char then rest else char :: rest)
    exact ⟨first :: parts, congrArg UrlPath.segments same, written⟩

theorem readPath_spec (text : List Char) : ∃ first rest,
    readPath true text = .segments (first :: rest) ∧
      ∀ segment ∈ first :: rest, IsSegment true segment := by
  cases text with
  | nil => exact ⟨[], [], rfl, List.forall_mem_singleton.mpr isSegment_nil⟩
  | cons char rest =>
    obtain ⟨first, others, same, plain⟩ :=
      isSegment_of_settle false (if isSlash true char then rest else char :: rest)
    exact ⟨first, others, congrArg UrlPath.segments same, plain⟩

end Url

end LoginGateway
