import LoginGateway.Domain.Name
import LoginGateway.Proofs.Punycode
import Mathlib.Data.Bool.AllAny

/-! Names of hosts in their final form. A name that was brought to it stays as it is when
it is read again, unless one of its labels has become longer than the encoded labels that
are read. -/

namespace LoginGateway.Domain

/-- A label as it is known once its text is read: plain and not encoded, or one beyond
ASCII that a name may hold. -/
def IsRead (label : List Nat) : Prop :=
  (label.all (· < 0x80) = true ∧ encodedMark.isPrefixOf label = false) ∨
    (label.all (· < 0x80) = false ∧ isLabel label = true)

/-- A name in its final form as its labels make it. -/
structure WrittenAs (labels : List (List Nat)) (written : List Char) : Prop where
  some : labels ≠ []
  read : ∀ label ∈ labels, IsRead label ∧ 0x2E ∉ label
  fits : (labels.flatten.any turnsDirection && !labels.all directionFits) = false
  same : written = ((labels.map writeLabel).intersperse ['.']).flatten
  allowed : (written.any fun char => isForbidden char || char.isUpper) = false

def HasReadableLabels (name : List Char) : Prop :=
  ∀ label ∈ pieces '.' name, "xn--".toList <+: label →
    label.length ≤ encodedMark.length + longestCode

instance (name : List Char) : Decidable (HasReadableLabels name) :=
  inferInstanceAs (Decidable (∀ label ∈ pieces '.' name, _ → _))

theorem mem_of_mapM {α β : Type} {read : α → Option β} {items : List α} {results : List β}
    (all : items.mapM read = some results) :
    results.length = items.length ∧ ∀ result ∈ results, ∃ item ∈ items, read item = some result := by
  induction items generalizing results with
  | nil =>
    cases all
    exact ⟨rfl, nofun⟩
  | cons item items ih =>
    rw [List.mapM_cons] at all
    obtain ⟨first, here, all⟩ := Option.bind_eq_some_iff.mp all
    obtain ⟨rest, later, all⟩ := Option.bind_eq_some_iff.mp all
    cases all
    obtain ⟨length, found⟩ := ih later
    refine ⟨congrArg Nat.succ length, List.forall_mem_cons.mpr ⟨⟨item, List.mem_cons_self, here⟩, ?_⟩⟩
    intro result inside
    obtain ⟨other, among, same⟩ := found result inside
    exact ⟨other, List.mem_cons_of_mem item among, same⟩

theorem mapM_map {α β : Type} {read : β → Option α} {write : α → β} {items : List α}
    (each : ∀ item ∈ items, read (write item) = some item) :
    (items.map write).mapM read = some items := by
  induction items with
  | nil => rfl
  | cons item items ih =>
    obtain ⟨here, later⟩ := List.forall_mem_cons.mp each
    rw [List.map_cons, List.mapM_cons, here, ih later]
    rfl

theorem mapM_eq_none {α β : Type} {read : α → Option β} {items : List α} {item : α}
    (among : item ∈ items) (fails : read item = none) : items.mapM read = none := by
  induction items with
  | nil => cases among
  | cons first items ih =>
    rw [List.mapM_cons]
    rcases List.mem_cons.mp among with rfl | later
    · rw [fails]
      rfl
    · rw [ih later]
      cases read first <;> rfl

theorem toNat_ofNat_of_plain {label : List Nat} (plain : label.all (· < 0x80) = true) :
    codesOf (label.map Char.ofNat) = label := by
  rw [codesOf, List.map_map]
  exact map_eq_self fun code inside =>
    Utf8.toNat_char (of_decide_eq_true (List.all_eq_true.mp plain code inside))

theorem ofNat_codesOf (text : List Char) : (codesOf text).map Char.ofNat = text := by
  rw [codesOf, List.map_map]
  exact map_eq_self fun char _ => Char.ofNat_toNat char

section Labels

variable {label piece : List Nat}

theorem isScalar_of_isSettled {code : Nat} (settled : isSettled code = true) : IsScalar code := by
  by_cases plain : code < 0x80
  · exact ⟨by omega, by omega⟩
  · rw [isSettled, if_neg plain] at settled
    simp only [Bool.and_eq_true, decide_eq_true_eq] at settled
    have valid := (Char.ofNat code).valid
    have same : (Char.ofNat code).val.toNat = code := settled.1.1.1
    rw [UInt32.isValidChar, same] at valid
    rcases valid with low | high
    · exact ⟨by omega, by omega⟩
    · exact ⟨by omega, by omega⟩

theorem scalars_of_isLabel (fits : isLabel label = true) : ∀ code ∈ label, IsScalar code := by
  simp only [isLabel, Bool.and_eq_true] at fits
  exact fun code inside => isScalar_of_isSettled (List.all_eq_true.mp fits.1.2 code inside)

/-- What a label of a text is read as. No sign comes in with an encoded label. -/
theorem isRead_of_readLabel? (read : readLabel? piece = some label) (absent : 0x2E ∉ piece) :
    IsRead label ∧ 0x2E ∉ label := by
  rw [readLabel?] at read
  split at read
  · split at read
    next plain =>
      obtain ⟨decoded, found, read⟩ := Option.bind_eq_some_iff.mp read
      split at read
      next => cases read
      next fits =>
        cases read
        rw [Bool.or_eq_true, not_or, Bool.not_eq_true, Bool.not_eq_true', Bool.not_eq_false] at fits
        refine ⟨.inr fits, fun inside => absent ?_⟩
        obtain ⟨char, among, same⟩ := mem_of_ofPunycode? found 0x2E inside (by decide)
        obtain ⟨code, here, rfl⟩ := List.mem_map.mp among
        have ascii := of_decide_eq_true (List.all_eq_true.mp ((Bool.and_eq_true _ _).mp plain).1 code
          (List.mem_of_mem_drop here))
        rw [Utf8.toNat_char ascii] at same
        rw [← same]
        exact List.mem_of_mem_drop here
    next => cases read
  next plainMark =>
    split at read
    next plain =>
      cases read
      exact ⟨.inl ⟨plain, Bool.eq_false_iff.mpr plainMark⟩, absent⟩
    next beyond =>
      split at read
      next fits =>
        cases read
        exact ⟨.inr ⟨Bool.eq_false_iff.mpr beyond, fits⟩, absent⟩
      next => cases read

theorem codeAlphabet_spec : ∀ char ∈ codeAlphabet, char.toNat < 0x80 ∧ char ≠ '.' :=
  List.all_iff_forall_prop.mp (by decide)

theorem mem_writeLabel (known : IsRead label) (absent : 0x2E ∉ label) :
    ∀ char ∈ writeLabel label, char.toNat < 0x80 ∧ char ≠ '.' := by
  have plain (code : Nat) (inside : code ∈ label) (low : code < 0x80) :
      (Char.ofNat code).toNat < 0x80 ∧ Char.ofNat code ≠ '.' := by
    have same := Utf8.toNat_char low
    refine ⟨by rw [same]; exact low, fun sign => absent ?_⟩
    rw [sign] at same
    rw [show 0x2E = code from same]
    exact inside
  intro char inside
  rw [writeLabel] at inside
  rcases known with ⟨low, _⟩ | ⟨beyond, fits⟩
  · rw [if_pos low] at inside
    obtain ⟨code, among, rfl⟩ := List.mem_map.mp inside
    exact plain code among (of_decide_eq_true (List.all_eq_true.mp low code among))
  · rw [if_neg (by rw [beyond]; decide)] at inside
    obtain ⟨numbers, _, written, alphabet, _⟩ := toPunycode_spec (scalars_of_isLabel fits)
    rw [written, List.mem_append, List.mem_append, List.mem_append] at inside
    rcases inside with mark | (basic | hyphen) | number
    · have signs : ∀ char ∈ "xn--".toList, char.toNat < 0x80 ∧ char ≠ '.' :=
        List.all_iff_forall_prop.mp (by decide)
      exact signs char mark
    · obtain ⟨code, among, rfl⟩ := List.mem_map.mp basic
      obtain ⟨among, low⟩ := List.mem_filter.mp among
      exact plain code among (of_decide_eq_true low)
    · split at hyphen
      · cases hyphen
      · rw [List.mem_singleton.mp hyphen]
        decide
    · exact codeAlphabet_spec char (alphabet char number)

theorem readLabel?_writeLabel (known : IsRead label) (absent : 0x2E ∉ label)
    (short : "xn--".toList <+: writeLabel label →
      (writeLabel label).length ≤ encodedMark.length + longestCode) :
    readLabel? (codesOf (writeLabel label)) = some label := by
  have ascii : (codesOf (writeLabel label)).all (· < 0x80) = true := by
    rw [List.all_eq_true]
    intro code inside
    obtain ⟨char, among, rfl⟩ := List.mem_map.mp inside
    exact decide_eq_true (mem_writeLabel known absent char among).1
  rcases known with ⟨low, plainMark⟩ | ⟨beyond, fits⟩
  · have written : codesOf (writeLabel label) = label := by
      rw [writeLabel, if_pos low, toNat_ofNat_of_plain low]
    rw [written, readLabel?, plainMark, if_pos low]
    rfl
  · have written : writeLabel label = "xn--".toList ++ toPunycode label := by
      rw [writeLabel, if_neg (by rw [beyond]; decide)]
    have codes : codesOf (writeLabel label) = encodedMark ++ codesOf (toPunycode label) := by
      rw [written, codesOf, List.map_append]
      rfl
    have marked : encodedMark.isPrefixOf (codesOf (writeLabel label)) = true := by
      rw [codes, List.isPrefixOf_iff_prefix]
      exact List.prefix_append _ _
    have length : (codesOf (writeLabel label)).length ≤ encodedMark.length + longestCode := by
      rw [codesOf, List.length_map]
      exact short (by rw [written]; exact List.prefix_append _ _)
    have decoded : ofPunycode? (((codesOf (writeLabel label)).drop 4).map Char.ofNat) = some label := by
      have rest : (codesOf (writeLabel label)).drop 4 = codesOf (toPunycode label) := by
        rw [codes]
        exact List.drop_left' rfl
      rw [rest, ofNat_codesOf, ofPunycode?_toPunycode (scalars_of_isLabel fits)]
    rw [readLabel?, if_pos marked, ascii, decoded]
    simp only [decide_eq_true length, Bool.true_and, if_true, bind, Option.bind_some, beyond, fits,
      Bool.not_true, Bool.or_false, Bool.false_eq_true, if_false]

theorem isPrefixOf_codesOf {text : List Char} :
    encodedMark.isPrefixOf (codesOf text) = true ↔ "xn--".toList <+: text := by
  rw [List.isPrefixOf_iff_prefix]
  constructor
  · intro marked
    have back := marked.map Char.ofNat
    rwa [ofNat_codesOf, encodedMark, ofNat_codesOf] at back
  · exact fun marked => marked.map Char.toNat

theorem readLabel?_eq_none {text : List Char} (marked : "xn--".toList <+: text)
    (long : ¬ text.length ≤ encodedMark.length + longestCode) : readLabel? (codesOf text) = none := by
  have length : decide ((codesOf text).length ≤ encodedMark.length + longestCode) = false := by
    rw [codesOf, List.length_map]
    exact decide_eq_false long
  rw [readLabel?, if_pos (isPrefixOf_codesOf.mpr marked), length, Bool.and_false]
  rfl

theorem readLabel?_of_plain {text : List Char} (ascii : ∀ char ∈ text, char.toNat < 0x80)
    (unmarked : ¬ "xn--".toList <+: text) :
    readLabel? (codesOf text) = some (codesOf text) ∧ writeLabel (codesOf text) = text := by
  have low : (codesOf text).all (· < 0x80) = true := by
    rw [codesOf, List.all_map, List.all_eq_true]
    exact fun char inside => decide_eq_true (ascii char inside)
  constructor
  · rw [readLabel?, if_neg (mt isPrefixOf_codesOf.mp unmarked), if_pos low]
  · rw [writeLabel, if_pos low, ofNat_codesOf]

theorem writeLabel_of_plain {text : List Char} (ascii : ∀ char ∈ text, char.toNat < 0x80)
    (unmarked : ¬ "xn--".toList <+: text) {known : List Nat}
    (read : readLabel? (codesOf text) = some known) : writeLabel known = text := by
  obtain ⟨same, written⟩ := readLabel?_of_plain ascii unmarked
  cases read.symm.trans same
  exact written

end Labels

section Names

variable {name written : List Char} {labels : List (List Nat)}

/-- What a name in its final form was made from: plain letters made small, or labels that
were read. -/
theorem toAscii?_cases (read : toAscii? name = some written) :
    (isPlain name = true ∧ written = name.map Char.toLower ∧ written.any isForbidden = false) ∨
      ∃ labels, WrittenAs labels written := by
  unfold toAscii? at read
  split at read
  next plain =>
    simp only [] at read
    split at read
    next => cases read
    next fits =>
      cases read
      exact .inl ⟨plain, rfl, Bool.eq_false_iff.mpr fits⟩
  next =>
    obtain ⟨mapped, _, read⟩ := Option.bind_eq_some_iff.mp read
    obtain ⟨labels, all, read⟩ := Option.bind_eq_some_iff.mp read
    split at read
    next => cases read
    next fits =>
      simp only [] at read
      split at read
      next => cases read
      next allowed =>
        cases read
        obtain ⟨length, found⟩ := mem_of_mapM all
        refine .inr ⟨labels, ?_, fun label inside => ?_, Bool.eq_false_iff.mpr fits, rfl,
          Bool.eq_false_iff.mpr allowed⟩
        · rintro rfl
          exact pieces_ne_nil mapped (List.eq_nil_of_length_eq_zero length.symm)
        · obtain ⟨piece, among, same⟩ := found label inside
          exact isRead_of_readLabel? same (mem_pieces among).1

theorem not_forbidden_of_toAscii? (read : toAscii? name = some written) :
    ∀ char ∈ written, isForbidden char = false := by
  intro char inside
  rcases toAscii?_cases read with ⟨_, _, allowed⟩ | ⟨labels, made⟩
  · simpa using List.any_eq_false.mp allowed char inside
  · have free := List.any_eq_false.mp made.allowed char inside
    rw [Bool.not_eq_true, Bool.or_eq_false_iff] at free
    exact free.1

theorem lower_of_ascii {char : Char} (ascii : char.toNat < 0x80) :
    char.toLower.toNat < 0x80 ∧ char.toLower.toLower = char.toLower ∧
      (char.isUpper = false → char.toLower = char) :=
  of_ascii ascii (by decide)

theorem toAscii?_of_small (small : name.map Char.toLower = name) (plain : isPlain name = true)
    (allowed : name.any isForbidden = false) : toAscii? name = some name := by
  rw [toAscii?, if_pos plain, small]
  exact if_neg (by rw [allowed]; decide)

theorem mapText?_of_small (ascii : ∀ char ∈ name, char.toNat < 0x80)
    (small : ∀ char ∈ name, char.toLower = char) : mapText? name = some (codesOf name) := by
  have each : name.mapM mapChar? = some (name.map fun char => [char.toNat]) := by
    induction name with
    | nil => rfl
    | cons char name ih =>
      obtain ⟨here, later⟩ := List.forall_mem_cons.mp ascii
      obtain ⟨same, others⟩ := List.forall_mem_cons.mp small
      rw [List.mapM_cons, mapChar?, if_pos here, same, ih later others]
      rfl
  have composed : compose (codesOf name) = codesOf name := by
    refine if_pos (List.all_eq_true.mpr fun code inside => ?_)
    obtain ⟨char, among, rfl⟩ := List.mem_map.mp inside
    exact decide_eq_true (ascii char among)
  have flat : (name.map fun char => [char.toNat]).flatten = codesOf name := by
    rw [← List.flatMap_def, codesOf, List.map_eq_flatMap]
  rw [mapText?, each, Option.map_some, flat, composed]

theorem pieces_codesOf (name : List Char) :
    pieces 0x2E (codesOf name) = (pieces '.' name).map codesOf := by
  have injective : Function.Injective Char.toNat := fun first second same => by
    rw [← Char.ofNat_toNat first, same, Char.ofNat_toNat]
  exact pieces_map injective '.' name

namespace WrittenAs

theorem mem (made : WrittenAs labels written) {char : Char} (inside : char ∈ written) :
    char.toNat < 0x80 ∧ char.toLower = char := by
  have ascii : char.toNat < 0x80 := by
    rw [made.same] at inside
    rcases mem_of_mem_intersperse inside with rfl | ⟨part, among, here⟩
    · decide
    · obtain ⟨label, known, rfl⟩ := List.mem_map.mp among
      obtain ⟨read, absent⟩ := made.read label known
      exact (mem_writeLabel read absent char here).1
  have free := List.any_eq_false.mp made.allowed char inside
  rw [Bool.not_eq_true, Bool.or_eq_false_iff] at free
  exact ⟨ascii, (lower_of_ascii ascii).2.2 free.2⟩

theorem pieces (made : WrittenAs labels written) :
    LoginGateway.pieces '.' written = labels.map writeLabel := by
  rw [made.same]
  refine pieces_intersperse (by simpa using made.some) fun part among sign => ?_
  obtain ⟨label, known, rfl⟩ := List.mem_map.mp among
  obtain ⟨read, absent⟩ := made.read label known
  exact (mem_writeLabel read absent '.' sign).2 rfl

end WrittenAs

theorem mem_of_toAscii? (read : toAscii? name = some written) :
    ∀ char ∈ written, char.toNat < 0x80 ∧ char.toLower = char := by
  intro char inside
  rcases toAscii?_cases read with ⟨plain, rfl, _⟩ | ⟨labels, made⟩
  · obtain ⟨other, among, rfl⟩ := List.mem_map.mp inside
    rw [isPlain, Bool.and_eq_true] at plain
    obtain ⟨ascii, small, _⟩ :=
      lower_of_ascii (of_decide_eq_true (List.all_eq_true.mp plain.1 other among))
    exact ⟨ascii, small⟩
  · exact made.mem inside

theorem lower_of_toAscii? (read : toAscii? name = some written) :
    written.map Char.toLower = written :=
  map_eq_self fun char inside => (mem_of_toAscii? read char inside).2

/-- A name in its final form is read as itself, if its encoded labels can still be read. -/
theorem toAscii?_of_toAscii? (read : toAscii? name = some written)
    (readable : HasReadableLabels written) : toAscii? written = some written := by
  by_cases plain : isPlain written = true
  · refine toAscii?_of_small (lower_of_toAscii? read) plain (List.any_eq_false.mpr fun char inside => ?_)
    rw [not_forbidden_of_toAscii? read char inside]
    decide
  · rcases toAscii?_cases read with ⟨before, rfl, _⟩ | ⟨labels, made⟩
    · refine absurd ?_ plain
      rw [isPlain, Bool.and_eq_true] at before ⊢
      rw [lower_of_toAscii? read]
      refine ⟨List.all_eq_true.mpr fun char inside => ?_, before.2⟩
      exact decide_eq_true (mem_of_toAscii? read char inside).1
    · have mapped := mapText?_of_small (fun char inside => (mem_of_toAscii? read char inside).1)
        fun char inside => (mem_of_toAscii? read char inside).2
      have codes : LoginGateway.pieces 0x2E (codesOf written) =
          labels.map (codesOf ∘ writeLabel) := by
        rw [pieces_codesOf, made.pieces, List.map_map]
      have again : (labels.map (codesOf ∘ writeLabel)).mapM readLabel? = some labels := by
        refine mapM_map fun label inside => ?_
        obtain ⟨known, absent⟩ := made.read label inside
        refine readLabel?_writeLabel known absent (readable _ ?_)
        rw [made.pieces]
        exact List.mem_map_of_mem inside
      rw [toAscii?, if_neg plain, mapped]
      simp only [bind, Option.bind_some, codes, again, made.fits, Bool.false_eq_true, if_false,
        ← made.same, made.allowed]

theorem hasReadableLabels_of_not_mem (absent : 'x' ∉ name) : HasReadableLabels name := by
  intro label among marked
  exact absurd ((mem_pieces among).2 'x' (marked.subset List.mem_cons_self)) absent

/-- A name with a longer label is none when it is read again. -/
theorem toAscii?_eq_none (read : toAscii? name = some written)
    (unreadable : ¬ HasReadableLabels written) : toAscii? written = none := by
  obtain ⟨label, unreadable⟩ := Classical.not_forall.mp unreadable
  obtain ⟨among, unreadable⟩ := Classical.not_imp.mp unreadable
  obtain ⟨marked, long⟩ := Classical.not_imp.mp unreadable
  have notPlain : ¬ isPlain written = true := by
    rw [isPlain, lower_of_toAscii? read, Bool.and_eq_true]
    intro ⟨_, unmarked⟩
    have here := List.all_eq_true.mp unmarked label among
    rw [List.isPrefixOf_iff_prefix.mpr marked] at here
    cases here
  have mapped := mapText?_of_small (fun char inside => (mem_of_toAscii? read char inside).1)
    fun char inside => (mem_of_toAscii? read char inside).2
  have fails := readLabel?_eq_none marked long
  have none : ((pieces '.' written).map codesOf).mapM readLabel? = none :=
    mapM_eq_none (List.mem_map_of_mem among) fails
  rw [toAscii?, if_neg notPlain, mapped]
  simp only [bind, Option.bind_some, pieces_codesOf, none, Option.bind_none]

end Names

end LoginGateway.Domain
