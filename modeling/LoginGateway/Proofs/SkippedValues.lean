import LoginGateway.Proofs.JsonNumbers
import LoginGateway.Proofs.JsonRecords

/-! The grammar of values, and that the reader that passes over a value takes exactly what
it allows. The reader keeps the open brackets on a stack and has no value in hand until the
last of them closes, so what it still demands of the octets behind an inner value is said
for the whole stack at once. -/

namespace LoginGateway.Json

def Blanks (octets : Octets) : Prop := ∀ octet ∈ octets, isBlank octet = true

/-- Items, each written as a text, with blanks around them and commas between them. -/
inductive Spaced {α : Type} (writes : α → Octets → Prop) : List α → Octets → Prop where
  | none {blanks : Octets} (blank : Blanks blanks) : Spaced writes [] blanks
  | one {item : α} {before text after : Octets} (blank : Blanks before) (written : writes item text)
      (blank' : Blanks after) : Spaced writes [item] (before ++ (text ++ after))
  | more {item next : α} {others : List α} {before text after behind : Octets} (blank : Blanks before)
      (written : writes item text) (blank' : Blanks after) (spaced : Spaced writes (next :: others) behind) :
      Spaced writes (item :: next :: others) (before ++ (text ++ (after ++ 44 :: behind)))

/-- What stands behind an item up to the end: blanks, or a comma and these other items. -/
inductive Trails {α : Type} (writes : α → Octets → Prop) : List α → Octets → Prop where
  | none {blanks : Octets} (blank : Blanks blanks) : Trails writes [] blanks
  | more {item : α} {others : List α} {blanks inside : Octets} (blank : Blanks blanks)
      (spaced : Spaced writes (item :: others) inside) :
      Trails writes (item :: others) (blanks ++ 44 :: inside)

/-- A member: what stands between the quotes of its name, a colon and a value. -/
inductive IsMember : Octets × Octets → Octets → Prop where
  | mk {name value before after : Octets} (blank : Blanks before) (blank' : Blanks after) :
      IsMember (name, value) (34 :: (name ++ 34 :: (before ++ 58 :: (after ++ value))))

inductive IsScalar : Octets → Prop where
  | null : IsScalar [110, 117, 108, 108]
  | true : IsScalar [116, 114, 117, 101]
  | false : IsScalar [102, 97, 108, 115, 101]
  | string {body : Octets} (isBody : IsBody body) : IsScalar (34 :: (body ++ [34]))
  | number {text : Octets} (isNumber : IsNumber text) : IsScalar text

/-- A value that nobody reads, without blanks around it. -/
inductive Written : Octets → Prop where
  | scalar {text : Octets} (isScalar : IsScalar text) : Written text
  | list {items : List Octets} {inside : Octets} (written : ∀ item ∈ items, Written item)
      (spaced : Spaced Eq items inside) : Written (91 :: (inside ++ [93]))
  | object {members : List (Octets × Octets)} {inside : Octets}
      (names : ∀ member ∈ members, IsBody member.1) (values : ∀ member ∈ members, Written member.2)
      (spaced : Spaced IsMember members inside) : Written (123 :: (inside ++ [125]))

variable {source rest last : Octets}

theorem skipBlanks_append {before : Octets} {octet : UInt8} (blank : Blanks before)
    (visible : isBlank octet = false) : skipBlanks (before ++ octet :: rest) = octet :: rest := by
  rw [skipBlanks, List.dropWhile_append_of_pos blank]
  exact skipBlanks_visible visible rest

theorem of_skipBlanks (starts : skipBlanks source = rest) :
    ∃ before, Blanks before ∧ source = before ++ rest :=
  ⟨source.takeWhile isBlank, List.all_eq_true.mp List.all_takeWhile,
    starts ▸ List.takeWhile_append_dropWhile.symm⟩

theorem word_iff {letters : Octets} : Passes (word letters source) rest ↔ source = letters ++ rest := by
  induction letters generalizing source with
  | nil => exact passes_ok_iff
  | cons letter letters ih =>
    cases source with
    | nil => exact ⟨nofun, nofun⟩
    | cons octet tail =>
      rw [word]
      split
      next same =>
        rw [same, List.cons_append, List.cons_inj_right, ← ih]
        exact ⟨fun passed => passed.of_moved fun _ => rfl, fun passed => passed.moved fun _ => rfl⟩
      next other => exact ⟨nofun, fun same => absurd (List.cons.inj same).1 other⟩

/-! ## Values without parts -/

def Frame.opens : Frame → UInt8
  | .list => 91
  | .object => 123

/-- Neither a blank nor a bracket that closes. -/
def StartsItem (octet : UInt8) : Prop := isBlank octet = false ∧ octet ≠ 93 ∧ octet ≠ 125

instance : DecidablePred StartsItem := fun _ => inferInstanceAs (Decidable (_ ∧ _))

theorem StartsItem.ne_close {octet : UInt8} (starts : StartsItem octet) (frame : Frame) :
    octet ≠ frame.close :=
  match frame with
  | .list => starts.2.1
  | .object => starts.2.2

theorem startsItem_of_digit {octet : UInt8} (digit : isDigit octet = true) :
    StartsItem octet ∧ octet ≠ 91 ∧ octet ≠ 123 := by
  refine ⟨⟨?_, ?_, ?_⟩, ?_, ?_⟩
  · apply Bool.eq_false_iff.mpr
    intro blank
    simp only [isBlank, Bool.or_eq_true, decide_eq_true_eq] at blank
    rcases blank with ((rfl | rfl) | rfl) | rfl <;> cases digit
  all_goals
    rintro rfl
    cases digit

theorem IsScalar.head {text : Octets} (isScalar : IsScalar text) : ∃ octet tail, text = octet :: tail ∧
    StartsItem octet ∧ octet ≠ 91 ∧ octet ≠ 123 := by
  cases isScalar with
  | null => exact ⟨110, _, rfl, by decide⟩
  | true => exact ⟨116, _, rfl, by decide⟩
  | false => exact ⟨102, _, rfl, by decide⟩
  | string isBody => exact ⟨34, _, rfl, by decide⟩
  | number isNumber =>
    cases isNumber with
    | mk signs isWhole =>
      rcases signs with rfl | rfl
      · cases isWhole with
        | zero => exact ⟨48, _, rfl, startsItem_of_digit rfl⟩
        | @digits first _ digit => exact ⟨first, _, rfl, startsItem_of_digit digit⟩
      · exact ⟨45, _, rfl, by decide⟩

theorem skipScalar_digit {octet : UInt8} {tail : Octets} (digit : isDigit octet = true)
    (passed : Passes (skipNumber (octet :: tail)) rest) : Passes (skipScalar octet tail) rest := by
  have ne : octet ≠ 110 ∧ octet ≠ 116 ∧ octet ≠ 102 ∧ octet ≠ 34 ∧ octet ≠ 45 := by
    refine ⟨?_, ?_, ?_, ?_, ?_⟩ <;> rintro rfl <;> cases digit
  obtain ⟨notN, notT, notF, notQuote, notSign⟩ := ne
  rw [skipScalar, if_neg notN, if_neg notT, if_neg notF, if_neg notQuote, if_neg notSign, if_pos digit]
  exact passed.moved fun _ => rfl

/-- A value without parts is passed over, if what follows does not go on with a number. -/
theorem passes_skipScalar {octet : UInt8} {tail : Octets} (isScalar : IsScalar (octet :: tail))
    (stops : Stops rest) : Passes (skipScalar octet (tail ++ rest)) rest := by
  generalize whole : octet :: tail = text at isScalar
  cases isScalar with
  | null =>
    cases whole
    exact word_iff.mpr rfl
  | true =>
    cases whole
    exact word_iff.mpr rfl
  | false =>
    cases whole
    exact word_iff.mpr rfl
  | string isBody =>
    cases whole
    exact skipString_iff.mpr ⟨_, by simp, isBody⟩
  | number isNumber =>
    cases isNumber with
    | @mk sign wholePart fraction exponent signs isWhole isFraction isExponent =>
      have passed := passes_skipNumber isWhole isFraction isExponent stops
      rcases signs with rfl | rfl
      · have same : octet :: (tail ++ rest) = wholePart ++ (fraction ++ (exponent ++ rest)) := by
          rw [← List.cons_append, whole]
          simp
        have digit : isDigit octet = true := by
          cases isWhole with
          | zero =>
            cases whole
            rfl
          | digits digit =>
            cases whole
            exact digit
        rw [← same] at passed
        exact skipScalar_digit digit passed
      · rw [List.singleton_append] at whole
        obtain ⟨rfl, rfl⟩ := List.cons.inj whole
        rw [List.append_assoc, List.append_assoc]
        exact passed.moved fun _ => rfl

theorem of_skipScalar {octet : UInt8} {tail : Octets} (passed : Passes (skipScalar octet tail) rest) :
    ∃ text, octet :: tail = text ++ rest ∧ IsScalar text := by
  unfold skipScalar at passed
  split at passed
  next same => exact ⟨_, by rw [same, word_iff.mp passed]; rfl, .null⟩
  split at passed
  next same => exact ⟨_, by rw [same, word_iff.mp passed]; rfl, .true⟩
  split at passed
  next same => exact ⟨_, by rw [same, word_iff.mp passed]; rfl, .false⟩
  split at passed
  next same =>
    obtain ⟨body, rfl, isBody⟩ := skipString_iff.mp passed
    exact ⟨34 :: (body ++ [34]), by simp [same], .string isBody⟩
  split at passed
  next same =>
    obtain ⟨whole, fraction, exponent, rfl, isWhole, isFraction, isExponent⟩ :=
      of_skipNumber (passed.of_moved fun _ => rfl)
    exact ⟨_, by simp [same], .number (.mk (.inr rfl) isWhole isFraction isExponent)⟩
  split at passed
  next =>
    obtain ⟨whole, fraction, exponent, same, isWhole, isFraction, isExponent⟩ :=
      of_skipNumber (passed.of_moved fun _ => rfl)
    exact ⟨_, by simp [same], .number (.mk (.inl rfl) isWhole isFraction isExponent)⟩
  next => exact absurd passed not_passes_error

/-! ## Brackets -/

/-- What may stand between commas inside a bracket. -/
def IsElement : Frame → Octets → Prop
  | .list, text => Written text
  | .object, text => ∃ member, (IsBody member.1 ∧ Written member.2) ∧ IsMember member text

/-- What may stand inside a bracket that is not empty. -/
def Elements (frame : Frame) (inside : Octets) : Prop :=
  ∃ first others, (∀ text ∈ first :: others, IsElement frame text) ∧ Spaced Eq (first :: others) inside

section Spaced
variable {α : Type} {writes : α → Octets → Prop} {items : List α} {item : α} {others : List α}
  {inside : Octets}

/-- Texts that each write something fit are as many such things, spaced in the same way. -/
theorem Spaced.exists_items {texts : List Octets} {fit : α → Prop} (spaced : Spaced Eq texts inside)
    (each : ∀ text ∈ texts, ∃ item, fit item ∧ writes item text) : ∃ items : List α,
      items.length = texts.length ∧ (∀ item ∈ items, fit item) ∧ Spaced writes items inside := by
  induction spaced with
  | none blank => exact ⟨[], rfl, nofun, .none blank⟩
  | one blank same blank' =>
    cases same
    obtain ⟨item, isFit, written⟩ := each _ (List.mem_singleton_self _)
    exact ⟨[item], rfl, List.forall_mem_singleton.mpr isFit, .one blank written blank'⟩
  | more blank same blank' spaced ih =>
    cases same
    obtain ⟨⟨item, isFit, written⟩, others⟩ := List.forall_mem_cons.mp each
    obtain ⟨made, size, fits, behind⟩ := ih others
    obtain ⟨next, others, rfl⟩ := List.exists_cons_of_length_eq_add_one size
    exact ⟨item :: next :: others, congrArg (· + 1) size, List.forall_mem_cons.mpr ⟨isFit, fits⟩,
      .more blank written blank' behind⟩

theorem Blanks.append {before after : Octets} (blank : Blanks before) (blank' : Blanks after) :
    Blanks (before ++ after) :=
  List.forall_mem_append.mpr ⟨blank, blank'⟩

theorem Spaced.behind_blanks {before : Octets} (blank : Blanks before)
    (spaced : Spaced writes (item :: others) inside) :
    Spaced writes (item :: others) (before ++ inside) := by
  cases spaced with
  | one blank' written blank'' =>
    rw [← List.append_assoc]
    exact .one (blank.append blank') written blank''
  | more blank' written blank'' spaced =>
    rw [← List.append_assoc]
    exact .more (blank.append blank') written blank'' spaced

theorem Spaced.from_first (spaced : Spaced writes (item :: others) inside) : ∃ before text behind,
    Blanks before ∧ writes item text ∧ inside = before ++ (text ++ behind) ∧
      Spaced writes (item :: others) (text ++ behind) := by
  have nothing : Blanks [] := nofun
  cases spaced with
  | one blank written blank' =>
    exact ⟨_, _, _, blank, written, rfl, .one nothing written blank'⟩
  | more blank written blank' spaced =>
    exact ⟨_, _, _, blank, written, rfl, .more nothing written blank' spaced⟩

theorem Trails.spaced {before text after : Octets} (trails : Trails writes others after)
    (blank : Blanks before) (written : writes item text) :
    Spaced writes (item :: others) (before ++ (text ++ after)) := by
  cases trails with
  | none blank' => exact .one blank written blank'
  | more blank' spaced => exact .more blank written blank' spaced

end Spaced

theorem Spaced.written {frame : Frame} {texts : List Octets} {inside : Octets}
    (spaced : Spaced Eq texts inside) (each : ∀ text ∈ texts, IsElement frame text) :
    Written (frame.opens :: (inside ++ [frame.close])) := by
  cases frame with
  | list => exact .list each spaced
  | object =>
    obtain ⟨members, _, fits, spaced⟩ := spaced.exists_items each
    exact .object (fun member inside => (fits member inside).1)
      (fun member inside => (fits member inside).2) spaced

theorem IsElement.head {frame : Frame} {text : Octets} (element : IsElement frame text) :
    ∃ octet tail, text = octet :: tail ∧ StartsItem octet := by
  cases frame with
  | list =>
    cases element with
    | scalar isScalar =>
      obtain ⟨octet, tail, same, starts, _⟩ := isScalar.head
      exact ⟨octet, tail, same, starts⟩
    | list => exact ⟨91, _, rfl, by decide⟩
    | object => exact ⟨123, _, rfl, by decide⟩
  | object =>
    obtain ⟨member, _, isMember⟩ := element
    cases isMember
    exact ⟨34, _, rfl, by decide⟩

/-! ## What the reader does next -/

/-- With these brackets open, and an element of the innermost one next, the reader comes
to its end with `last` left. -/
def Finishes : List Frame → Octets → Octets → Prop
  | [], source, last => source = last
  | frame :: below, source, last =>
    ∃ next, Passes (enter frame source) next ∧ Passes (skipWithin (frame :: below) next) last

/-- With these brackets open, behind an element of the innermost one or, where it is
fresh, behind the bracket itself, the reader comes to its end with `last` left. -/
def Resumes (fresh : Bool) (stack : List Frame) (source last : Octets) : Prop :=
  ∃ stack' rest, Leaves (leave fresh stack source) stack' rest ∧ Finishes stack' rest last

variable {fresh : Bool} {frame : Frame} {stack below : List Frame}

theorem resumes_nil : Resumes fresh [] source last ↔ source = last := by
  constructor
  · rintro ⟨_, _, ⟨_, left⟩, finishes⟩
    rw [leave] at left
    cases left
    exact finishes
  · intro same
    refine ⟨[], source, ?_, same⟩
    rw [leave]
    exact Leaves.ok _ _

theorem Resumes.comma {tail : Octets} (starts : skipBlanks source = 44 :: tail)
    (finishes : Finishes (frame :: below) tail last) : Resumes false (frame :: below) source last := by
  refine ⟨_, _, ?_, finishes⟩
  rw [leave]
  split
  next empty => cases starts.symm.trans empty
  next same =>
    obtain ⟨rfl, rfl⟩ := List.cons.inj (starts.symm.trans same)
    rw [if_pos ⟨rfl, rfl⟩]
    exact Leaves.ok _ _

theorem Resumes.close {tail : Octets} (starts : skipBlanks source = frame.close :: tail)
    (resumes : Resumes false below tail last) : Resumes fresh (frame :: below) source last := by
  obtain ⟨stack', rest, ⟨_, left⟩, finishes⟩ := resumes
  refine ⟨_, _, ?_, finishes⟩
  have other : frame.close ≠ 44 := by cases frame <;> decide
  rw [leave]
  split
  next empty => cases starts.symm.trans empty
  next same =>
    obtain ⟨rfl, rfl⟩ := List.cons.inj (starts.symm.trans same)
    rw [if_neg (fun both => other both.1), if_pos rfl, left]
    exact Leaves.ok _ _

theorem Resumes.first {octet : UInt8} {tail : Octets} (starts : skipBlanks source = octet :: tail)
    (other : octet ≠ frame.close) (finishes : Finishes (frame :: below) (octet :: tail) last) :
    Resumes true (frame :: below) source last := by
  refine ⟨_, _, ?_, finishes⟩
  rw [leave]
  split
  next empty => cases starts.symm.trans empty
  next same =>
    obtain ⟨rfl, rfl⟩ := List.cons.inj (starts.symm.trans same)
    rw [if_neg (fun both => absurd both.2 (by decide)), if_neg other, if_pos rfl]
    exact Leaves.ok _ _

/-- Inside a bracket a comma comes next, or the bracket closes, or it has only opened. -/
theorem Resumes.cases (resumes : Resumes fresh (frame :: below) source last) :
    (fresh = false ∧ ∃ tail, skipBlanks source = 44 :: tail ∧ Finishes (frame :: below) tail last) ∨
    (∃ tail, skipBlanks source = frame.close :: tail ∧ Resumes false below tail last) ∨
    (fresh = true ∧ ∃ octet tail, skipBlanks source = octet :: tail ∧
      Finishes (frame :: below) (octet :: tail) last) := by
  obtain ⟨stack', rest, ⟨_, left⟩, finishes⟩ := resumes
  rw [leave] at left
  split at left
  next => cases left
  next octet tail starts =>
    split at left
    next comma =>
      cases left
      exact .inl ⟨by simpa using comma.2, tail, by rw [starts, comma.1], finishes⟩
    split at left
    next close =>
      obtain ⟨⟨stack', rest, bound⟩, below, same⟩ := bind_eq_ok.mp left
      cases same
      exact .inr (.inl ⟨tail, by rw [starts, close], stack', rest, ⟨bound, below⟩, finishes⟩)
    split at left
    next isFresh =>
      cases left
      exact .inr (.inr ⟨isFresh, octet, tail, starts, finishes⟩)
    next => cases left

theorem passes_colon_iff : Passes (colon source) rest ↔ skipBlanks source = 58 :: rest := by
  constructor
  · intro passed
    unfold colon at passed
    split at passed
    next => exact absurd passed not_passes_error
    next octet tail starts =>
      split at passed
      next sign =>
        obtain rfl : tail = rest := passes_ok_iff.mp passed
        rw [starts, sign]
      next => exact absurd passed not_passes_error
  · intro starts
    obtain ⟨_, read⟩ := colon_of starts
    rw [read]
    exact Passes.ok _

theorem passes_enter_object_iff : Passes (enter .object source) rest ↔ ∃ before name after,
    Blanks before ∧ IsBody name ∧ Blanks after ∧
      source = before ++ 34 :: (name ++ 34 :: (after ++ 58 :: rest)) := by
  constructor
  · intro passed
    unfold enter at passed
    dsimp only at passed
    split at passed
    next => exact absurd passed not_passes_error
    next octet tail starts =>
      split at passed
      next quote =>
        obtain ⟨⟨named, bound⟩, read, behind⟩ := passes_bind_iff.mp passed
        obtain ⟨name, rfl, isBody⟩ := skipString_iff.mp ⟨bound, read⟩
        have sign : Passes (colon named) rest := behind.of_moved fun _ => rfl
        obtain ⟨after, blank', rfl⟩ := of_skipBlanks (passes_colon_iff.mp sign)
        obtain ⟨before, blank, rfl⟩ := of_skipBlanks starts
        exact ⟨before, name, after, blank, isBody, blank', by rw [quote]⟩
      next => exact absurd passed not_passes_error
  · rintro ⟨before, name, after, blank, isBody, blank', rfl⟩
    have sign : Passes (colon (after ++ 58 :: rest)) rest :=
      passes_colon_iff.mpr (skipBlanks_append blank' rfl)
    obtain ⟨_, named⟩ := skipString_iff.mpr ⟨name, rfl, isBody⟩
    unfold enter
    dsimp only
    split
    next empty => cases (skipBlanks_append blank rfl).symm.trans empty
    next same =>
      obtain ⟨rfl, rfl⟩ := List.cons.inj ((skipBlanks_append blank rfl).symm.trans same)
      rw [if_pos rfl, named]
      exact sign.moved fun _ => rfl

/-- Behind brackets that were left it is settled what the reader comes to. -/
theorem resumes_iff_bind {kept : Octets → Prop}
    {joint : List Frame × Left source → Except Fault { rest : Octets // kept rest }}
    (joins : ∀ stack' left, Passes (joint (stack', left)) last ↔ Finishes stack' left.1 last) :
    Passes (leave fresh stack source >>= joint) last ↔ Resumes fresh stack source last := by
  rw [passes_bind_iff]
  constructor
  · rintro ⟨⟨stack', left⟩, read, passed⟩
    exact ⟨stack', left.1, ⟨left.2, read⟩, (joins stack' left).mp passed⟩
  · rintro ⟨stack', rest, ⟨bound, read⟩, finishes⟩
    exact ⟨(stack', ⟨rest, bound⟩), read, (joins stack' ⟨rest, bound⟩).mpr finishes⟩

theorem passes_skipWithin_iff {octet : UInt8} {tail : Octets} (starts : skipBlanks source = octet :: tail) :
    Passes (skipWithin stack source) last ↔
      (octet = 91 ∧ Resumes true (.list :: stack) tail last) ∨
      (octet = 123 ∧ Resumes true (.object :: stack) tail last) ∨
      (octet ≠ 91 ∧ octet ≠ 123 ∧
        ∃ rest, Passes (skipScalar octet tail) rest ∧ Resumes false stack rest last) := by
  rw [skipWithin]
  split
  next empty => cases starts.symm.trans empty
  next same =>
    obtain ⟨rfl, rfl⟩ := List.cons.inj (starts.symm.trans same)
    extract_lets less joint
    have joins (stack' : List Frame) (left : Left tail) :
        Passes (joint (stack', left)) last ↔ Finishes stack' left.1 last := by
      cases stack' with
      | nil => exact passes_ok_iff
      | cons frame below =>
        constructor
        · intro passed
          obtain ⟨⟨next, bound⟩, entered, behind⟩ := passes_bind_iff.mp passed
          exact ⟨next, ⟨bound, entered⟩, behind.of_moved fun _ => rfl⟩
        · rintro ⟨next, ⟨bound, entered⟩, behind⟩
          exact passes_bind_iff.mpr ⟨⟨next, bound⟩, entered, behind.moved fun _ => rfl⟩
    split
    next list =>
      rw [resumes_iff_bind joins]
      simp [list]
    split
    next object =>
      rw [resumes_iff_bind joins]
      simp [object]
    next noList noObject =>
      simp only [noList, noObject, false_and, false_or, ne_eq, not_false_eq_true, true_and]
      rw [passes_bind_iff]
      constructor
      · rintro ⟨⟨between, bound⟩, skipped, passed⟩
        refine ⟨between, ⟨bound, skipped⟩, (resumes_iff_bind (fun stack' left => ?_)).mp passed⟩
        exact joins stack' (left.after bound)
      · rintro ⟨between, ⟨bound, skipped⟩, resumes⟩
        refine ⟨⟨between, bound⟩, skipped, (resumes_iff_bind (fun stack' left => ?_)).mpr resumes⟩
        exact joins stack' (left.after bound)

theorem passes_skipWithin_opens {tail : Octets} (starts : skipBlanks source = frame.opens :: tail) :
    Passes (skipWithin stack source) last ↔ Resumes true (frame :: stack) tail last := by
  rw [passes_skipWithin_iff starts]
  cases frame <;> simp [Frame.opens]

/-! ## What is written well is passed over -/

theorem stops_of_starts {octet : UInt8} {tail : Octets} (starts : skipBlanks source = octet :: tail)
    (ends : octet = 44 ∨ ∃ frame : Frame, octet = frame.close) : Stops source := by
  obtain ⟨before, blank, rfl⟩ := of_skipBlanks starts
  cases before with
  | nil =>
    rintro _ ⟨⟩
    rcases ends with rfl | ⟨_ | _, rfl⟩ <;> decide
  | cons first others =>
    rintro _ ⟨⟩
    have first := blank first List.mem_cons_self
    simp only [isBlank, Bool.or_eq_true, decide_eq_true_eq] at first
    rcases first with ((rfl | rfl) | rfl) | rfl <;> decide

theorem Resumes.stops (resumes : Resumes false (frame :: below) source last) : Stops source := by
  rcases resumes.cases with ⟨_, tail, starts, _⟩ | ⟨tail, starts, _⟩ | ⟨other, _⟩
  · exact stops_of_starts starts (.inl rfl)
  · exact stops_of_starts starts (.inr ⟨frame, rfl⟩)
  · cases other

section Items
variable {α : Type} {writes : α → Octets → Prop} {items : List α} {inside : Octets}

/-- Items inside brackets are passed over one by one, if each of them is. -/
theorem Spaced.finishes (spaced : Spaced writes items inside) (some : items ≠ [])
    (each : ∀ item ∈ items, ∀ before text behind, Blanks before → writes item text →
      Resumes false (frame :: below) behind last →
      Finishes (frame :: below) (before ++ (text ++ behind)) last)
    (resumes : Resumes false below rest last) :
    Finishes (frame :: below) (inside ++ frame.close :: rest) last := by
  have visible : isBlank frame.close = false := by cases frame <;> rfl
  induction spaced with
  | none => exact absurd rfl some
  | one blank written blank' =>
    rw [List.append_assoc, List.append_assoc]
    exact each _ (List.mem_singleton_self _) _ _ _ blank written
      (.close (skipBlanks_append blank' visible) resumes)
  | more blank written blank' _ ih =>
    obtain ⟨first, others⟩ := List.forall_mem_cons.mp each
    rw [List.append_assoc, List.append_assoc, List.append_assoc, List.cons_append]
    exact first _ _ _ blank written
      (.comma (skipBlanks_append blank' rfl) (ih (List.cons_ne_nil _ _) others))

theorem Spaced.passes (frame : Frame) {before : Octets} (spaced : Spaced writes items inside)
    (heads : ∀ item ∈ items, ∀ text, writes item text → IsElement frame text)
    (each : ∀ item ∈ items, ∀ before text behind, Blanks before → writes item text →
      Resumes false (frame :: stack) behind last →
      Finishes (frame :: stack) (before ++ (text ++ behind)) last)
    (blank : Blanks before) (resumes : Resumes false stack rest last) :
    Passes (skipWithin stack (before ++ (frame.opens :: (inside ++ [frame.close]) ++ rest))) last := by
  have opened : isBlank frame.opens = false := by cases frame <;> rfl
  have closed : isBlank frame.close = false := by cases frame <;> rfl
  rw [List.cons_append, List.append_assoc, List.singleton_append,
    passes_skipWithin_opens (skipBlanks_append blank opened)]
  cases items with
  | nil =>
    cases spaced with
    | none blank' => exact .close (skipBlanks_append blank' closed) resumes
  | cons first others =>
    obtain ⟨before', text, behind, blank', written, rfl, fromFirst⟩ := spaced.from_first
    obtain ⟨octet, tail, rfl, starts⟩ := (heads first List.mem_cons_self text written).head
    have finishes := fromFirst.finishes (List.cons_ne_nil _ _) each resumes
    rw [List.append_assoc, List.cons_append, List.cons_append]
    exact .first (skipBlanks_append blank' starts.1) (starts.ne_close frame) finishes

end Items

/-- A value that is written well is passed over up to what follows it. -/
theorem Written.passes {text before : Octets} (written : Written text) (blank : Blanks before)
    (stops : Stops rest) (resumes : Resumes false stack rest last) :
    Passes (skipWithin stack (before ++ (text ++ rest))) last := by
  -- Inside a bracket what follows an element stops a number: only of the outermost value
  -- has it to be asked for.
  induction written generalizing before stack rest with
  | scalar isScalar =>
    obtain ⟨octet, tail, rfl, starts, noList, noObject⟩ := isScalar.head
    rw [List.cons_append, passes_skipWithin_iff (skipBlanks_append blank starts.1)]
    exact .inr (.inr ⟨noList, noObject, rest, passes_skipScalar isScalar stops, resumes⟩)
  | list written spaced ih =>
    refine spaced.passes .list ?heads ?each blank resumes
    case heads =>
      rintro item inside _ rfl
      exact written item inside
    case each =>
      rintro item inside before _ behind blank rfl resumes
      exact ⟨_, Passes.ok _, ih item inside blank resumes.stops resumes⟩
  | object names values spaced ih =>
    refine spaced.passes .object ?heads ?each blank resumes
    case heads =>
      intro member inside text isMember
      exact ⟨member, ⟨names member inside, values member inside⟩, isMember⟩
    case each =>
      rintro _ inside before _ behind blank ⟨blank', blank''⟩ resumes
      refine ⟨_, ?_, ih _ inside blank'' resumes.stops resumes⟩
      exact passes_enter_object_iff.mpr ⟨before, _, _, blank, names _ inside, blank', by simp⟩

/-! ## What is passed over is written well -/

/-- All these brackets close, one after the other, and `last` is left. -/
def Closes : List Frame → Octets → Octets → Prop
  | [], source, last => source = last
  | frame :: below, source, last =>
    ∃ texts after rest, source = after ++ frame.close :: rest ∧ (∀ text ∈ texts, IsElement frame text) ∧
      Trails Eq texts after ∧ Closes below rest last

/-- A value stands here, behind blanks, and all that follows it belongs to the open brackets. -/
def Begins (stack : List Frame) (source last : Octets) : Prop :=
  ∃ before text rest, source = before ++ (text ++ rest) ∧ Blanks before ∧ Written text ∧
    Closes stack rest last

def SoundBelow (size : Nat) : Prop :=
  ∀ source stack last, source.length < size → Passes (skipWithin stack source) last →
    Begins stack source last

theorem Finishes.elements {size : Nat} (sound : SoundBelow size) (short : source.length < size)
    (finishes : Finishes (frame :: below) source last) : ∃ inside rest,
      source = inside ++ frame.close :: rest ∧ Elements frame inside ∧ Closes below rest last := by
  obtain ⟨next, entered, passed⟩ := finishes
  have ⟨before, text, rest, whole, blank, element, closes⟩ : ∃ before text rest,
      source = before ++ (text ++ rest) ∧ Blanks before ∧ IsElement frame text ∧
        Closes (frame :: below) rest last := by
    cases frame with
    | list =>
      obtain rfl : source = next := passes_ok_iff.mp entered
      exact sound _ _ _ short passed
    | object =>
      obtain ⟨before, name, after, blank, isBody, blank', rfl⟩ := passes_enter_object_iff.mp entered
      obtain ⟨before', text, rest, rfl, blank'', written, closes⟩ :=
        sound next _ _ (by simp at short; omega) passed
      exact ⟨before, _, rest, by simp, blank, ⟨(name, text), ⟨isBody, written⟩, .mk blank' blank''⟩, closes⟩
  obtain ⟨others, after, rest', rfl, each, trails, closes⟩ := closes
  exact ⟨before ++ (text ++ after), rest', by simp [whole],
    ⟨text, others, List.forall_mem_cons.mpr ⟨element, each⟩, trails.spaced blank rfl⟩, closes⟩

theorem Resumes.closes {size : Nat} (sound : SoundBelow size) (short : source.length < size)
    (resumes : Resumes false stack source last) : Closes stack source last := by
  induction stack generalizing source with
  | nil => exact resumes_nil.mp resumes
  | cons frame below ih =>
    rcases resumes.cases with ⟨_, tail, starts, finishes⟩ | ⟨tail, starts, closed⟩ | ⟨other, _⟩
    · obtain ⟨before, blank, rfl⟩ := of_skipBlanks starts
      obtain ⟨inside, rest, rfl, ⟨first, others, each, spaced⟩, closes⟩ :=
        finishes.elements sound (by simp at short; omega)
      exact ⟨first :: others, before ++ 44 :: inside, rest, by simp, each, .more blank spaced, closes⟩
    · obtain ⟨before, blank, rfl⟩ := of_skipBlanks starts
      exact ⟨[], before, tail, rfl, nofun, .none blank, ih (by simp at short; omega) closed⟩
    · cases other

theorem Resumes.begins (frame : Frame) {size : Nat} {tail : Octets} (sound : SoundBelow size)
    (starts : skipBlanks source = frame.opens :: tail) (short : source.length < size + 1)
    (resumes : Resumes true (frame :: stack) tail last) : Begins stack source last := by
  obtain ⟨before, blank, rfl⟩ := of_skipBlanks starts
  rcases resumes.cases with ⟨other, _⟩ | ⟨behind, starts, closed⟩ | ⟨_, octet, behind, starts, finishes⟩
  · cases other
  · obtain ⟨inside, blank', rfl⟩ := of_skipBlanks starts
    have written : Written (frame.opens :: (inside ++ [frame.close])) :=
      (Spaced.none blank').written nofun
    exact ⟨before, _, behind, by simp, blank, written, closed.closes sound (by simp at short; omega)⟩
  · obtain ⟨blanks, blank', rfl⟩ := of_skipBlanks starts
    obtain ⟨inside, rest, whole, ⟨first, others, each, spaced⟩, closes⟩ :=
      finishes.elements sound (by simp at short ⊢; omega)
    have written := (spaced.behind_blanks blank').written each
    exact ⟨before, _, rest, by simp [whole], blank, written, closes⟩

theorem soundBelow (size : Nat) : SoundBelow size := by
  -- The reader has one loop for all brackets, so the value to begin with may end in a later
  -- round: the induction is on what is left, with every stack at once.
  induction size with
  | zero => exact fun _ _ _ short => absurd short (Nat.not_lt_zero _)
  | succ size sound =>
    intro source stack last short passed
    cases starts : skipBlanks source with
    | nil =>
      rw [skipWithin] at passed
      split at passed
      next => exact absurd passed not_passes_error
      next same => cases starts.symm.trans same
    | cons octet tail =>
      rcases (passes_skipWithin_iff starts).mp passed with
        ⟨rfl, resumes⟩ | ⟨rfl, resumes⟩ | ⟨_, _, rest, skipped, resumes⟩
      · exact resumes.begins .list sound starts short
      · exact resumes.begins .object sound starts short
      · obtain ⟨before, blank, rfl⟩ := of_skipBlanks starts
        obtain ⟨text, whole, isScalar⟩ := of_skipScalar skipped
        obtain ⟨_, text, rfl, _⟩ := isScalar.head
        obtain ⟨rfl, rfl⟩ := List.cons.inj whole
        have closes := resumes.closes sound (by simp at short; omega)
        exact ⟨before, _, rest, rfl, blank, .scalar isScalar, closes⟩

theorem passes_skipValue {text before : Octets} (written : Written text) (blank : Blanks before)
    (stops : Stops rest) : Passes (skipValue (before ++ (text ++ rest))) rest :=
  written.passes blank stops (resumes_nil.mpr rfl)

theorem of_skipValue (passed : Passes (skipValue source) rest) :
    ∃ before text, source = before ++ (text ++ rest) ∧ Blanks before ∧ Written text := by
  obtain ⟨before, text, behind, whole, blank, written, rfl⟩ :=
    soundBelow _ source [] rest (Nat.lt_succ_self _) passed
  exact ⟨before, text, whole, blank, written⟩

end LoginGateway.Json
