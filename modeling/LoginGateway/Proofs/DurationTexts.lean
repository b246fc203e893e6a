import LoginGateway.Proofs.OrderedDocuments

/-! The texts that a span of time is read from: a count, and the letters of its unit or none.
The unit is the longest that a text ends in, and a count ends in a digit. So a text counts in
one unit only, and it is read in that unit. -/

namespace LoginGateway

/-! Counts. -/

/-- Digits, one at least, and the number they stand for. -/
structure IsNumeral (digits : List Char) (number : Nat) : Prop where
  filled : digits ≠ []
  isDigit : ∀ digit ∈ digits, digit.isDigit = true
  value : Nat.ofDigitChars 10 digits 0 = number

instance (digits : List Char) (number : Nat) : Decidable (IsNumeral digits number) :=
  decidable_of_iff
    (digits ≠ [] ∧ digits.all Char.isDigit = true ∧ Nat.ofDigitChars 10 digits 0 = number)
    ⟨fun ⟨filled, isDigit, value⟩ => ⟨filled, List.all_eq_true.mp isDigit, value⟩,
      fun numeral => ⟨numeral.filled, List.all_eq_true.mpr numeral.isDigit, numeral.value⟩⟩

/-- A numeral with a plus sign in front of it, or with none. -/
inductive IsCount : List Char → Nat → Prop where
  | plain {digits : List Char} {number : Nat} (numeral : IsNumeral digits number) : IsCount digits number
  | signed {digits : List Char} {number : Nat} (numeral : IsNumeral digits number) :
      IsCount ('+' :: digits) number

section Counts

variable {text : List Char} {limit number : Nat}

theorem IsNumeral.unsigned (numeral : IsNumeral text number) : '+' ∉ text :=
  fun inside => absurd (numeral.isDigit '+' inside) (by decide)

theorem IsCount.of_signed (count : IsCount ('+' :: text) number) : IsNumeral text number := by
  cases count with
  | plain numeral => exact absurd List.mem_cons_self numeral.unsigned
  | signed numeral => exact numeral

theorem IsCount.unique {other : Nat} (count : IsCount text number) (again : IsCount text other) :
    number = other := by
  cases count with
  | plain numeral =>
    cases again with
    | plain same => exact numeral.value.symm.trans same.value
    | signed => exact absurd List.mem_cons_self numeral.unsigned
  | signed numeral => exact numeral.value.symm.trans again.of_signed.value

theorem IsCount.isDigit_last {front : List Char} {last : Char} (count : IsCount (front ++ [last]) number) :
    last.isDigit = true := by
  generalize whole : front ++ [last] = text at count
  cases count with
  | plain numeral => exact numeral.isDigit last (whole ▸ List.mem_append_right front List.mem_cons_self)
  | signed numeral =>
    cases front with
    | nil => exact absurd (List.cons.inj whole).2.symm numeral.filled
    | cons first rest =>
      have behind : rest ++ [last] = _ := (List.cons.inj whole).2
      exact numeral.isDigit last (behind ▸ List.mem_append_right rest List.mem_cons_self)

theorem le_ofDigitChars (digits : List Char) (value : Nat) : value ≤ Nat.ofDigitChars 10 digits value := by
  rw [Nat.ofDigitChars_eq_ofDigitChars_zero]
  exact Nat.le_add_right_of_le (Nat.le_mul_of_pos_left value (Nat.pow_pos (by decide)))

/-- Digits are counted to their end exactly if the number they lead up to is below the limit:
no number on the way is greater than the last. -/
theorem countFrom_eq_ok_iff {digits : List Char} {value : Nat} {excess : NumberFault}
    (below : value < limit) : countFrom limit excess value digits = .ok number ↔
      (∀ digit ∈ digits, digit.isDigit = true) ∧ Nat.ofDigitChars 10 digits value = number ∧
        number < limit := by
  induction digits generalizing value with
  | nil =>
    constructor
    · rintro ⟨⟩
      exact ⟨List.forall_mem_nil _, rfl, below⟩
    · rintro ⟨-, rfl, -⟩
      rfl
  | cons digit rest ih =>
    rw [List.forall_mem_cons, Nat.ofDigitChars_cons, Nat.mul_comm 10 value, countFrom]
    by_cases isDigit : digit.isDigit = true
    · simp only [isDigit, Bool.not_true, Bool.false_eq_true, if_false, true_and]
      split
      next fits => exact ih fits
      next exceeds =>
        refine ⟨nofun, fun ⟨_, same, fits⟩ => absurd ?_ exceeds⟩
        exact Nat.lt_of_le_of_lt (le_ofDigitChars rest _) (same ▸ fits)
    · simp only [isDigit, Bool.not_false, if_true]
      exact ⟨nofun, nofun⟩

theorem countFrom_zero_iff (filled : text ≠ []) (positive : 0 < limit) {excess : NumberFault} :
    countFrom limit excess 0 text = .ok number ↔ IsNumeral text number ∧ number < limit := by
  rw [countFrom_eq_ok_iff positive]
  constructor
  · rintro ⟨isDigit, value, fits⟩
    exact ⟨⟨filled, isDigit, value⟩, fits⟩
  · rintro ⟨numeral, fits⟩
    exact ⟨numeral.isDigit, numeral.value, fits⟩

/-- A number is read from a text exactly if the text counts it and it is below the limit. -/
theorem naturalBelow_eq_ok_iff (positive : 0 < limit) :
    naturalBelow limit text = .ok number ↔ IsCount text number ∧ number < limit := by
  unfold naturalBelow
  split
  next =>
    refine ⟨nofun, fun ⟨count, _⟩ => ?_⟩
    cases count with
    | plain numeral => exact absurd rfl numeral.filled
  next =>
    -- A plus sign alone: there are no digits behind it.
    refine ⟨nofun, fun ⟨count, _⟩ => ?_⟩
    exact absurd rfl count.of_signed.filled
  next digits alone =>
    have filled : digits ≠ [] := fun empty => alone (empty ▸ rfl)
    rw [countFrom_zero_iff filled positive]
    exact and_congr_left fun _ => ⟨.signed, IsCount.of_signed⟩
  next filled _ unsigned =>
    rw [countFrom_zero_iff filled positive]
    refine and_congr_left fun _ => ⟨.plain, fun count => ?_⟩
    cases count with
    | plain numeral => exact numeral
    | signed => exact absurd rfl (unsigned _)

theorem isNumeral_repr (number : Nat) : IsNumeral (toString number).toList number := by
  change IsNumeral (Nat.repr number).toList number
  rw [Nat.toList_repr]
  exact ⟨Nat.toDigits_ne_nil, fun _ => Nat.isDigit_of_mem_toDigits (by decide) (by decide),
    Nat.ofDigitChars_toDigits (by decide) (by decide)⟩

end Counts

namespace Duration

/-! Endings. -/

/-- What stands behind a count: the letters of a unit, or nothing. -/
inductive Ending where
  | none
  | seconds
  | minutes
  | milliseconds

namespace Ending

def letters : Ending → List Char
  | none => []
  | seconds => ['s']
  | minutes => ['m']
  | milliseconds => ['m', 's']

def nanoseconds : Ending → Nat
  | none => 1000000000
  | seconds => 1000000000
  | minutes => 60 * 1000000000
  | milliseconds => 1000000

theorem eq_of_letters {one other : Ending} (same : one.letters = other.letters) : one = other := by
  cases one <;> cases other <;> first | rfl | cases same

theorem isDigit_eq_false {ending : Ending} {letter : Char} (inside : letter ∈ ending.letters) :
    letter.isDigit = false := by
  have others : ending.letters.all (!·.isDigit) = true := by cases ending <;> rfl
  simpa using List.all_eq_true.mp others letter inside

end Ending

/-- A text is a count with this ending behind it. -/
def Counts (text : String) (ending : Ending) (count : Nat) : Prop :=
  ∃ digits, text.toList = digits ++ ending.letters ∧ IsCount digits count

variable {text : String} {duration : Duration} {ending other : Ending} {front digits : List Char}
  {count number : Nat}

/-- A count reaches up to any longer ending: a letter of that ending in the count would be its
last character, which is a digit. -/
theorem eq_of_longer (isCount : IsCount digits count)
    (same : digits ++ ending.letters = front ++ other.letters)
    (longer : ending.letters.length ≤ other.letters.length) : digits = front ∧ ending = other := by
  obtain ⟨between, letters⟩ := List.suffix_of_suffix_length_le
    (List.suffix_append digits ending.letters) ⟨front, same.symm⟩ longer
  have whole : digits = front ++ between := by
    rw [← letters, ← List.append_assoc] at same
    exact List.append_cancel_right same
  rcases List.eq_nil_or_concat between with rfl | ⟨rest, last, rfl⟩
  · exact ⟨whole.trans (List.append_nil front), Ending.eq_of_letters letters⟩
  · rw [List.concat_eq_append, ← List.append_assoc] at whole
    have digit : last.isDigit = true := IsCount.isDigit_last (whole ▸ isCount)
    have inside : last ∈ other.letters := letters ▸ by simp
    rw [Ending.isDigit_eq_false inside] at digit
    cases digit

theorem Counts.unique (counts : Counts text ending count) (again : Counts text other number) :
    ending = other ∧ count = number := by
  obtain ⟨digits, whole, isCount⟩ := counts
  obtain ⟨front, same, isNumber⟩ := again
  have matching : digits = front ∧ ending = other := by
    rcases Nat.le_total ending.letters.length other.letters.length with longer | shorter
    · exact eq_of_longer isCount (whole.symm.trans same) longer
    · exact (eq_of_longer isNumber (same.symm.trans whole) shorter).imp Eq.symm Eq.symm
  obtain ⟨rfl, rfl⟩ := matching
  exact ⟨rfl, isCount.unique isNumber⟩

/-! Spans. -/

def total (duration : Duration) : Nat := duration.seconds * 1000000000 + duration.nanoseconds

theorem total_eq : duration.total = duration.milliseconds * 1000000 := by
  simp only [total, seconds, nanoseconds]
  omega

theorem eq_of_total {one other : Duration} (same : one.total = other.total) : one = other := by
  obtain ⟨one⟩ := one
  obtain ⟨other⟩ := other
  simp only [total_eq] at same
  congr
  omega

theorem total_ofSeconds (count : Nat) : (ofSeconds count).total = count * 1000000000 := by
  simp only [total_eq, ofSeconds]
  omega

theorem nanoseconds_lt : duration.nanoseconds < 1000000000 := by
  simp only [nanoseconds]
  omega

/-! Reading. -/

theorem without?_eq_some_iff {letters text : List Char} :
    without? letters text = some front ↔ text = front ++ letters := by
  rw [without?]
  split
  next ends =>
    obtain ⟨before, rfl⟩ := List.isSuffixOf_iff_suffix.mp ends
    rw [List.length_append, Nat.add_sub_cancel, List.take_left' rfl, Option.some.injEq,
      List.append_left_inj]
  next ends =>
    refine ⟨nofun, ?_⟩
    rintro rfl
    exact absurd (List.isSuffixOf_iff_suffix.mpr (List.suffix_append front letters)) ends

theorem not_suffix_of_without? {letters text : List Char} (absent : without? letters text = none) :
    ¬ letters <:+ text := by
  rintro ⟨front, whole⟩
  rw [without?_eq_some_iff.mpr whole.symm] at absent
  cases absent

/-- A text is cut in front of the longest ending that it has. -/
structure Cut (text front : List Char) (ending : Ending) : Prop where
  whole : text = front ++ ending.letters
  longest : ∀ other : Ending, other.letters <:+ text → other.letters.length ≤ ending.letters.length

theorem Cut.eq_of_count {text : List Char} (cut : Cut text front ending)
    (isCount : IsCount digits count) (whole : text = digits ++ other.letters) :
    digits = front ∧ other = ending :=
  eq_of_longer isCount (whole.symm.trans cut.whole) (cut.longest other ⟨digits, whole.symm⟩)

/-- What a text is read as: the number in front of its longest ending, in the unit of that. -/
theorem exists_cut (text : String) : ∃ front ending, Cut text.toList front ending ∧
    ∃ span : Nat → Duration, (∀ count, (span count).total = count * ending.nanoseconds) ∧
      read text = (naturalBelow UInt64.size front).map span := by
  unfold read
  dsimp only
  split
  next front milliseconds =>
    refine ⟨front, .milliseconds, ⟨without?_eq_some_iff.mp milliseconds, ?_⟩, _, ?_, rfl⟩
    · intro other _
      cases other <;> decide
    · exact fun count => total_eq
  next front milliseconds seconds =>
    -- An `s` is the end of `ms` as well: it is one of seconds because `ms` was not there.
    refine ⟨front, .seconds, ⟨without?_eq_some_iff.mp seconds, ?_⟩, _, total_ofSeconds, rfl⟩
    intro other ends
    cases other with
    | milliseconds => exact absurd ends (not_suffix_of_without? milliseconds)
    | _ => decide
  next front milliseconds seconds minutes =>
    refine ⟨front, .minutes, ⟨without?_eq_some_iff.mp minutes, ?_⟩, _, ?_, rfl⟩
    · intro other ends
      cases other with
      | milliseconds => exact absurd ends (not_suffix_of_without? milliseconds)
      | _ => decide
    · exact fun count => (total_ofSeconds _).trans (Nat.mul_assoc count 60 _)
  next milliseconds seconds minutes =>
    refine ⟨text.toList, .none, ⟨(List.append_nil _).symm, ?_⟩, _, total_ofSeconds, rfl⟩
    intro other ends
    cases other with
    | milliseconds => exact absurd ends (not_suffix_of_without? milliseconds)
    | seconds => exact absurd ends (not_suffix_of_without? seconds)
    | minutes => exact absurd ends (not_suffix_of_without? minutes)
    | none => decide

theorem read_of_counts (counts : Counts text ending count) (fits : count < UInt64.size) :
    ∃ duration, read text = .ok duration ∧ duration.total = count * ending.nanoseconds := by
  obtain ⟨digits, whole, isCount⟩ := counts
  obtain ⟨front, last, cut, span, total, same⟩ := exists_cut text
  obtain ⟨rfl, rfl⟩ := cut.eq_of_count isCount whole
  have number := (naturalBelow_eq_ok_iff (by decide)).mpr ⟨isCount, fits⟩
  exact ⟨span count, same.trans (map_eq_ok.mpr ⟨count, number, rfl⟩), total count⟩

theorem counts_of_read (found : read text = .ok duration) : ∃ ending count,
    Counts text ending count ∧ count < UInt64.size ∧ duration.total = count * ending.nanoseconds := by
  obtain ⟨front, ending, cut, span, total, same⟩ := exists_cut text
  obtain ⟨count, number, rfl⟩ := map_eq_ok.mp (same.symm.trans found)
  obtain ⟨isCount, fits⟩ := (naturalBelow_eq_ok_iff (by decide)).mp number
  exact ⟨ending, count, ⟨front, cut.whole, isCount⟩, fits, total count⟩

theorem seconds_lt_of_read (found : read text = .ok duration)
    (fits : ∀ count, Counts text .minutes count → count * 60 < UInt64.size) :
    duration.seconds < UInt64.size := by
  obtain ⟨ending, count, counts, below, total⟩ := counts_of_read found
  have whole : duration.seconds * 1000000000 ≤ count * ending.nanoseconds :=
    total ▸ Nat.le_add_right _ _
  cases ending with
  | minutes =>
    have sixty := fits count counts
    simp only [Ending.nanoseconds] at whole
    omega
  | _ =>
    simp only [Ending.nanoseconds] at whole
    omega

end Duration

namespace Settings
open Duration

theorem readTimeout_of_text {document : Document} {text : String} (given : readText document = .ok text) :
    readTimeout document =
      (Duration.read text).mapError fun fault => ⟨.number fault, document.origin, []⟩ := by
  simp only [readTimeout, given, bind, Except.bind]
  cases Duration.read text <;> rfl

/-- A timeout is read from a text exactly if the text is a count below the limit of 64 bits with
or without a unit behind it, and lasts exactly so many of that unit; and no text counts in two
units, or two numbers of one. Minutes whose seconds do not fit into 64 bits are left out. -/
theorem timeout_texts {document : Document} {text : String} (given : readText document = .ok text)
    (fits : ∀ count, Counts text .minutes count → count * 60 < UInt64.size) :
    ((∃ duration, readTimeout document = .ok duration) ↔
      ∃ ending count, Counts text ending count ∧ count < UInt64.size) ∧
    (∀ duration ending count, readTimeout document = .ok duration → Counts text ending count →
      duration.seconds * 1000000000 + duration.nanoseconds = count * ending.nanoseconds ∧
      duration.seconds < UInt64.size ∧ duration.nanoseconds < 1000000000) ∧
    ∀ ending other count number, Counts text ending count → Counts text other number →
      ending = other ∧ count = number := by
  have readable (duration : Duration) :
      readTimeout document = .ok duration ↔ Duration.read text = .ok duration := by
    rw [readTimeout_of_text given, mapError_eq_ok]
  refine ⟨⟨?_, ?_⟩, ?_, fun _ _ _ _ counts again => counts.unique again⟩
  · rintro ⟨duration, found⟩
    obtain ⟨ending, count, counts, below, -⟩ := counts_of_read ((readable duration).mp found)
    exact ⟨ending, count, counts, below⟩
  · rintro ⟨ending, count, counts, below⟩
    obtain ⟨duration, found, -⟩ := read_of_counts counts below
    exact ⟨duration, (readable duration).mpr found⟩
  · intro duration ending count found counts
    have read := (readable duration).mp found
    obtain ⟨other, number, again, -, total⟩ := counts_of_read read
    obtain ⟨rfl, rfl⟩ := counts.unique again
    exact ⟨total, seconds_lt_of_read read fits, nanoseconds_lt⟩

/-- The most minutes, with a sign and a zero in front; the most thousandths; one second too many. -/
theorem timeout_texts_of_limits :
    let minutes : Document := .scalar .variables (.text "+0307445734561825860m")
    let thousandths : Document := .scalar .variables (.text "18446744073709551615ms")
    let seconds : Document := .scalar .variables (.text "18446744073709551616s")
    readText minutes = .ok "+0307445734561825860m" ∧
      (∀ count, Counts "+0307445734561825860m" .minutes count → count * 60 < UInt64.size) ∧
      (∃ duration, readTimeout minutes = .ok duration ∧
        duration.seconds = 18446744073709551600 ∧ duration.nanoseconds = 0) ∧
      (∃ duration, readTimeout thousandths = .ok duration ∧
        duration.seconds = 18446744073709551 ∧ duration.nanoseconds = 615000000) ∧
      ¬ ∃ duration, readTimeout seconds = .ok duration := by
  intro minutes thousandths seconds
  have minutesGiven : readText minutes = .ok "+0307445734561825860m" := rfl
  have thousandthsGiven : readText thousandths = .ok "18446744073709551615ms" := rfl
  have secondsGiven : readText seconds = .ok "18446744073709551616s" := rfl
  have sixty : Counts "+0307445734561825860m" .minutes 307445734561825860 :=
    ⟨"+0307445734561825860".toList, by decide, .signed (by decide)⟩
  have most : Counts "18446744073709551615ms" .milliseconds 18446744073709551615 :=
    ⟨"18446744073709551615".toList, by decide, .plain (by decide)⟩
  have more : Counts "18446744073709551616s" .seconds 18446744073709551616 :=
    ⟨"18446744073709551616".toList, by decide, .plain (by decide)⟩
  have fits (count : Nat) (counts : Counts "+0307445734561825860m" .minutes count) :
      count * 60 < UInt64.size := by
    obtain ⟨-, rfl⟩ := sixty.unique counts
    decide
  obtain ⟨minutesRead, minutesLast, -⟩ := timeout_texts minutesGiven fits
  obtain ⟨thousandthsRead, thousandthsLast, -⟩ := timeout_texts thousandthsGiven
    fun _ counts => nomatch (most.unique counts).1
  obtain ⟨secondsRead, -⟩ := timeout_texts secondsGiven fun _ counts => nomatch (more.unique counts).1
  refine ⟨minutesGiven, fits, ?_, ?_, ?_⟩
  · obtain ⟨duration, found⟩ := minutesRead.mpr ⟨_, _, sixty, by decide⟩
    obtain ⟨total, -, below⟩ := minutesLast _ _ _ found sixty
    simp only [Ending.nanoseconds] at total
    exact ⟨duration, found, by omega⟩
  · obtain ⟨duration, found⟩ := thousandthsRead.mpr ⟨_, _, most, by decide⟩
    obtain ⟨total, -, below⟩ := thousandthsLast _ _ _ found most
    simp only [Ending.nanoseconds] at total
    exact ⟨duration, found, by omega⟩
  · intro found
    obtain ⟨ending, count, counts, below⟩ := secondsRead.mp found
    obtain ⟨-, rfl⟩ := more.unique counts
    exact absurd below (by decide)

end Settings

end LoginGateway
