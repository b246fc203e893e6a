import LoginGateway.Proofs.Cutting
import LoginGateway.Proofs.JsonGrammar

/-! The grammar of numbers. A number that nobody reads is passed over if it is written well,
whatever its size; where it ends shows only in the octet behind it. -/

namespace LoginGateway.Json

def IsDigits (octets : Octets) : Prop := octets ≠ [] ∧ ∀ octet ∈ octets, isDigit octet = true

/-- The digits before the point, which begin with a zero only if it stands alone. -/
inductive IsWhole : Octets → Prop where
  | zero : IsWhole [48]
  | digits {first : UInt8} {others : Octets} (digit : isDigit first = true) (other : first ≠ 48)
      (digits : ∀ octet ∈ others, isDigit octet = true) : IsWhole (first :: others)

/-- A point and the digits behind it, if there are any. -/
inductive IsFraction : Octets → Prop where
  | none : IsFraction []
  | point {digits : Octets} (isDigits : IsDigits digits) : IsFraction (46 :: digits)

/-- The letter of an exponent with its sign and digits, if there is one. -/
inductive IsExponent : Octets → Prop where
  | none : IsExponent []
  | letter {letter : UInt8} {sign digits : Octets} (marks : letter = 101 ∨ letter = 69)
      (signs : sign = [] ∨ sign = [43] ∨ sign = [45]) (isDigits : IsDigits digits) :
      IsExponent (letter :: (sign ++ digits))

inductive IsNumber : Octets → Prop where
  | mk {sign whole fraction exponent : Octets} (signs : sign = [] ∨ sign = [45])
      (isWhole : IsWhole whole) (isFraction : IsFraction fraction) (isExponent : IsExponent exponent) :
      IsNumber (sign ++ (whole ++ (fraction ++ exponent)))

/-- No number goes on with these octets. -/
def Stops (rest : Octets) : Prop :=
  ∀ octet ∈ rest.head?, isDigit octet = false ∧ octet ≠ 46 ∧ octet ≠ 101 ∧ octet ≠ 69

variable {source rest : Octets}

theorem Stops.noDigit (stops : Stops rest) : ∀ octet ∈ rest.head?, isDigit octet = false :=
  fun octet here => (stops octet here).1

theorem skipDigits_append {digits : Octets} (isDigits : ∀ octet ∈ digits, isDigit octet = true)
    (ends : ∀ octet ∈ rest.head?, isDigit octet = false) : (skipDigits (digits ++ rest)).1 = rest := by
  change (digits ++ rest).dropWhile isDigit = rest
  rw [List.dropWhile_append_of_pos isDigits, dropWhile_of_head ends]

theorem exists_digits (source : Octets) : ∃ digits, source = digits ++ (skipDigits source).1 ∧
    ∀ octet ∈ digits, isDigit octet = true :=
  ⟨source.takeWhile isDigit, List.takeWhile_append_dropWhile.symm, List.all_eq_true.mp List.all_takeWhile⟩

theorem exists_digits_of_head (starts : source.head?.any isDigit = true) :
    ∃ digits, source = digits ++ (skipDigits source).1 ∧ IsDigits digits := by
  cases source with
  | nil => cases starts
  | cons first tail =>
    obtain ⟨digits, whole, each⟩ := exists_digits tail
    have behind : (skipDigits (first :: tail)).1 = (skipDigits tail).1 :=
      List.dropWhile_cons_of_pos starts
    exact ⟨first :: digits, by rw [behind, List.cons_append, ← whole], List.cons_ne_nil _ _,
      List.forall_mem_cons.mpr ⟨starts, each⟩⟩

theorem any_isDigit_eq_false (ends : ∀ octet ∈ source.head?, isDigit octet = false) :
    ¬ source.head?.any isDigit = true := by
  cases source with
  | nil => decide
  | cons first tail =>
    have other : isDigit first = false := ends first rfl
    simp [other]

theorem IsDigits.head (isDigits : IsDigits source) : ∃ first others, source = first :: others ∧
    isDigit first = true ∧ ∀ octet ∈ others, isDigit octet = true := by
  obtain ⟨some, digits⟩ := isDigits
  obtain ⟨first, others, rfl⟩ := List.exists_cons_of_ne_nil some
  exact ⟨first, others, rfl, List.forall_mem_cons.mp digits⟩

theorem ne_of_isDigit {octet : UInt8} (digit : isDigit octet = true) :
    octet ≠ 43 ∧ octet ≠ 45 ∧ octet ≠ 46 ∧ octet ≠ 101 ∧ octet ≠ 69 := by
  refine ⟨?_, ?_, ?_, ?_, ?_⟩ <;> rintro rfl <;> cases digit

theorem exists_sign (source : Octets) : ∃ sign, source = sign ++ (exponentSign source).2.1 ∧
    (sign = [] ∨ sign = [43] ∨ sign = [45]) := by
  cases source with
  | nil => exact ⟨[], rfl, .inl rfl⟩
  | cons first tail =>
    rw [exponentSign]
    split
    next plus => exact ⟨[43], by rw [plus]; rfl, .inr (.inl rfl)⟩
    split
    next minus => exact ⟨[45], by rw [minus]; rfl, .inr (.inr rfl)⟩
    next => exact ⟨[], rfl, .inl rfl⟩

theorem exponentSign_of_digit {sign others : Octets} {first : UInt8} (digit : isDigit first = true)
    (signs : sign = [] ∨ sign = [43] ∨ sign = [45]) :
    (exponentSign (sign ++ first :: others)).2.1 = first :: others := by
  rcases signs with rfl | rfl | rfl
  · rw [List.nil_append, exponentSign, if_neg (ne_of_isDigit digit).1, if_neg (ne_of_isDigit digit).2.1]
  · rfl
  · rfl

theorem passes_skipExponent {sign digits : Octets} (signs : sign = [] ∨ sign = [43] ∨ sign = [45])
    (isDigits : IsDigits digits) (ends : ∀ octet ∈ rest.head?, isDigit octet = false) :
    Passes (skipExponent (sign ++ (digits ++ rest))) rest := by
  obtain ⟨first, others, rfl, digit, later⟩ := isDigits.head
  have left : (exponentSign (sign ++ first :: (others ++ rest))).2.1 = first :: (others ++ rest) :=
    exponentSign_of_digit digit signs
  rw [List.cons_append, skipExponent]
  split
  next up unsigned bound same =>
    rw [same] at left
    subst left
    dsimp only
    rw [if_pos digit, passes_ok_iff]
    exact skipDigits_append (List.forall_mem_cons.mpr ⟨digit, later⟩) ends

theorem of_skipExponent (passed : Passes (skipExponent source) rest) : ∃ sign digits,
    source = sign ++ (digits ++ rest) ∧ (sign = [] ∨ sign = [43] ∨ sign = [45]) ∧ IsDigits digits := by
  obtain ⟨sign, whole, signs⟩ := exists_sign source
  rw [skipExponent] at passed
  split at passed
  next up unsigned bound same =>
    rw [same] at whole
    cases unsigned with
    | nil => exact absurd passed not_passes_error
    | cons first tail =>
      dsimp only at passed whole
      split at passed
      next digit =>
        obtain rfl := passes_ok_iff.mp passed
        have starts : (first :: tail).head?.any isDigit = true := digit
        obtain ⟨digits, same, isDigits⟩ := exists_digits_of_head starts
        exact ⟨sign, digits, whole.trans (congrArg _ same), signs, isDigits⟩
      next => exact absurd passed not_passes_error

theorem IsExponent.noDigit {exponent : Octets} (isExponent : IsExponent exponent) (stops : Stops rest) :
    ∀ octet ∈ (exponent ++ rest).head?, isDigit octet = false := by
  cases isExponent with
  | none => exact stops.noDigit
  | letter marks =>
    rintro _ ⟨⟩
    rcases marks with rfl | rfl <;> rfl

theorem IsFraction.noDigit {fraction exponent : Octets} (isFraction : IsFraction fraction)
    (isExponent : IsExponent exponent) (stops : Stops rest) :
    ∀ octet ∈ (fraction ++ (exponent ++ rest)).head?, isDigit octet = false := by
  cases isFraction with
  | none => exact isExponent.noDigit stops
  | point =>
    rintro _ ⟨⟩
    rfl

theorem passes_skipExponentPart {exponent : Octets} (isExponent : IsExponent exponent)
    (stops : Stops rest) : Passes (skipExponentPart (exponent ++ rest)) rest := by
  cases isExponent with
  | none =>
    cases rest with
    | nil => exact Passes.ok _
    | cons octet tail =>
      obtain ⟨_, _, lower, upper⟩ := stops octet rfl
      rw [List.nil_append, skipExponentPart, if_neg (by simp [lower, upper])]
      exact Passes.ok _
  | letter marks signs isDigits =>
    rw [List.cons_append, List.append_assoc, skipExponentPart, if_pos (by simpa using marks)]
    exact (passes_skipExponent signs isDigits stops.noDigit).moved fun _ => rfl

theorem of_skipExponentPart (passed : Passes (skipExponentPart source) rest) :
    ∃ exponent, source = exponent ++ rest ∧ IsExponent exponent := by
  cases source with
  | nil =>
    obtain rfl := passes_ok_iff.mp passed
    exact ⟨[], rfl, .none⟩
  | cons letter tail =>
    rw [skipExponentPart] at passed
    split at passed
    next marks =>
      obtain ⟨sign, digits, rfl, signs, isDigits⟩ := of_skipExponent (passed.of_moved fun _ => rfl)
      exact ⟨letter :: (sign ++ digits), by simp, .letter (by simpa using marks) signs isDigits⟩
    next =>
      obtain rfl := passes_ok_iff.mp passed
      exact ⟨[], rfl, .none⟩

theorem skipNumberTail_of_head (noPoint : ∀ octet ∈ source.head?, octet ≠ 46) :
    skipNumberTail source = skipExponentPart source := by
  cases source with
  | nil => rfl
  | cons letter tail => rw [skipNumberTail, if_neg (noPoint letter rfl)]

theorem passes_skipNumberTail {fraction exponent : Octets} (isFraction : IsFraction fraction)
    (isExponent : IsExponent exponent) (stops : Stops rest) :
    Passes (skipNumberTail (fraction ++ (exponent ++ rest))) rest := by
  have passed := passes_skipExponentPart isExponent stops
  cases isFraction with
  | none =>
    have noPoint : ∀ octet ∈ (exponent ++ rest).head?, octet ≠ 46 := by
      cases isExponent with
      | none => exact fun octet here => (stops octet here).2.1
      | letter marks =>
        rintro _ ⟨⟩ rfl
        rcases marks with same | same <;> cases same
    rw [List.nil_append, skipNumberTail_of_head noPoint]
    exact passed
  | point isDigits =>
    obtain ⟨first, others, rfl, digit, each⟩ := isDigits.head
    have behind : Passes (skipExponentPart (skipDigits (first :: others ++ (exponent ++ rest))).1) rest := by
      rw [skipDigits_append (List.forall_mem_cons.mpr ⟨digit, each⟩) (isExponent.noDigit stops)]
      exact passed
    rw [List.cons_append, skipNumberTail, if_pos rfl, if_pos (by simpa using digit)]
    exact behind.moved fun _ => rfl

theorem of_skipNumberTail (passed : Passes (skipNumberTail source) rest) : ∃ fraction exponent,
    source = fraction ++ (exponent ++ rest) ∧ IsFraction fraction ∧ IsExponent exponent := by
  cases source with
  | nil =>
    obtain rfl := passes_ok_iff.mp passed
    exact ⟨[], [], rfl, .none, .none⟩
  | cons letter tail =>
    rw [skipNumberTail] at passed
    split at passed
    next point =>
      split at passed
      next digit =>
        have fractionLeft : Passes (skipExponentPart (skipDigits tail).1) rest :=
          passed.of_moved fun _ => rfl
        obtain ⟨exponent, left, isExponent⟩ := of_skipExponentPart fractionLeft
        obtain ⟨digits, whole, isDigits⟩ := exists_digits_of_head digit
        exact ⟨46 :: digits, exponent, by rw [point, List.cons_append, ← left, ← whole],
          .point isDigits, isExponent⟩
      next => exact absurd passed not_passes_error
    next =>
      obtain ⟨exponent, whole, isExponent⟩ := of_skipExponentPart passed
      exact ⟨[], exponent, whole, .none, isExponent⟩

theorem passes_skipNumber {whole fraction exponent : Octets} (isWhole : IsWhole whole)
    (isFraction : IsFraction fraction) (isExponent : IsExponent exponent) (stops : Stops rest) :
    Passes (skipNumber (whole ++ (fraction ++ (exponent ++ rest)))) rest := by
  have passed := passes_skipNumberTail isFraction isExponent stops
  have noDigit := isFraction.noDigit isExponent stops
  cases isWhole with
  | zero =>
    rw [List.cons_append, List.nil_append, skipNumber, if_pos rfl, if_neg (any_isDigit_eq_false noDigit)]
    exact passed.moved fun _ => rfl
  | @digits first others digit other each =>
    have behind :
        Passes (skipNumberTail (skipDigits (others ++ (fraction ++ (exponent ++ rest)))).1) rest := by
      rw [skipDigits_append each noDigit]
      exact passed
    rw [List.cons_append, skipNumber, if_neg other, if_pos digit]
    exact behind.moved fun _ => rfl

theorem of_skipNumber (passed : Passes (skipNumber source) rest) : ∃ whole fraction exponent,
    source = whole ++ (fraction ++ (exponent ++ rest)) ∧ IsWhole whole ∧ IsFraction fraction ∧
      IsExponent exponent := by
  cases source with
  | nil => exact absurd passed not_passes_error
  | cons first tail =>
    rw [skipNumber] at passed
    split at passed
    next zero =>
      split at passed
      next => exact absurd passed not_passes_error
      next =>
        obtain ⟨fraction, exponent, rfl, isFraction, isExponent⟩ :=
          of_skipNumberTail (passed.of_moved fun _ => rfl)
        exact ⟨[48], fraction, exponent, by rw [zero]; rfl, .zero, isFraction, isExponent⟩
    next other =>
      split at passed
      next digit =>
        have wholeLeft : Passes (skipNumberTail (skipDigits tail).1) rest := passed.of_moved fun _ => rfl
        obtain ⟨fraction, exponent, left, isFraction, isExponent⟩ := of_skipNumberTail wholeLeft
        obtain ⟨digits, whole, each⟩ := exists_digits tail
        exact ⟨first :: digits, fraction, exponent, by rw [List.cons_append, ← left, ← whole],
          .digits digit other each, isFraction, isExponent⟩
      next => exact absurd passed not_passes_error

end LoginGateway.Json
