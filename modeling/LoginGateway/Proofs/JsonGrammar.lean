import LoginGateway.Json.Skip
import LoginGateway.Proofs.Base64Strictness
import LoginGateway.Proofs.JsonStrings
import LoginGateway.Proofs.Utf8Strictness
import Mathlib.Data.Nat.Init

/-! The grammar of strings, and that their two readers take exactly what it allows: the one
for strings that are wanted, which comes to a text, and the one that passes over them. -/

namespace LoginGateway.Json

/-- A reader passed over something and left `rest`. -/
def Passes {kept : Octets → Prop} (result : Except Fault { rest : Octets // kept rest })
    (rest : Octets) : Prop :=
  ∃ holds, result = .ok ⟨rest, holds⟩

theorem Passes.ok {kept : Octets → Prop} (left : { rest : Octets // kept rest }) :
    Passes (.ok left) left.1 := ⟨left.2, rfl⟩

theorem passes_ok_iff {kept : Octets → Prop} {left : { rest : Octets // kept rest }} {rest : Octets} :
    Passes (.ok left) rest ↔ left.1 = rest := by
  constructor
  · rintro ⟨_, same⟩
    cases same
    rfl
  · rintro rfl
    exact Passes.ok left

theorem not_passes_error {kept : Octets → Prop} {fault : Fault} {rest : Octets} :
    ¬ Passes (.error fault : Except Fault { rest : Octets // kept rest }) rest := nofun

theorem passes_bind_iff {α : Type} {kept : Octets → Prop} {first : Except Fault α}
    {next : α → Except Fault { rest : Octets // kept rest }} {rest : Octets} :
    Passes (first >>= next) rest ↔ ∃ value, first = .ok value ∧ Passes (next value) rest := by
  cases first with
  | error fault => exact ⟨nofun, nofun⟩
  | ok value => exact ⟨fun passed => ⟨value, rfl, passed⟩, fun ⟨_, rfl, passed⟩ => passed⟩

section Moved
variable {kept kept' : Octets → Prop} {first : Except Fault { rest : Octets // kept rest }}
  {move : { rest : Octets // kept rest } → { rest : Octets // kept' rest }} {rest : Octets}

theorem Passes.moved (passed : Passes first rest) (same : ∀ left, (move left).1 = left.1) :
    Passes (first >>= fun left => .ok (move left)) rest := by
  obtain ⟨holds, rfl⟩ := passed
  exact passes_ok_iff.mpr (same _)

theorem Passes.of_moved (passed : Passes (first >>= fun left => .ok (move left)) rest)
    (same : ∀ left, (move left).1 = left.1) : Passes first rest := by
  obtain ⟨left, rfl, moved⟩ := passes_bind_iff.mp passed
  exact passes_ok_iff.mpr ((same left).symm.trans (passes_ok_iff.mp moved))

end Moved

/-- Four hexadecimal digits and the number that they write. -/
def IsUnit (digits : Octets) (code : Nat) : Prop :=
  ∃ a b c d w x y z, digits = [a, b, c, d] ∧ hexValue? a = some w ∧ hexValue? b = some x ∧
    hexValue? c = some y ∧ hexValue? d = some z ∧ code = ((w * 16 + x) * 16 + y) * 16 + z

/-- An escape without its backslash, and the octets it stands for: a letter for one octet,
the number of a character, or the two surrogates of a character. -/
inductive Escape : Octets → Octets → Prop where
  | short {letter octet : UInt8} (found : shortEscape? letter = some octet) : Escape [letter] [octet]
  | unit {digits : Octets} {code : Nat} (hex : IsUnit digits code)
      (scalar : code < 0xD800 ∨ 0xDFFF < code) :
      Escape (117 :: digits) (Utf8.encode [Char.ofNat code])
  | pair {first second : Octets} {high low : Nat} (hex : IsUnit first high) (hex' : IsUnit second low)
      (leads : 0xD800 ≤ high ∧ high ≤ 0xDBFF) (trails : 0xDC00 ≤ low ∧ low ≤ 0xDFFF) :
      Escape (117 :: (first ++ 92 :: 117 :: second)) (Utf8.encode [pairChar high low])

/-- What stands between the quotes of a string, and the octets it stands for. -/
inductive Means : Octets → Octets → Prop where
  | nil : Means [] []
  | literal {octet : UInt8} {body bytes : Octets} (plain : isLiteral octet) (others : Means body bytes) :
      Means (octet :: body) (octet :: bytes)
  | escape {front part body bytes : Octets} (escape : Escape front part) (others : Means body bytes) :
      Means (92 :: (front ++ body)) (part ++ bytes)

/-- What stands between the quotes of a string with this text. -/
def Spells (text : String) (body : Octets) : Prop := Means body (octets text)

/-- What may stand between the quotes of a string that nobody reads. -/
inductive IsBody : Octets → Prop where
  | nil : IsBody []
  | literal {octet : UInt8} {body : Octets} (plain : isLiteral octet) (others : IsBody body) :
      IsBody (octet :: body)
  | short {letter : UInt8} {body : Octets} (found : (shortEscape? letter).isSome) (others : IsBody body) :
      IsBody (92 :: letter :: body)
  | unit {digits body : Octets} {code : Nat} (hex : IsUnit digits code) (others : IsBody body) :
      IsBody (92 :: 117 :: (digits ++ body))

variable {source rest : Octets}

theorem hexUnit_iff {code : Nat} : Takes (hexUnit source) code rest ↔
    ∃ digits, source = digits ++ rest ∧ IsUnit digits code := by
  constructor
  · rintro ⟨less, read⟩
    unfold hexUnit at read
    split at read
    next a b c d tail =>
      split at read
      next w x y z isA isB isC isD =>
        cases read
        exact ⟨[a, b, c, d], rfl, a, b, c, d, w, x, y, z, rfl, isA, isB, isC, isD, rfl⟩
      next => cases read
    next => cases read
  · rintro ⟨_, rfl, a, b, c, d, w, x, y, z, rfl, isA, isB, isC, isD, rfl⟩
    simp only [List.cons_append, List.nil_append, hexUnit, isA, isB, isC, isD]
    exact Takes.ok _

theorem short_of_shortEscape? {letter octet : UInt8} (found : shortEscape? letter = some octet) :
    letter ≠ 117 := by
  rintro rfl
  cases found

theorem escaped_of_escape {front part : Octets} (escape : Escape front part) (rest : Octets) :
    Takes (escaped (front ++ rest)) part rest := by
  cases escape with
  | short found => exact escaped_short found (short_of_shortEscape? found) rest
  | @unit digits code hex scalar =>
    obtain ⟨less, read⟩ := hexUnit_iff.mpr ⟨digits, rfl, hex⟩
    rw [List.cons_append, escaped, if_pos rfl, read]
    dsimp only [bind, Except.bind]
    rw [if_neg (by simp; omega), if_pos (by simp; omega)]
    exact Takes.ok _
  | @pair first second high low hex hex' leads trails =>
    have first : Takes (hexUnit (first ++ 92 :: 117 :: (second ++ rest))) high _ :=
      hexUnit_iff.mpr ⟨first, rfl, hex⟩
    have second : Takes (hexUnit (second ++ rest)) low rest := hexUnit_iff.mpr ⟨second, rfl, hex'⟩
    obtain ⟨less, read⟩ := first
    obtain ⟨less', read'⟩ := second
    rw [List.cons_append, List.append_assoc, List.cons_append, List.cons_append, escaped, if_pos rfl, read]
    dsimp only [bind, Except.bind]
    rw [if_neg (by simp; omega), if_neg (by simp; omega)]
    simp only [read']
    rw [if_pos (by simp; omega)]
    exact ⟨_, rfl⟩

theorem escape_of_escaped {part : Octets} (read : Takes (escaped source) part rest) :
    ∃ front, source = front ++ rest ∧ Escape front part := by
  obtain ⟨less, read⟩ := read
  unfold escaped at read
  split at read
  next => cases read
  next letter tail =>
    split at read
    next long =>
      obtain ⟨⟨code, behind, less⟩, taken, read⟩ := bind_eq_ok.mp read
      obtain ⟨digits, rfl, hex⟩ := hexUnit_iff.mp ⟨less, taken⟩
      dsimp only at read
      split at read
      next => cases read
      next notLow =>
        split at read
        next scalar =>
          cases read
          simp only [Bool.and_eq_true, Bool.or_eq_true, decide_eq_true_eq] at notLow scalar
          exact ⟨117 :: digits, by rw [long]; rfl, .unit hex (by omega)⟩
        next high =>
          simp only [Bool.and_eq_true, Bool.or_eq_true, decide_eq_true_eq] at notLow high
          split at read
          next low _ =>
            obtain ⟨⟨code', behind', less'⟩, taken', read⟩ := bind_eq_ok.mp read
            obtain ⟨digits', rfl, hex'⟩ := hexUnit_iff.mp ⟨less', taken'⟩
            split at read
            next trails =>
              obtain ⟨rfl, rfl⟩ := Took.mk.inj (Except.ok.inj read)
              simp only [Bool.and_eq_true, decide_eq_true_eq] at trails
              refine ⟨117 :: (digits ++ 92 :: 117 :: digits'), ?_, .pair hex hex' (by omega) trails⟩
              rw [long]
              simp
            next => cases read
          all_goals cases read
    next =>
      split at read
      next octet found =>
        cases read
        exact ⟨[letter], rfl, .short found⟩
      next => cases read

theorem literal_of_ne {octet : UInt8} (quote : ¬ octet = 34) (slash : ¬ octet = 92)
    (visible : ¬ octet < 32) : isLiteral octet := ⟨quote, slash, visible⟩

/-- The octets of a string are those that stand up to the next quote that is not escaped. -/
theorem stringOctets_iff {bytes : Octets} : Takes (stringOctets source) bytes rest ↔
    ∃ body, source = body ++ 34 :: rest ∧ Means body bytes := by
  constructor
  · rintro ⟨less, read⟩
    induction source using stringOctets.induct generalizing bytes with
    | case1 =>
      rw [stringOctets] at read
      cases read
    | case2 tail =>
      rw [stringOctets, if_pos rfl] at read
      cases read
      exact ⟨[], rfl, .nil⟩
    | case3 tail other ih =>
      rw [stringOctets, if_neg other, if_pos rfl] at read
      obtain ⟨⟨part, between, shorter⟩, taken, read⟩ := bind_eq_ok.mp read
      obtain ⟨⟨bytes, last, shorter'⟩, behind, read⟩ := bind_eq_ok.mp read
      cases read
      obtain ⟨front, rfl, escape⟩ := escape_of_escaped ⟨shorter, taken⟩
      obtain ⟨body, rfl, means⟩ := ih between shorter shorter' behind
      exact ⟨92 :: (front ++ body), by simp, .escape escape means⟩
    | case4 octet tail quote slash control =>
      rw [stringOctets, if_neg quote, if_neg slash, if_pos control] at read
      cases read
    | case5 octet tail quote slash visible ih =>
      rw [stringOctets, if_neg quote, if_neg slash, if_neg visible] at read
      obtain ⟨⟨bytes, last, shorter⟩, behind, read⟩ := bind_eq_ok.mp read
      cases read
      obtain ⟨body, rfl, means⟩ := ih shorter behind
      exact ⟨octet :: body, rfl, .literal (literal_of_ne quote slash visible) means⟩
  · rintro ⟨body, rfl, means⟩
    induction means with
    | nil => exact stringOctets_quote rest
    | literal plain others ih => exact stringOctets_literal plain ih
    | escape escape others ih =>
      rw [List.cons_append, List.append_assoc]
      exact stringOctets_escape (escaped_of_escape escape _) ih

theorem string_iff {text : String} : Takes (string source) text rest ↔
    ∃ body, source = body ++ 34 :: rest ∧ Spells text body := by
  unfold Spells
  rw [← stringOctets_iff]
  constructor
  · rintro ⟨less, read⟩
    obtain ⟨⟨bytes, last, shorter⟩, taken, read⟩ := bind_eq_ok.mp read
    dsimp only at read
    split at read
    next found =>
      cases read
      rw [← text?_eq_some_iff.mp found]
      exact ⟨shorter, taken⟩
    next => cases read
  · rintro ⟨less, read⟩
    rw [string, read]
    simp only [bind, Except.bind, text?_octets]
    exact Takes.ok _

theorem skipEscape_iff : Passes (skipEscape source) rest ↔
    (∃ letter, source = letter :: rest ∧ (shortEscape? letter).isSome) ∨
      ∃ digits code, source = 117 :: (digits ++ rest) ∧ IsUnit digits code := by
  cases source with
  | nil =>
    constructor
    · rintro ⟨_, read⟩
      cases read
    · rintro (⟨_, same, _⟩ | ⟨_, _, same, _⟩) <;> cases same
  | cons letter tail =>
    rw [skipEscape]
    by_cases long : letter = 117
    · rw [if_pos long]
      constructor
      · rintro ⟨_, read⟩
        obtain ⟨⟨code, behind, less⟩, taken, read⟩ := bind_eq_ok.mp read
        obtain rfl : behind = rest := congrArg Subtype.val (Except.ok.inj read)
        obtain ⟨digits, rfl, hex⟩ := hexUnit_iff.mp ⟨less, taken⟩
        exact .inr ⟨digits, code, by rw [long], hex⟩
      · rintro (⟨_, same, found⟩ | ⟨digits, code, same, hex⟩)
        · cases same
          rw [long] at found
          cases found
        · cases same
          obtain ⟨less, read⟩ := hexUnit_iff.mpr ⟨digits, rfl, hex⟩
          rw [read]
          exact Passes.ok _
    · rw [if_neg long]
      split
      next found =>
        rw [passes_ok_iff]
        constructor
        · rintro rfl
          exact .inl ⟨letter, rfl, found⟩
        · rintro (⟨_, same, _⟩ | ⟨_, _, same, _⟩)
          · cases same
            rfl
          · cases same
            exact absurd rfl long
      next unknown =>
        constructor
        · rintro ⟨_, read⟩
          cases read
        · rintro (⟨_, same, found⟩ | ⟨_, _, same, _⟩)
          · cases same
            exact absurd found unknown
          · cases same
            exact absurd rfl long

theorem skipString_iff : Passes (skipString source) rest ↔
    ∃ body, source = body ++ 34 :: rest ∧ IsBody body := by
  constructor
  · rintro ⟨less, read⟩
    induction source using skipString.induct with
    | case1 =>
      rw [skipString] at read
      cases read
    | case2 tail =>
      rw [skipString, if_pos rfl] at read
      cases read
      exact ⟨[], rfl, .nil⟩
    | case3 tail other ih =>
      rw [skipString, if_neg other, if_pos rfl] at read
      obtain ⟨⟨between, shorter⟩, escape, read⟩ := bind_eq_ok.mp read
      obtain ⟨⟨last, shorter'⟩, behind, read⟩ := bind_eq_ok.mp read
      obtain rfl : last = rest := congrArg Subtype.val (Except.ok.inj read)
      obtain ⟨body, rfl, isBody⟩ := ih between shorter shorter' behind
      rcases skipEscape_iff.mp ⟨shorter, escape⟩ with ⟨letter, rfl, found⟩ | ⟨digits, code, rfl, hex⟩
      · exact ⟨92 :: letter :: body, rfl, .short found isBody⟩
      · exact ⟨92 :: 117 :: (digits ++ body), by simp, .unit hex isBody⟩
    | case4 octet tail quote slash control =>
      rw [skipString, if_neg quote, if_neg slash, if_pos control] at read
      cases read
    | case5 octet tail quote slash visible ih =>
      rw [skipString, if_neg quote, if_neg slash, if_neg visible] at read
      obtain ⟨⟨last, shorter⟩, behind, read⟩ := bind_eq_ok.mp read
      obtain rfl : last = rest := congrArg Subtype.val (Except.ok.inj read)
      obtain ⟨body, rfl, isBody⟩ := ih shorter behind
      exact ⟨octet :: body, rfl, .literal (literal_of_ne quote slash visible) isBody⟩
  · rintro ⟨body, rfl, isBody⟩
    have escaped {tail between : Octets} (passed : Passes (skipEscape tail) between)
        (behind : Passes (skipString between) rest) : Passes (skipString (92 :: tail)) rest := by
      obtain ⟨_, passed⟩ := passed
      obtain ⟨_, behind⟩ := behind
      rw [skipString, if_neg (by decide), if_pos rfl, passed]
      simp only [bind, Except.bind]
      rw [behind]
      exact Passes.ok _
    induction isBody with
    | nil =>
      rw [List.nil_append, skipString, if_pos rfl]
      exact Passes.ok _
    | literal plain others ih =>
      obtain ⟨_, behind⟩ := ih
      rw [List.cons_append, skipString, if_neg plain.1, if_neg plain.2.1, if_neg plain.2.2, behind]
      exact Passes.ok _
    | short found others ih => exact escaped (skipEscape_iff.mpr (.inl ⟨_, rfl, found⟩)) ih
    | unit hex others ih =>
      rw [List.cons_append, List.cons_append, List.append_assoc]
      exact escaped (skipEscape_iff.mpr (.inr ⟨_, _, rfl, hex⟩)) ih

end LoginGateway.Json
