import LoginGateway.Proofs.Cutting
import LoginGateway.Proofs.Utf8
import LoginGateway.Settings.Variables
import Mathlib.Data.List.TakeWhile

/-! What the texts of variables stand for. A text is taken as it is, unless it has blanks at
its ends, is a truth value or a number, or is as a whole between quotes, brackets or braces. -/

namespace LoginGateway.Variables

variable {text after : List Char}

theorem behind?_eq {start : String} (found : behind? start text = some after) :
    text = start.toList ++ after := by
  unfold behind? at found
  split at found
  next begins =>
    cases found
    obtain ⟨rest, rfl⟩ := List.isPrefixOf_iff_prefix.mp begins
    rw [← String.length_toList, List.drop_left]
  next => cases found

theorem quotedRun_eq {run : List Char} (read : quotedRun text = some (run, after)) :
    text = run ++ '\x22' :: after := by
  induction text using quotedRun.induct generalizing run with
  | case1 => cases read
  | case2 rest =>
    cases read
    rfl
  | case3 char rest ih =>
    rw [quotedRun] at read
    obtain ⟨⟨inner, left⟩, found, same⟩ := Option.map_eq_some_iff.mp read
    cases same
    rw [ih found]
    rfl
  | case4 char rest quote escape ih =>
    rw [quotedRun] at read
    · obtain ⟨⟨inner, left⟩, found, same⟩ := Option.map_eq_some_iff.mp read
      cases same
      rw [ih found]
      rfl
    · exact quote
    · exact escape

theorem suffix_quoted? {quoted : String} (read : quoted? text = some (quoted, after)) :
    '\x22' :: after <:+ text := by
  obtain ⟨⟨run, behind⟩, first, second⟩ := Option.bind_eq_some_iff.mp read
  obtain ⟨chars, _, same⟩ := Option.bind_eq_some_iff.mp second
  cases same
  exact ⟨run, (quotedRun_eq first).symm⟩

theorem suffix_key? {key : String} (read : key? text = some (key, after)) : after <:+ text := by
  unfold key? at read
  split at read
  next => exact ((List.suffix_cons _ _).trans (suffix_quoted? read)).trans (List.suffix_cons _ _)
  next =>
    simp only at read
    split at read
    next => cases read
    next =>
      cases read
      exact List.dropWhile_suffix _

/-- The ways to read a value at the start of a text, with what is left behind it. -/
inductive Reads (fuel : Nat) : List Char → Document → List Char → Prop where
  | yes {rest} : Reads fuel ("true".toList ++ rest) (.scalar .variables (.bool true)) rest
  | no {rest} : Reads fuel ("false".toList ++ rest) (.scalar .variables (.bool false)) rest
  | map {inner entries rest} (read : entries? fuel inner = some (entries, rest)) :
      Reads fuel ('{' :: inner) (.ofEntries .variables entries) rest
  | list {inner items rest} (read : items? fuel inner = some (items, rest)) :
      Reads fuel ('[' :: inner) (.list .variables items) rest
  | quoted {inner quoted rest} (read : quoted? inner = some (quoted, rest)) :
      Reads fuel ('\x22' :: inner) (.scalar .variables (.text quoted)) rest
  | letter {char rest} : Reads fuel ('\'' :: char :: '\'' :: rest) (.scalar .variables (.letter char)) rest
  | bare {start} : Reads fuel start
      (.scalar .variables (bare (trimWhile isBlankChar (start.takeWhile (!isSeparator ·)))))
      (start.dropWhile (!isSeparator ·))

theorem reads_of_value? {fuel : Nat} {document : Document}
    (found : value? (fuel + 1) text = some (document, after)) :
    ∃ rest, after = skipGap rest ∧ Reads fuel (skipGap text) document rest := by
  have skipped : ∀ {first : Option (Document × List Char)},
      (first.bind fun read => some (read.1, skipGap read.2)) = some (document, after) →
      ∃ rest, after = skipGap rest ∧ first = some (document, rest) := by
    intro first found
    obtain ⟨⟨value, rest⟩, read, same⟩ := Option.bind_eq_some_iff.mp found
    cases same
    exact ⟨rest, rfl, read⟩
  rw [value?] at found
  split at found <;> obtain ⟨rest, rfl, read⟩ := skipped found <;> refine ⟨rest, rfl, ?_⟩
  next yes =>
    cases read
    rw [behind?_eq yes]
    exact .yes
  next no =>
    cases read
    rw [behind?_eq no]
    exact .no
  next same =>
    obtain ⟨⟨entries, left⟩, inner, made⟩ := Option.map_eq_some_iff.mp read
    cases made
    rw [same]
    exact .map inner
  next same =>
    obtain ⟨⟨items, left⟩, inner, made⟩ := Option.map_eq_some_iff.mp read
    cases made
    rw [same]
    exact .list inner
  next same =>
    obtain ⟨⟨quoted, left⟩, inner, made⟩ := Option.map_eq_some_iff.mp read
    cases made
    rw [same]
    exact .quoted inner
  next same =>
    cases read
    rw [same]
    exact .letter
  next => cases read
  next =>
    cases read
    exact .bare

/-- What follows a value follows it in the text, if lists and maps end with their signs. -/
theorem Reads.suffix_of {fuel : Nat} {start rest : List Char} {document : Document}
    (reads : Reads fuel start document rest)
    (list : ∀ {inner items}, items? fuel inner = some (items, rest) → ']' :: rest <:+ inner)
    (map : ∀ {inner entries}, entries? fuel inner = some (entries, rest) → '}' :: rest <:+ inner) :
    rest <:+ start := by
  cases reads with
  | yes => exact List.suffix_append _ _
  | no => exact List.suffix_append _ _
  | map inner => exact ((List.suffix_cons _ _).trans (map inner)).trans (List.suffix_cons _ _)
  | list inner => exact ((List.suffix_cons _ _).trans (list inner)).trans (List.suffix_cons _ _)
  | quoted inner =>
    exact ((List.suffix_cons _ _).trans (suffix_quoted? inner)).trans (List.suffix_cons _ _)
  | @letter char => exact List.suffix_append ['\'', char, '\''] rest
  | bare => exact List.dropWhile_suffix _

mutual

theorem suffix_value? : (fuel : Nat) → {text after : List Char} → {document : Document} →
    value? fuel text = some (document, after) → after <:+ text
  | 0, _, _, _, found => nomatch found
  | fuel + 1, text, after, document, found => by
    obtain ⟨rest, rfl, reads⟩ := reads_of_value? found
    have behind := reads.suffix_of (suffix_items? fuel) (suffix_entries? fuel)
    exact ((List.dropWhile_suffix isGap).trans behind).trans (List.dropWhile_suffix isGap)

theorem suffix_items? : (fuel : Nat) → {text after : List Char} → {items : List Document} →
    items? fuel text = some (items, after) → ']' :: after <:+ text
  | 0, _, _, _, found => nomatch found
  | fuel + 1, text, after, items, found => by
    unfold items? at found
    split at found
    next =>
      cases found
      exact List.suffix_refl _
    next =>
      obtain ⟨⟨item, rest⟩, read, later⟩ := Option.bind_eq_some_iff.mp found
      have here := suffix_value? fuel read
      simp only at later
      split at later
      next =>
        obtain ⟨⟨others, left⟩, inner, made⟩ := Option.map_eq_some_iff.mp later
        cases made
        exact ((suffix_items? fuel inner).trans (List.suffix_cons _ _)).trans here
      next =>
        cases later
        exact here
      next => cases later

theorem suffix_entries? : (fuel : Nat) → {text after : List Char} →
    {entries : List (String × Document)} → entries? fuel text = some (entries, after) →
    '}' :: after <:+ text
  | 0, _, _, _, found => nomatch found
  | fuel + 1, text, after, entries, found => by
    unfold entries? at found
    split at found
    next =>
      cases found
      exact List.suffix_refl _
    next =>
      obtain ⟨⟨key, behind⟩, named, later⟩ := Option.bind_eq_some_iff.mp found
      have start := (suffix_key? named).trans (List.dropWhile_suffix _)
      simp only at later
      split at later
      next written sign =>
        obtain ⟨⟨value, rest⟩, read, last⟩ := Option.bind_eq_some_iff.mp later
        have equals : '=' :: written <:+ text :=
          sign ▸ (List.dropWhile_suffix isGap : skipGap behind <:+ behind).trans start
        have here := ((suffix_value? fuel read).trans (List.suffix_cons _ _)).trans equals
        simp only at last
        split at last
        next =>
          obtain ⟨⟨others, left⟩, inner, made⟩ := Option.map_eq_some_iff.mp last
          cases made
          exact ((suffix_entries? fuel inner).trans (List.suffix_cons _ _)).trans here
        next =>
          cases last
          exact here
        next => cases last
      next => cases later

end

/-- A text that stands for itself as the value of a variable. -/
structure IsPlain (text : List Char) : Prop where
  front : ∀ char ∈ text.head?, isBlankChar char = false
  back : ∀ char ∈ text.getLast?, isBlankChar char = false
  truth : text ≠ "true".toList ∧ text ≠ "false".toList
  number : bare text = .text (String.ofList text)
  map : ∀ inner, text ≠ '{' :: inner ++ ['}']
  list : ∀ inner, text ≠ '[' :: inner ++ [']']
  quoted : ∀ inner, text ≠ '\x22' :: inner ++ ['\x22']
  letter : ∀ char, text ≠ ['\'', char, '\'']

theorem isBlankChar_of_isGap {char : Char} (gap : isGap char = true) : isBlankChar char = true := by
  have blank : [' ', '\t', '\n', '\r', '\x0c'].all isBlankChar = true := by decide
  exact List.all_eq_true.mp blank char (List.contains_iff_mem.mp gap)

theorem IsPlain.eq_nil {rest : List Char} (plain : IsPlain text) (behind : rest <:+ text)
    (gaps : skipGap rest = []) : rest = [] := by
  cases last : rest.getLast? with
  | none => exact List.getLast?_eq_none_iff.mp last
  | some char =>
    have gap : isGap char = true :=
      List.dropWhile_eq_nil_iff.mp gaps char (List.mem_of_getLast? last)
    have same : text.getLast? = some char := by
      obtain ⟨before, rfl⟩ := behind
      rw [List.getLast?_append, last]
      rfl
    have kept := plain.back char same
    rw [isBlankChar_of_isGap gap] at kept
    cases kept

theorem IsPlain.value {text : String} (plain : IsPlain text.toList) :
    Variables.value text = .scalar .variables (.text text) := by
  have start : skipGap text.toList = text.toList := by
    apply dropWhile_of_head
    intro char first
    have kept := plain.front char first
    cases gap : isGap char with
    | false => rfl
    | true => rw [isBlankChar_of_isGap gap] at kept; cases kept
  unfold Variables.value
  split
  next document found =>
    obtain ⟨rest, gaps, reads⟩ := reads_of_value? found
    rw [start] at reads
    have nothing := plain.eq_nil (reads.suffix_of (suffix_items? _) (suffix_entries? _)) gaps.symm
    -- Nothing is left behind the value, so every reading but the bare one has the whole text in its signs.
    generalize whole : text.toList = chars at reads plain
    cases reads with
    | yes =>
      subst nothing
      exact absurd (List.append_nil _) plain.truth.1
    | no =>
      subst nothing
      exact absurd (List.append_nil _) plain.truth.2
    | map inner =>
      subst nothing
      obtain ⟨before, rfl⟩ := suffix_entries? _ inner
      exact absurd rfl (plain.map before)
    | list inner =>
      subst nothing
      obtain ⟨before, rfl⟩ := suffix_items? _ inner
      exact absurd rfl (plain.list before)
    | quoted inner =>
      subst nothing
      obtain ⟨before, rfl⟩ := suffix_quoted? inner
      exact absurd rfl (plain.quoted before)
    | letter =>
      subst nothing
      exact absurd rfl (plain.letter _)
    | bare =>
      have all : chars.takeWhile (!isSeparator ·) = chars := by
        have parts := List.takeWhile_append_dropWhile (p := (!isSeparator ·)) (l := chars)
        rwa [nothing, List.append_nil] at parts
      rw [all, trimWhile_of_ends plain.front plain.back, plain.number, ← whole, String.ofList_toList]
  next => rfl

theorem origin_value (text : String) : (value text).origin = .variables := by
  unfold value
  split
  next document found =>
    obtain ⟨rest, _, reads⟩ := reads_of_value? found
    generalize skipGap text.toList = start at reads
    cases reads <;> rfl
  next => rfl

def text? (text : String) : Option String :=
  match value text with
  | .scalar _ (.text value) => some value
  | .scalar _ (.letter value) => some (String.singleton value)
  | _ => none

theorem IsPlain.text? {text : String} (plain : IsPlain text.toList) :
    Variables.text? text = some text := by
  rw [Variables.text?, plain.value]

/-! Words. -/

theorem letter_facts {char : Char} (letter : char.isAlpha = true) :
    char.isDigit = false ∧ isBlankChar char = false := by
  have ascii : char.toNat < 0x80 := by
    apply ascii_of_isAlphanum
    rw [Char.isAlphanum, letter, Bool.true_or]
  revert letter
  exact of_ascii ascii (by decide +kernel)

theorem not_mem_of_letters {sign : Char} (letters : ∀ char ∈ text, char.isAlpha = true)
    (other : sign.isAlpha = false) : sign ∉ text := by
  intro inside
  rw [letters sign inside] at other
  cases other

theorem naturalBelow_of_letter {char : Char} {rest : List Char} (letter : char.isAlpha = true)
    (limit : Nat) : naturalBelow limit (char :: rest) = .error .digit := by
  have plus : char ≠ '+' := by
    rintro rfl
    cases letter
  unfold naturalBelow
  split
  next nothing => cases nothing
  next alone => exact absurd (List.cons.inj alone).1 plus
  next signed => exact absurd (List.cons.inj signed).1 plus
  next => rw [countFrom, (letter_facts letter).1]; rfl

theorem bare_of_letters (letters : ∀ char ∈ text, char.isAlpha = true) :
    bare text = .text (String.ofList text) := by
  cases text with
  | nil => rfl
  | cons first rest =>
    have letter := letters first List.mem_cons_self
    have point : (first :: rest).contains '.' = false := by
      rw [← Bool.not_eq_true, List.contains_iff_mem]
      exact not_mem_of_letters letters rfl
    have minus : first ≠ '-' := by
      rintro rfl
      cases letter
    have signed : signed64 (first :: rest) = .error .digit := by
      unfold signed64
      split
      next alone => exact absurd (List.cons.inj alone).1 minus
      next negative => exact absurd (List.cons.inj negative).1 minus
      next => rw [naturalBelow_of_letter letter]; rfl
    rw [bare, point, naturalBelow_of_letter letter, signed]
    rfl

/-- A word is plain unless it is a truth value. -/
theorem isPlain_of_letters (letters : ∀ char ∈ text, char.isAlpha = true)
    (truth : text ≠ "true".toList ∧ text ≠ "false".toList) : IsPlain text where
  front char first := (letter_facts (letters char (List.mem_of_mem_head? first))).2
  back char last := (letter_facts (letters char (List.mem_of_getLast? last))).2
  truth := truth
  number := bare_of_letters letters
  map _ same := not_mem_of_letters letters rfl (same ▸ List.mem_cons_self : '{' ∈ text)
  list _ same := not_mem_of_letters letters rfl (same ▸ List.mem_cons_self : '[' ∈ text)
  quoted _ same := not_mem_of_letters letters rfl (same ▸ List.mem_cons_self : '\x22' ∈ text)
  letter _ same := not_mem_of_letters letters rfl (same ▸ List.mem_cons_self : '\'' ∈ text)

end LoginGateway.Variables
