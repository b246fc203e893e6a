import LoginGateway.Proofs.UnmentionedVariables

/-! What is replaced in a text. A text falls into characters that are copied and
placeholders, and how it does is settled before anything is replaced: no value has a part
in it. -/

namespace LoginGateway

namespace Placeholder

def StartsName (char : Char) : Prop := ('A' ≤ char ∧ char ≤ 'Z') ∨ char = '_'

/-- A capital letter or an underscore, and any number of these and of digits. -/
def IsName : List Char → Prop
  | [] => False
  | start :: rest => StartsName start ∧ ∀ char ∈ rest, StartsName char ∨ ('0' ≤ char ∧ char ≤ '9')

/-- The two ways to write a placeholder. -/
inductive Spells : Placeholder → List Char → Prop where
  | bare {name : List Char} (named : IsName name) : Spells ⟨name, []⟩ ('$' :: '{' :: (name ++ ['}']))
  | withFallback {name fallback : List Char} (named : IsName name) (inner : '}' ∉ fallback) :
      Spells ⟨name, fallback⟩ ('$' :: '{' :: (name ++ ':' :: '-' :: (fallback ++ ['}'])))

/-- A part of a text. -/
inductive Part where
  | copied (char : Char)
  | replaced (placeholder : Placeholder) (spelling : List Char)

/-- What a part comes to: a variable's value if it is set, whatever it is. -/
def Part.result (environment : Environment) : Part → List Char
  | copied char => [char]
  | replaced placeholder _ =>
    ((environment.get? (String.ofList placeholder.name)).map String.toList).getD placeholder.fallback

/-- A text is cut from left to right: wherever a placeholder stands next it is a part, and
the character that stands next is one only if no placeholder does. -/
inductive Divides : List Part → List Char → Prop where
  | nil : Divides [] []
  | copied {char : Char} {rest : List Char} {parts : List Part}
      (plain : ∀ placeholder spelling, Spells placeholder spelling → ¬ spelling <+: char :: rest)
      (behind : Divides parts rest) : Divides (.copied char :: parts) (char :: rest)
  | replaced {placeholder : Placeholder} {spelling rest : List Char} {parts : List Part}
      (spelled : Spells placeholder spelling) (behind : Divides parts rest) :
      Divides (.replaced placeholder spelling :: parts) (spelling ++ rest)

section Reading

variable {environment : Environment} {text after name fallback : List Char} {placeholder : Placeholder}

theorem isNameStart_iff (char : Char) : isNameStart char = true ↔ StartsName char := by
  simp only [isNameStart, Char.isUpper, StartsName, Bool.or_eq_true, decide_eq_true_eq]
  rfl

theorem isNameChar_iff (char : Char) :
    isNameChar char = true ↔ StartsName char ∨ ('0' ≤ char ∧ char ≤ '9') := by
  simp only [isNameChar, Bool.or_eq_true, isNameStart_iff, Char.isDigit, Bool.and_eq_true,
    decide_eq_true_eq]
  rfl

theorem front?_of_isName (named : IsName name) {sign : Char} (ends : isNameChar sign = false)
    (rest : List Char) : front? ('$' :: '{' :: (name ++ sign :: rest)) =
      (closing? (sign :: rest)).map fun (fallback, after) => (⟨name, fallback⟩, after) := by
  cases name with
  | nil => exact named.elim
  | cons start name =>
    obtain ⟨starts, others⟩ := named
    have letters : ∀ char ∈ name, isNameChar char = true :=
      fun char inside => (isNameChar_iff char).mpr (others char inside)
    have taken : (name ++ sign :: rest).takeWhile isNameChar = name := by
      rw [List.takeWhile_append_of_pos letters, List.takeWhile_cons_of_neg (by simp [ends]),
        List.append_nil]
    have left : (name ++ sign :: rest).dropWhile isNameChar = sign :: rest := by
      rw [List.dropWhile_append_of_pos letters, List.dropWhile_cons_of_neg (by simp [ends])]
    rw [List.cons_append, front?, if_pos ((isNameStart_iff start).mpr starts), taken, left]

theorem closing?_fallback (inner : '}' ∉ fallback) (after : List Char) :
    closing? (':' :: '-' :: (fallback ++ '}' :: after)) = some (fallback, after) := by
  have other : ∀ char ∈ fallback, decide (char ≠ '}') = true :=
    fun char inside => decide_eq_true fun same => inner (same ▸ inside)
  have taken : (fallback ++ '}' :: after).takeWhile (· ≠ '}') = fallback := by
    rw [List.takeWhile_append_of_pos other, List.takeWhile_cons_of_neg (by decide), List.append_nil]
  have left : (fallback ++ '}' :: after).dropWhile (· ≠ '}') = '}' :: after := by
    rw [List.dropWhile_append_of_pos other, List.dropWhile_cons_of_neg (by decide)]
  simp only [closing?, taken, left]

theorem cases_of_closing? (closed : closing? text = some (fallback, after)) :
    (fallback = [] ∧ text = '}' :: after) ∨
      ('}' ∉ fallback ∧ text = ':' :: '-' :: (fallback ++ '}' :: after)) := by
  unfold closing? at closed
  split at closed
  next =>
    cases closed
    exact .inl ⟨rfl, rfl⟩
  next rest =>
    split at closed
    next brace behind found =>
      cases closed
      refine .inr ⟨?_, ?_⟩
      · intro inside
        exact absurd (List.mem_takeWhile_imp inside) (by decide)
      · have whole := List.takeWhile_append_dropWhile (p := (· ≠ '}')) (l := rest)
        have head : brace = '}' := by
          have kept := List.head?_dropWhile_not (· ≠ '}') rest
          rw [found] at kept
          simpa using kept
        rw [found, head] at whole
        rw [whole]
    next => cases closed
  next => cases closed

/-- The reader finds a placeholder exactly where one is written. -/
theorem front?_eq_some_iff : front? text = some (placeholder, after) ↔
    ∃ spelling, Spells placeholder spelling ∧ text = spelling ++ after := by
  constructor
  · intro found
    unfold front? at found
    split at found
    next start rest =>
      split at found
      next starts =>
        obtain ⟨⟨fallback, left⟩, closed, same⟩ := Option.map_eq_some_iff.mp found
        cases same
        have named : IsName (start :: rest.takeWhile isNameChar) :=
          ⟨(isNameStart_iff start).mp starts,
            fun char inside => (isNameChar_iff char).mp (List.mem_takeWhile_imp inside)⟩
        have whole := List.takeWhile_append_dropWhile (p := isNameChar) (l := rest)
        rcases cases_of_closing? closed with ⟨rfl, last⟩ | ⟨inner, last⟩
        · refine ⟨_, .bare named, ?_⟩
          rw [last] at whole
          simp [whole]
        · refine ⟨_, .withFallback named inner, ?_⟩
          rw [last] at whole
          simp [whole]
      next => cases found
    next => cases found
  · rintro ⟨spelling, spelled, rfl⟩
    cases spelled with
    | bare named =>
      simp only [List.cons_append, List.append_assoc, List.nil_append]
      rw [front?_of_isName named (by decide)]
      rfl
    | withFallback named inner =>
      simp only [List.cons_append, List.append_assoc, List.nil_append]
      rw [front?_of_isName named (by decide), closing?_fallback inner]
      rfl

theorem front?_eq_none_iff : front? text = none ↔
    ∀ placeholder spelling, Spells placeholder spelling → ¬ spelling <+: text := by
  constructor
  · rintro none placeholder spelling spelled ⟨after, rfl⟩
    cases none.symm.trans (front?_eq_some_iff.mpr ⟨spelling, spelled, rfl⟩)
  · intro plain
    cases found : front? text with
    | none => rfl
    | some pair =>
      obtain ⟨placeholder, after⟩ := pair
      obtain ⟨spelling, spelled, whole⟩ := front?_eq_some_iff.mp found
      exact absurd ⟨after, whole.symm⟩ (plain placeholder spelling spelled)

end Reading

section Dividing

variable {environment : Environment} {text : List Char} {parts others : List Part}

theorem exists_divides (text : List Char) : ∃ parts, Divides parts text := by
  induction text using expandChars.induct with
  | case1 text placeholder after found shorter ih =>
    obtain ⟨parts, behind⟩ := ih
    obtain ⟨spelling, spelled, rfl⟩ := front?_eq_some_iff.mp found
    exact ⟨_, .replaced spelled behind⟩
  | case2 => exact ⟨[], .nil⟩
  | case3 char rest none ih =>
    obtain ⟨parts, behind⟩ := ih
    exact ⟨_, .copied (front?_eq_none_iff.mp none) behind⟩

theorem Spells.ne_nil {placeholder : Placeholder} {spelling : List Char}
    (spelled : Spells placeholder spelling) : spelling ≠ [] := by
  cases spelled <;> nofun

theorem Divides.unique (divides : Divides parts text) (also : Divides others text) : others = parts := by
  induction divides generalizing others with
  | nil =>
    generalize empty : ([] : List Char) = text at also
    cases also with
    | nil => rfl
    | copied => cases empty
    | replaced spelled => exact absurd (List.append_eq_nil_iff.mp empty.symm).1 spelled.ne_nil
  | @copied char rest parts plain behind ih =>
    generalize whole : char :: rest = text at also
    cases also with
    | nil => cases whole
    | copied _ behind' =>
      cases whole
      rw [ih behind']
    | replaced spelled => exact absurd ⟨_, whole.symm⟩ (plain _ _ spelled)
  | @replaced placeholder spelling rest parts spelled behind ih =>
    generalize whole : spelling ++ rest = text at also
    cases also with
    | nil => exact absurd (List.append_eq_nil_iff.mp whole).1 spelled.ne_nil
    | copied plain => exact absurd ⟨_, whole⟩ (plain _ _ spelled)
    | @replaced other spelling' rest' _ spelled' behind' =>
      have read := front?_eq_some_iff.mpr ⟨spelling, spelled, whole.symm⟩
      cases read.symm.trans (front?_eq_some_iff.mpr ⟨spelling', spelled', rfl⟩)
      cases List.append_cancel_right whole
      rw [ih behind']

theorem result_replaced (environment : Environment) (placeholder : Placeholder) (spelling : List Char) :
    (Part.replaced placeholder spelling).result environment = placeholder.value environment := by
  rw [Part.result, Placeholder.value]
  cases environment.get? (String.ofList placeholder.name) <;> rfl

theorem Divides.expandChars_eq (divides : Divides parts text) (environment : Environment) :
    expandChars environment text = parts.flatMap (·.result environment) := by
  induction divides with
  | nil => exact expandChars_nil environment
  | copied plain behind ih =>
    rw [expandChars_cons_of_front? (front?_eq_none_iff.mpr plain), ih, List.flatMap_cons]
    rfl
  | @replaced placeholder spelling rest parts spelled behind ih =>
    rw [expandChars_of_front? (front?_eq_some_iff.mpr ⟨spelling, spelled, rfl⟩), ih, List.flatMap_cons,
      result_replaced]

/-- A text without a placeholder is copied. -/
theorem expandChars_of_unspelled (environment : Environment)
    (plain : ∀ placeholder spelling, Spells placeholder spelling → ¬ spelling <:+: text) :
    expandChars environment text = text := by
  induction text with
  | nil => exact expandChars_nil environment
  | cons char rest ih =>
    have next : front? (char :: rest) = none := front?_eq_none_iff.mpr
      fun placeholder spelling spelled starts => plain placeholder spelling spelled starts.isInfix
    rw [expandChars_cons_of_front? next, ih fun placeholder spelling spelled inside =>
      plain placeholder spelling spelled (inside.trans (List.suffix_cons char rest).isInfix)]

end Dividing

end Placeholder

namespace Settings

/-- Settings before and after the placeholders in them are replaced. -/
structure Replaced (environment : Environment) (before after : Settings) : Prop where
  clientId : after.oauth.clientId = Placeholder.expand environment before.oauth.clientId
  clientSecret : after.oauth.clientSecret = Placeholder.expand environment before.oauth.clientSecret
  domain : after.oauth.domain = Placeholder.expand environment before.oauth.domain
  routes : List.Forall₂ (fun given route : RouteSettings => route.source = given.source ∧
    route.backend = Placeholder.expand environment given.backend) before.routes after.routes
  others : after = { before with
    oauth := { before.oauth with
      clientId := after.oauth.clientId
      clientSecret := after.oauth.clientSecret
      domain := after.oauth.domain }
    routes := after.routes }

theorem replaced_iff {environment : Environment} {before after : Settings} :
    Replaced environment before after ↔ after = before.expand environment := by
  constructor
  · rintro ⟨clientId, clientSecret, domain, routes, others⟩
    have same : (before.expand environment).routes = after.routes := by
      rw [Settings.expand, ← List.forall₂_eq_eq_eq, List.forall₂_map_left_iff]
      exact routes.imp fun given route same => by rw [← same.1, ← same.2]
    rw [others, clientId, clientSecret, domain, ← same]
    rfl
  · rintro rfl
    refine ⟨rfl, rfl, rfl, ?_, rfl⟩
    rw [Settings.expand, List.forall₂_map_right_iff, List.forall₂_same]
    exact fun route _ => ⟨rfl, rfl⟩

/-- Settings are loaded exactly if they can be read and are good for a gateway once the
placeholders in them are replaced, each once and with what the files of variables leave
behind. What is replaced does not hang on the values: a text is cut into placeholders and
copied characters in one way only, and each part comes to its own result. -/
theorem placeholders_replaced :
    (∀ text : String, ∃ parts, Placeholder.Divides parts text.toList ∧
      (∀ others, Placeholder.Divides others text.toList → others = parts) ∧
      ∀ environment, (Placeholder.expand environment text).toList =
        parts.flatMap (·.result environment)) ∧
    (∀ text : String, (∀ placeholder spelling, Placeholder.Spells placeholder spelling →
      ¬ spelling <:+: text.toList) → ∀ environment, Placeholder.expand environment text = text) ∧
    ∀ files environment path settings,
      (load files environment path).result = .ok settings ↔
        ∃ given, read files environment path = .ok given ∧
          let reached := (loadEnvFiles files environment given.envFiles).1
          Replaced reached given settings ∧ settings.validate reached = .ok () := by
  refine ⟨?_, ?_, ?_⟩
  · intro text
    obtain ⟨parts, divides⟩ := Placeholder.exists_divides text.toList
    refine ⟨parts, divides, fun others also => divides.unique also, fun environment => ?_⟩
    rw [Placeholder.expand, String.toList_ofList, divides.expandChars_eq]
  · intro text plain environment
    rw [Placeholder.expand, Placeholder.expandChars_of_unspelled environment plain, String.ofList_toList]
  · intro files environment path settings
    constructor
    · intro loaded
      cases found : read files environment path with
      | error fault =>
        rw [load_of_fault found] at loaded
        cases loaded
      | ok given =>
        rw [load_of_read found] at loaded
        obtain ⟨valid, same⟩ := of_validated loaded
        rw [← same] at valid
        exact ⟨given, rfl, replaced_iff.mpr same, valid⟩
    · rintro ⟨given, found, replaced, valid⟩
      rw [replaced_iff] at replaced
      rw [load_of_read found]
      simp only [← replaced, valid]
      rfl

example : Placeholder.expand [("A", "$1$\x7bA\x7d")] "$\x7bA\x7d$\x7ba\x7d$\x7bB:-$\x7bA\x7d$\x7bA:-" =
    "$1$\x7bA\x7d$\x7ba\x7d$\x7bA$\x7bA:-" := by
  cbv

end Settings

end LoginGateway
