import LoginGateway.Settings.Basic

/-! Placeholders in settings: a name between dollar sign and braces stands for the
variable of that name, and a text behind it for the case that there is none. -/

namespace LoginGateway

structure Placeholder where
  name : List Char
  fallback : List Char
deriving DecidableEq, Repr

namespace Placeholder

def isNameStart (char : Char) : Bool := char.isUpper || char = '_'

def isNameChar (char : Char) : Bool := isNameStart char || char.isDigit

def closing? : List Char → Option (List Char × List Char)
  | '}' :: after => some ([], after)
  | ':' :: '-' :: rest =>
    match rest.dropWhile (· ≠ '}') with
    | _ :: after => some (rest.takeWhile (· ≠ '}'), after)
    | [] => none
  | _ => none

def front? : List Char → Option (Placeholder × List Char)
  | '$' :: '{' :: start :: rest =>
    if isNameStart start then
      (closing? (rest.dropWhile isNameChar)).map fun (fallback, after) =>
        (⟨start :: rest.takeWhile isNameChar, fallback⟩, after)
    else none
  | _ => none

theorem length_dropWhile_le {α : Type} (test : α → Bool) (items : List α) :
    (items.dropWhile test).length ≤ items.length :=
  (List.dropWhile_sublist test).length_le

theorem length_lt_of_closing? {text fallback after : List Char} (found : closing? text = some (fallback, after)) :
    after.length < text.length := by
  unfold closing? at found
  split at found
  · simp at found; simp [found]
  · split at found
    · rename_i rest _ _ _ dropped
      have bound := length_dropWhile_le (· ≠ '}') rest
      simp at found
      rw [dropped, found.2] at bound
      simp at bound ⊢
      omega
    · simp at found
  · simp at found

theorem length_lt_of_front? {text after : List Char} {placeholder : Placeholder}
    (found : front? text = some (placeholder, after)) : after.length < text.length := by
  unfold front? at found
  split at found
  · split at found
    · rename_i rest _
      obtain ⟨⟨fallback, left⟩, closed, same⟩ := Option.map_eq_some_iff.mp found
      have shorter := length_lt_of_closing? closed
      have bound := length_dropWhile_le isNameChar rest
      simp at same
      rw [same.2] at shorter
      simp
      omega
    · simp at found
  · simp at found

def value (placeholder : Placeholder) (environment : Environment) : List Char :=
  match environment.get? (String.ofList placeholder.name) with
  | some text => text.toList
  | none => placeholder.fallback

/-- A text with its placeholders replaced in a single pass. -/
def expandChars (environment : Environment) (text : List Char) : List Char :=
  match found : front? text with
  | some (placeholder, after) =>
    have := length_lt_of_front? found
    placeholder.value environment ++ expandChars environment after
  | none =>
    match text with
    | [] => []
    | char :: rest => char :: expandChars environment rest
termination_by text.length

def expand (environment : Environment) (text : String) : String :=
  String.ofList (expandChars environment text.toList)

end Placeholder

/-- Settings with the placeholders in the credentials, the domain and the backends
replaced. -/
def Settings.expand (settings : Settings) (environment : Environment) : Settings :=
  let expand := Placeholder.expand environment
  { settings with
    oauth := { settings.oauth with
      clientId := expand settings.oauth.clientId
      clientSecret := expand settings.oauth.clientSecret
      domain := expand settings.oauth.domain }
    routes := settings.routes.map fun route => { route with backend := expand route.backend } }

end LoginGateway
