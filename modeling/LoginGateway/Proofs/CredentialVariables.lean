import LoginGateway.Proofs.MergedDocuments
import LoginGateway.Proofs.OverlaidFields

/-! The credentials of the gateway, set by variables. The variable of a credential is laid
over the file under the key with an underscore, so it takes the place of a value under that
key, but stands beside one under the key with a dash. -/

namespace LoginGateway

inductive Credential where
  | id
  | secret
deriving DecidableEq, Repr

namespace Credential

def key : Credential → String
  | .id => "client_id"
  | .secret => "client_secret"

def dashed : Credential → String
  | .id => "client-id"
  | .secret => "client-secret"

def variableName : Credential → String
  | .id => "SSO_GATEWAY_OAUTH__CLIENT_ID"
  | .secret => "SSO_GATEWAY_OAUTH__CLIENT_SECRET"

def assign : Credential → String → OAuthSettings → OAuthSettings
  | .id, text, oauth => { oauth with clientId := text }
  | .secret, text, oauth => { oauth with clientSecret := text }

theorem path?_variableName (credential : Credential) :
    Variables.path? credential.variableName = some ["oauth", credential.key] := by
  cases credential <;> decide +kernel

theorem dashed_lt_key (credential : Credential) : credential.dashed < credential.key := by
  cases credential <;> decide +kernel

theorem field_dashed (credential : Credential) :
    Settings.oauthForm.field credential.dashed = credential.key := by
  cases credential <;> rfl

theorem field_key (credential : Credential) :
    Settings.oauthForm.field credential.key = credential.key := by
  cases credential <;> rfl

theorem key_injective (first second : Credential) (same : first.key = second.key) :
    first = second := by
  cases first <;> cases second
  case id.id => rfl
  case secret.secret => rfl
  all_goals exact absurd same (by decide)

theorem field_eq_key {credential : Credential} {key : String}
    (named : Settings.oauthForm.field key = credential.key) :
    key = credential.key ∨ key = credential.dashed := by
  simp only [Settings.oauthForm] at named
  split at named
  next same => exact .inr (same.trans (congrArg dashed (key_injective .id credential named)))
  next =>
    split at named
    next same => exact .inr (same.trans (congrArg dashed (key_injective .secret credential named)))
    next => exact .inl named

open Settings in
theorem isField (credential : Credential) :
    oauthForm.IsField credential.key readText credential.assign where
  known := by cases credential <;> decide
  set record document := by cases credential <;> rfl
  apart record value other document apart := by
    cases credential with
    | id =>
      simp only [oauthForm, assign]
      split
      case h_1 => exact (apart rfl).elim
      case h_7 => cases readList readText document <;> rfl
      case h_8 => rfl
      all_goals cases readText document <;> rfl
    | secret =>
      simp only [oauthForm, assign]
      split
      case h_2 => exact (apart rfl).elim
      case h_7 => cases readList readText document <;> rfl
      case h_8 => rfl
      all_goals cases readText document <;> rfl
  again record first second := by cases credential <;> rfl

end Credential

namespace Settings

theorem isField_oauth : form.IsField "oauth"
    (fun document => (oauthForm.read .default document).map (·.1))
    (fun oauth settings => { settings with oauth }) where
  known := by decide
  set record document := by
    simp only [form]
    cases oauthForm.read .default document <;> rfl
  apart record value other document apart := by
    simp only [form]
    split
    case h_1 => cases readList readText document <;> rfl
    case h_2 => cases readText document <;> rfl
    case h_3 => cases serverForm.read .default document <;> rfl
    case h_4 => exact (apart rfl).elim
    case h_5 => cases readList readRoute document <;> rfl
    case h_6 => cases sessionForm.read 50 document <;> rfl
    case h_7 => rfl
  again record first second := rfl

theorem readText_overlay (below : Option Document) (value : Document) :
    readText (Document.overlay below value) = readText value := by
  cases below with
  | none => rfl
  | some lower =>
    cases kind : lower.isMap with
    | false => rw [Document.overlay, Document.merge_of_not_maps (.inl kind)]
    | true =>
      cases value with
      | map origin entries =>
        cases lower with
        | scalar => cases kind
        | list => cases kind
        | map => rw [Document.overlay, Document.merge_map]; rfl
      | _ => rw [Document.overlay_of_not_map _ rfl]

variable {files : Files} {environment : Environment} {path value : String} {settings : Settings}
  {fields : List (String × Document)} {credential : Credential}

/-- The entries under which the credentials stand: those of the file, with what variables
have for them laid over. -/
def HoldsCredentials (files : Files) (environment : Environment) (path : String)
    (fields : List (String × Document)) : Prop :=
  ∃ top lower entries origin, fileDocument files path = .ok (.map top lower) ∧
    (Document.map top lower).merge (Variables.document environment) = .map .variables entries ∧
    ("oauth", .map origin fields) ∈ entries

theorem document_add (unset : environment.get? credential.variableName = none) (value : String) :
    Variables.document (environment.add credential.variableName value) =
      (Variables.document environment).merge (.map .variables
        [("oauth", .map .variables [(credential.key, Variables.value value)])]) := by
  have appended : environment.add credential.variableName value =
      environment ++ [(credential.variableName, value)] := by
    rw [Environment.add, unset]
    rfl
  rw [appended, Variables.document_append, credential.path?_variableName]
  rfl

/-- The variable of a credential puts one entry among those of the credentials. -/
theorem merge_overridden {lower entries : List (String × Document)} {top origin : Origin}
    (file : Document.IsOrdered (.map top lower))
    (together : (Document.map top lower).merge (Variables.document environment) =
      .map .variables entries)
    (inside : ("oauth", .map origin fields) ∈ entries)
    (unset : environment.get? credential.variableName = none) (value : String) :
    Document.IsOrdered (.map .variables entries) ∧ ∃ merged,
      readText merged = readText (Variables.value value) ∧
      (Document.map top lower).merge
          (Variables.document (environment.add credential.variableName value)) =
        .map .variables (Document.insertEntry "oauth"
          (.map .variables (Document.insertEntry credential.key merged fields)) entries) := by
  obtain ⟨upper, held, ordered⟩ := Variables.exists_document environment
  rw [held, Document.merge_map] at together
  cases together
  have whole := file.merge ordered
  rw [Document.merge_map] at whole
  refine ⟨whole, ?_⟩
  have here := Document.lookup_of_mem whole.rising inside
  rw [Document.lookup_mergeEntries ordered.rising] at here
  obtain ⟨deep, deeper, laid⟩ := Document.exists_overlay_overlay (file.lookup "oauth")
    (ordered.lookup "oauth") here .variables credential.key (Variables.value value)
  refine ⟨Document.overlay deeper (Document.overlay deep (Variables.value value)), ?_, ?_⟩
  · rw [readText_overlay, readText_overlay]
  · rw [document_add unset, held, Document.merge_map, Document.mergeEntries_cons, Document.mergeEntries_nil,
      Document.merge_map, Document.mergeEntries_insertEntry file.rising ordered.rising, laid]

theorem readText_value (text : String) :
    readText (Variables.value text) =
      match Variables.text? text with
      | some text => .ok text
      | none => .error ⟨.kind (.of (Variables.value text)) "a string", .variables, []⟩ := by
  have origin := Variables.origin_value text
  unfold Variables.text? readText
  generalize Variables.value text = value at origin ⊢
  cases value with
  | scalar place scalar =>
    cases origin
    cases scalar <;> rfl
  | list place items =>
    cases origin
    rfl
  | map place entries =>
    cases origin
    rfl

def withCredential (settings : Settings) (credential : Credential) (text : String) : Settings :=
  { settings with oauth := credential.assign text settings.oauth }

/-- With the variable of a credential set, settings that can be read otherwise cannot be read
if the credential has its other spelling among them, or if the value of the variable is no
text. In all other cases they are read with this text, and nothing else is changed. -/
theorem read_overridden (holds : HoldsCredentials files environment path fields)
    (unset : environment.get? credential.variableName = none)
    (found : Settings.read files environment (some path) = .ok settings) (value : String) :
    Settings.read files (environment.add credential.variableName value) (some path) =
      if credential.dashed ∈ fields.map (·.1) then
        .error (.settings (⟨.duplicate credential.key, .variables, ["oauth"]⟩ : Mistake).message)
      else
        match Variables.text? value with
        | some text => .ok (settings.withCredential credential text)
        | none => .error (.settings (⟨.kind (.of (Variables.value value)) "a string", .variables,
            ["oauth", credential.key]⟩ : Mistake).message) := by
  obtain ⟨top, lower, entries, origin, file, together, inside⟩ := holds
  obtain ⟨ordered, merged, same, laid⟩ := merge_overridden (ordered_fileDocument file) together inside
    unset value
  simp only [Settings.read, file, bind, Except.bind, together, laid] at found ⊢
  have whole : ofDocument (.map .variables entries) = .ok settings := mapError_eq_ok.mp found
  have outer := isField_oauth.read_overlaid .variables
    (.map .variables (Document.insertEntry credential.key merged fields)) ordered.rising rfl
    (fun entry _ names => names) whole
  -- The credentials are a field of the settings, and a credential is a field of the credentials.
  obtain ⟨oauth, held, assigned⟩ := isField_oauth.read_held ordered.rising rfl
    (fun entry _ names => names) inside whole
  obtain rfl : settings.oauth = oauth := (congrArg Settings.oauth assigned).symm
  have rising := (ordered.of_mem inside).rising
  rw [ofDocument, outer]
  split
  next twice =>
    obtain ⟨entry, among, dashed⟩ := List.mem_map.mp twice
    rw [credential.isField.read_duplicate .variables rising credential.field_key among
      (dashed ▸ credential.field_dashed) (dashed ▸ credential.dashed_lt_key) held]
    rfl
  next once =>
    have only : ∀ entry ∈ fields, oauthForm.field entry.1 = credential.key →
        entry.1 = credential.key := by
      intro entry among names
      rcases Credential.field_eq_key names with key | dashed
      · exact key
      · exact (once (List.mem_map.mpr ⟨entry, among, dashed⟩)).elim
    rw [credential.isField.read_overlaid .variables merged rising credential.field_key only held, same,
      readText_value]
    cases Variables.text? value <;> rfl

end Settings

end LoginGateway
