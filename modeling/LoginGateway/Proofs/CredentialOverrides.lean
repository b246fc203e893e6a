import LoginGateway.Proofs.CredentialVariables
import LoginGateway.Proofs.UnmentionedVariables

/-! Loading settings with a credential in a variable. What is loaded is what is loaded without
the variable, with the text of the variable as the credential; where the variable is refused,
nothing is loaded. -/

namespace LoginGateway

namespace Environment

variable {environment other : Environment} {name value text : String}

theorem alikeBut_add (environment : Environment) (name value : String) :
    environment.AlikeBut name (environment.add name value) := by
  intro other apart
  rw [get?_add, if_neg (Ne.symm apart), Option.or_none]

theorem resolve_of_plain (plain : ¬ reference <+: text.toList) : environment.resolve text = text := by
  rw [resolve, if_neg]
  exact fun starts => plain (List.isPrefixOf_iff_prefix.mp starts)

theorem resolve_ne_empty (alike : environment.AlikeBut name other) (set : other.get? name = some value)
    (some : value ≠ "") (named : environment.resolve text ≠ "") : other.resolve text ≠ "" := by
  unfold resolve at named ⊢
  split at named
  next starts =>
    rw [if_pos starts]
    -- The text may refer to the very variable that is set; then its value counts.
    by_cases same : String.ofList (text.toList.drop 4) = name
    · rw [same, set]
      exact some
    · rw [← alike _ same]
      exact named
  next starts =>
    rw [if_neg starts]
    exact named

end Environment

namespace Placeholder

theorem expandChars_of_plain (environment : Environment) {text : List Char} (plain : '$' ∉ text) :
    expandChars environment text = text := by
  induction text with
  | nil => exact expandChars_nil environment
  | cons char rest ih =>
    have none : front? (char :: rest) = none := by
      unfold front?
      split
      next same => exact absurd (same ▸ List.mem_cons_self) plain
      next => rfl
    rw [expandChars_cons_of_front? none, ih fun inside => plain (List.mem_cons_of_mem _ inside)]

theorem expand_of_plain (environment : Environment) {text : String} (plain : '$' ∉ text.toList) :
    expand environment text = text := by
  rw [expand, expandChars_of_plain environment plain, String.ofList_toList]

end Placeholder

namespace Settings

variable {files : Files} {environment other : Environment} {path value : String}
  {settings loaded : Settings} {fields : List (String × Document)} {credential : Credential}

theorem expand_withCredential (settings : Settings) (credential : Credential) (text : String)
    (environment : Environment) : (settings.withCredential credential text).expand environment =
      (settings.expand environment).withCredential credential (Placeholder.expand environment text) := by
  cases credential <;> rfl

theorem resolvedId_of_validate (valid : settings.validate environment = .ok ()) :
    settings.oauth.resolvedId environment ≠ "" := by
  intro empty
  rw [validate, if_pos empty] at valid
  split at valid <;> cases valid

theorem resolvedId_withCredential (alike : environment.AlikeBut credential.variableName other)
    (set : other.get? credential.variableName = some value)
    (letters : ∀ char ∈ value.toList, char.isAlpha = true) (given : value ≠ "")
    (named : settings.oauth.resolvedId environment ≠ "") :
    (settings.withCredential credential value).oauth.resolvedId other ≠ "" := by
  cases credential with
  | id =>
    have plain : ¬ Environment.reference <+: value.toList := fun starts =>
      Variables.not_mem_of_letters letters rfl (starts.subset (by decide : ':' ∈ Environment.reference))
    change other.resolve value ≠ ""
    rw [Environment.resolve_of_plain plain]
    exact given
  | secret => exact Environment.resolve_ne_empty alike set given named

theorem validate_withCredential (valid : settings.validate environment = .ok ())
    (named : (settings.withCredential credential value).oauth.resolvedId other ≠ "") :
    (settings.withCredential credential value).validate other = .ok () := by
  rw [validate, if_neg (resolvedId_of_validate valid)] at valid
  rw [validate, if_neg named]
  cases credential <;> exact valid

theorem mem_expandedTexts {text given : String}
    (inside : text ∈ (settings.withCredential credential given).expandedTexts) :
    text = given ∨ text ∈ (settings.withCredential credential "").expandedTexts := by
  cases credential with
  | id =>
    rcases List.mem_cons.mp inside with same | others
    · exact .inl same
    · exact .inr (List.mem_cons_of_mem _ others)
  | secret =>
    rcases List.mem_cons.mp inside with id | later
    · exact .inr (id ▸ List.mem_cons_self)
    · rcases List.mem_cons.mp later with same | others
      · exact .inl same
      · exact .inr (List.mem_cons_of_mem _ (List.mem_cons_of_mem _ others))

/-- Nothing but the credential differs when settings are expanded that mention its variable
nowhere else. -/
theorem expand_overridden (alike : environment.AlikeBut credential.variableName other)
    (texts : ∀ text ∈ (settings.withCredential credential "").expandedTexts,
      ¬ credential.variableName.toList <:+: text.toList)
    (letters : ∀ char ∈ value.toList, char.isAlpha = true) :
    (settings.withCredential credential value).expand other =
      (settings.expand environment).withCredential credential value := by
  have unmentioned : ∀ text ∈ (settings.withCredential credential value).expandedTexts,
      ¬ credential.variableName.toList <:+: text.toList := by
    intro text inside
    rcases mem_expandedTexts inside with rfl | among
    · have mark : '_' ∈ credential.variableName.toList := by cases credential <;> decide
      exact fun within => Variables.not_mem_of_letters letters rfl (within.subset mark)
    · exact texts text among
  rw [← expand_congr alike unmentioned, expand_withCredential,
    Placeholder.expand_of_plain _ (Variables.not_mem_of_letters letters rfl)]

theorem get?_reached (unset : environment.get? credential.variableName = none) (value : String)
    (paths : List String) :
    (loadEnvFiles files (environment.add credential.variableName value) paths).1.get?
      credential.variableName = some value := by
  rw [loadEnvFiles_eq, Environment.get?_addAll, Environment.get?_add, unset, if_pos rfl]
  rfl

/-- A credential in a variable. If the settings have it under the key with a dash, nothing is
loaded any more. Otherwise the variable sets the credential, and only that, unless something
else in the settings or in the files of variables refers to the variable itself. -/
theorem overridden_credentials (holds : HoldsCredentials files environment path fields)
    (unset : environment.get? credential.variableName = none)
    (found : Settings.read files environment (some path) = .ok settings)
    (accepted : (load files environment (some path)).result = .ok loaded)
    (texts : ∀ text ∈ (settings.withCredential credential "").expandedTexts,
      ¬ credential.variableName.toList <:+: text.toList)
    (lines : Unmentioned files environment settings.envFiles credential.variableName) (value : String)
    (letters : ∀ char ∈ value.toList, char.isAlpha = true) (given : value ≠ "")
    (truth : value ≠ "true" ∧ value ≠ "false") :
    (load files (environment.add credential.variableName value) (some path)).result =
      if credential.dashed ∈ fields.map (·.1) then
        .error (.settings (⟨.duplicate credential.key, .variables, ["oauth"]⟩ : Mistake).message)
      else .ok (loaded.withCredential credential value) := by
  have plain : Variables.IsPlain value.toList := by
    apply Variables.isPlain_of_letters letters
    exact ⟨fun same => truth.1 (String.toList_inj.mp same), fun same => truth.2 (String.toList_inj.mp same)⟩
  have outcome := read_overridden holds unset found value
  rw [plain.text?] at outcome
  split
  next dashed =>
    rw [if_pos dashed] at outcome
    rw [load_of_fault outcome]
  next once =>
    rw [if_neg once] at outcome
    rw [load_of_read found] at accepted
    obtain ⟨valid, rfl⟩ := of_validated accepted
    have alike := alike_loadEnvFiles (environment.alikeBut_add credential.variableName value)
      (by cases credential <;> decide) lines
    have same := expand_overridden alike texts letters
    have named := resolvedId_withCredential alike (get?_reached unset value settings.envFiles) letters given
      (resolvedId_of_validate valid)
    have kept : (settings.withCredential credential value).envFiles = settings.envFiles := rfl
    simp only [load_of_read outcome, kept, same, validate_withCredential valid named]
    rfl

end Settings

namespace OneFile
open Settings

theorem holdsCredentials : HoldsCredentials files [] "gateway.json" credentials := by
  refine ⟨origin, entries, entries, origin, document_of_file, ?_, ?_⟩
  · have nothing : Variables.document [] = .map .variables [] := rfl
    rw [nothing, Document.merge_map, Document.mergeEntries_nil]
  · exact List.mem_cons_of_mem _ (List.mem_cons_of_mem _ List.mem_cons_self)

theorem unmentioned_secret : Unmentioned files [] settings.envFiles Credential.secret.variableName := by
  have reports : (loadEnvFiles files [] settings.envFiles).2 =
      [⟨"a.env", .loaded⟩, ⟨"b.env", .loaded⟩] := by cbv
  have first : (EnvFile.lines (octets "APP=first\n")).1 = ["APP=first".toList] := by cbv
  have second : (EnvFile.lines (octets "APP=second\n")).1 = ["APP=second".toList] := by cbv
  intro report among source content line inside
  rw [reports] at among
  rcases List.mem_cons.mp among with rfl | among
  · obtain rfl : octets "APP=first\n" = source := FileEntry.content.inj content
    rw [first] at inside
    obtain rfl := List.mem_singleton.mp inside
    decide +kernel
  · obtain rfl := List.mem_singleton.mp among
    obtain rfl : octets "APP=second\n" = source := FileEntry.content.inj content
    rw [second] at inside
    obtain rfl := List.mem_singleton.mp inside
    decide +kernel

/-- The file has no secret, so one can be set by the variable. -/
theorem overridden_credentials_of_secret :
    HoldsCredentials files [] "gateway.json" credentials ∧
      (load files [] (some "gateway.json")).result = .ok loaded ∧
      (load files (Environment.add [] Credential.secret.variableName "secret")
        (some "gateway.json")).result =
        .ok { loaded with oauth := { loaded.oauth with clientSecret := "secret" } } := by
  have texts : ∀ text ∈ (settings.withCredential .secret "").expandedTexts,
      ¬ Credential.secret.variableName.toList <:+: text.toList := by
    decide +kernel
  have letters : ∀ char ∈ "secret".toList, char.isAlpha = true := List.all_eq_true.mp (by decide)
  have outcome := overridden_credentials holdsCredentials rfl read_file load_file texts
    unmentioned_secret "secret" letters (by decide) (by decide)
  rw [if_neg (by decide)] at outcome
  exact ⟨holdsCredentials, load_file, outcome⟩

/-- The file has the id under the key with a dash. With the variable of the id set it is not
loaded any more. -/
theorem dashed_id_twice :
    HoldsCredentials files [] "gateway.json" credentials ∧
      (load files [] (some "gateway.json")).result = .ok loaded ∧
      (load files (Environment.add [] Credential.id.variableName "gateway") (some "gateway.json")).result =
        .error (.settings ("duplicate field \x60client_id\x60 for key \x22OAUTH\x22 in " ++
          "\x60SSO_GATEWAY_\x60 environment variable(s)")) := by
  have unset : Environment.get? [] Credential.id.variableName = none := rfl
  have outcome := read_overridden holdsCredentials unset read_file "gateway"
  rw [if_pos (by decide)] at outcome
  refine ⟨holdsCredentials, load_file, ?_⟩
  rw [load_of_fault outcome]
  have told : (⟨.duplicate Credential.id.key, .variables, ["oauth"]⟩ : Mistake).message =
      "duplicate field \x60client_id\x60 for key \x22OAUTH\x22 in " ++
        "\x60SSO_GATEWAY_\x60 environment variable(s)" := by
    decide +kernel
  rw [told]

end OneFile

namespace Settings

variable {files : Files} {environment : Environment} {path : String} {settings : Settings}
  {fields : List (String × Document)}

/-- A secret in a variable. The value of the variable counts if it is a text, and nothing is
loaded if it is of another kind. A plain text stands for itself. -/
theorem secret_values (holds : HoldsCredentials files environment path fields)
    (unset : environment.get? Credential.secret.variableName = none)
    (once : Credential.secret.dashed ∉ fields.map (·.1))
    (found : Settings.read files environment (some path) = .ok settings) (value : String)
    (complete :
      let reached := (loadEnvFiles files (environment.add Credential.secret.variableName value)
        settings.envFiles).1
      (settings.expand reached).validate reached = .ok ()) :
    let loading := load files (environment.add Credential.secret.variableName value) (some path)
    (∀ text, Variables.text? value = some text →
      loading.result = .ok ((settings.expand loading.environment).withCredential .secret
        (Placeholder.expand loading.environment text))) ∧
    (Variables.text? value = none →
      loading.result = .error (.settings (⟨.kind (.of (Variables.value value)) "a string", .variables,
        ["oauth", "client_secret"]⟩ : Mistake).message)) ∧
    (Variables.IsPlain value.toList → '$' ∉ value.toList →
      ∃ loaded, loading.result = .ok loaded ∧ loaded.oauth.clientSecret = value ∧
        (¬ Environment.reference <+: value.toList →
          loaded.oauth.resolvedSecret loading.environment = value)) := by
  have outcome := read_overridden holds unset found value
  rw [if_neg once] at outcome
  have texts : ∀ text, Variables.text? value = some text →
      let loading := load files (environment.add Credential.secret.variableName value) (some path)
      loading.result = .ok ((settings.expand loading.environment).withCredential .secret
        (Placeholder.expand loading.environment text)) := by
    intro text read
    rw [read] at outcome
    simp only [load_of_read outcome, expand_withCredential]
    exact congrArg (Except.map _) complete
  refine ⟨texts, ?_, ?_⟩
  · intro other
    rw [other] at outcome
    simp only [load_of_fault outcome]
    rfl
  · intro plain dollar
    refine ⟨_, texts value plain.text?, Placeholder.expand_of_plain _ dollar, ?_⟩
    intro apart
    rw [OAuthSettings.resolvedSecret]
    simp only [withCredential, Credential.assign, Placeholder.expand_of_plain _ dollar]
    exact Environment.resolve_of_plain apart

end Settings

namespace OneFile
open Settings

theorem complete (value : String) :
    let reached := (loadEnvFiles files (Environment.add [] Credential.secret.variableName value)
      settings.envFiles).1
    (settings.expand reached).validate reached = .ok () := by
  have texts : ∀ text ∈ settings.expandedTexts,
      ¬ Credential.secret.variableName.toList <:+: text.toList := by
    decide +kernel
  have alike := alike_loadEnvFiles (Environment.alikeBut_add [] Credential.secret.variableName value)
    (by decide) unmentioned_secret
  have alone := load_file
  rw [load_of_read read_file] at alone
  have same := (of_validated alone).2
  intro reached
  rw [← expand_congr alike texts, ← same]
  rfl

theorem plain_secret : Variables.IsPlain "s3cret-x".toList where
  front char first := by
    obtain rfl : 's' = char := Option.some.inj first
    rfl
  back char last := by
    obtain rfl : 'x' = char := Option.some.inj last
    rfl
  truth := by decide
  number := by decide
  map := nofun
  list := nofun
  quoted := nofun
  letter := nofun

theorem secret_values_of_plain :
    HoldsCredentials files [] "gateway.json" credentials ∧
      ∃ loaded, (load files (Environment.add [] Credential.secret.variableName "s3cret-x")
        (some "gateway.json")).result = .ok loaded ∧ loaded.oauth.clientSecret = "s3cret-x" := by
  obtain ⟨_, _, plain⟩ := secret_values holdsCredentials rfl (by decide) read_file "s3cret-x"
    (complete "s3cret-x")
  obtain ⟨loaded, result, secret, _⟩ := plain plain_secret (by decide)
  exact ⟨holdsCredentials, loaded, result, secret⟩

/-- A secret of digits is a number, and is refused. -/
theorem digits_refused :
    HoldsCredentials files [] "gateway.json" credentials ∧
      (load files [] (some "gateway.json")).result = .ok loaded ∧
      (load files (Environment.add [] Credential.secret.variableName "12345") (some "gateway.json")).result =
        .error (.settings ("invalid type: found unsigned int \x6012345\x60, expected a string " ++
          "for key \x22OAUTH.CLIENT_SECRET\x22 in \x60SSO_GATEWAY_\x60 environment variable(s)")) := by
  have unset : Environment.get? [] Credential.secret.variableName = none := rfl
  have outcome := read_overridden holdsCredentials unset read_file "12345"
  have number : Variables.value "12345" = .scalar .variables (.natural 12345) := by cbv
  have other : Variables.text? "12345" = none := by rw [Variables.text?, number]
  rw [if_neg (by decide), other, number] at outcome
  refine ⟨holdsCredentials, load_file, ?_⟩
  simp only [load_of_fault outcome]
  have told : (⟨.kind (.of (.scalar .variables (.natural 12345))) "a string", .variables,
        ["oauth", "client_secret"]⟩ : Mistake).message =
      "invalid type: found unsigned int \x6012345\x60, expected a string " ++
        "for key \x22OAUTH.CLIENT_SECRET\x22 in \x60SSO_GATEWAY_\x60 environment variable(s)" := by
    decide +kernel
  rw [← told]
  rfl

end OneFile

end LoginGateway
