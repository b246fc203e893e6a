import LoginGateway.Proofs.Utf8
import LoginGateway.Settings.Load
import Mathlib

/-! Files of variables, read in turn. A variable that is set is never set again, so that of
all files that define a variable the first one counts, and of all entries in a file the first
one. References in the settings are resolved with what the files leave behind. -/

namespace LoginGateway

namespace Environment

variable {environment : Environment}

/-- Entries added in turn. -/
def addAll (environment : Environment) (entries : List (String × String)) : Environment :=
  entries.foldl (fun environment (name, value) => environment.add name value) environment

theorem get?_add (environment : Environment) (name value other : String) :
    (environment.add name value).get? other =
      (environment.get? other).or (if name = other then some value else none) := by
  unfold add
  split
  next set =>
    split
    next same =>
      subst same
      obtain ⟨held, found⟩ := Option.isSome_iff_exists.mp set
      rw [found]
      rfl
    next => exact (Option.or_none).symm
  next =>
    rw [get?, List.find?_append, Option.map_or, get?]
    by_cases same : name = other <;> simp [same]

theorem addAll_cons (entry : String × String) (entries : List (String × String)) :
    environment.addAll (entry :: entries) = (environment.add entry.1 entry.2).addAll entries := rfl

theorem addAll_append (first second : List (String × String)) :
    environment.addAll (first ++ second) = (environment.addAll first).addAll second :=
  List.foldl_append

/-- What was set stays as it is, and of the entries the first of a name counts. -/
theorem get?_addAll (entries : List (String × String)) (name : String) :
    (environment.addAll entries).get? name = (environment.get? name).or (entries.lookup name) := by
  induction entries generalizing environment with
  | nil => exact (Option.or_none).symm
  | cons entry entries ih =>
    rw [addAll_cons, ih, get?_add, Option.or_assoc, List.lookup_cons]
    by_cases same : entry.1 = name
    · simp [same]
    · have other : (name == entry.1) = false := beq_false_of_ne (Ne.symm same)
      simp [same, other]

end Environment

namespace EnvFile

/-- The entries of lines that are read in turn, up to the first fault. A value can refer to
what the environment holds by then. -/
def entriesOf : List Entry → Environment → List (List Char) → List Entry
  | _, _, [] => []
  | earlier, environment, line :: rest =>
    match readLine environment earlier line with
    | .error _ => []
    | .ok none => entriesOf earlier environment rest
    | .ok (some entry) =>
      entry :: entriesOf (entry :: earlier) (environment.add entry.1 entry.2) rest

theorem readLines_eq (earlier : List Entry) (environment : Environment) (lines : List (List Char)) :
    (readLines earlier environment lines).1 =
      environment.addAll (entriesOf earlier environment lines) := by
  induction lines generalizing earlier environment with
  | nil => rfl
  | cons line rest ih =>
    rw [readLines, entriesOf]
    cases readLine environment earlier line with
    | error fault => rfl
    | ok found =>
      cases found with
      | none => exact ih earlier environment
      | some entry => exact ih (entry :: earlier) (environment.add entry.1 entry.2)

end EnvFile

namespace Settings

variable {files : Files} {environment : Environment} {paths : List String} {name value : String}

/-- What a file of variables defines; a file that is not there defines nothing. -/
def entriesIn (files : Files) (environment : Environment) (path : String) : List EnvFile.Entry :=
  match files (homePath environment path) with
  | .content source => EnvFile.entriesOf [] environment (EnvFile.lines source).1
  | _ => []

def entriesInAll (files : Files) : Environment → List String → List EnvFile.Entry
  | _, [] => []
  | environment, path :: rest =>
    let entries := entriesIn files environment path
    entries ++ entriesInAll files (environment.addAll entries) rest

theorem loadEnvFile_eq (files : Files) (environment : Environment) (path : String) :
    (loadEnvFile files environment path).1 =
      environment.addAll (entriesIn files environment path) := by
  simp only [loadEnvFile, entriesIn]
  cases files (homePath environment path) with
  | missing => rfl
  | directory => rfl
  | content source =>
    simp only
    rw [← EnvFile.readLines_eq]
    rfl

theorem loadEnvFiles_cons (files : Files) (environment : Environment) (path : String)
    (rest : List String) : (loadEnvFiles files environment (path :: rest)).1 =
      (loadEnvFiles files (environment.addAll (entriesIn files environment path)) rest).1 := by
  rw [← loadEnvFile_eq]
  rfl

theorem loadEnvFiles_eq (files : Files) (environment : Environment) (paths : List String) :
    (loadEnvFiles files environment paths).1 =
      environment.addAll (entriesInAll files environment paths) := by
  induction paths generalizing environment with
  | nil => rfl
  | cons path rest ih =>
    rw [loadEnvFiles_cons, entriesInAll, Environment.addAll_append]
    exact ih _

theorem entriesInAll_append (files : Files) (environment : Environment) (before after : List String) :
    entriesInAll files environment (before ++ after) = entriesInAll files environment before ++
      entriesInAll files (loadEnvFiles files environment before).1 after := by
  induction before generalizing environment with
  | nil => rfl
  | cons path rest ih =>
    rw [List.cons_append, entriesInAll, entriesInAll, ih, loadEnvFiles_cons, List.append_assoc]

/-- The first of the files that defines a variable gives it this value. -/
def FirstDefines (files : Files) (environment : Environment) (paths : List String)
    (name value : String) : Prop :=
  ∃ before path after, paths = before ++ path :: after ∧
    (∀ entry ∈ entriesInAll files environment before, entry.1 ≠ name) ∧
    (entriesIn files (loadEnvFiles files environment before).1 path).lookup name = some value

theorem lookup_entriesInAll : (entriesInAll files environment paths).lookup name = some value ↔
    FirstDefines files environment paths name value := by
  constructor
  · induction paths generalizing environment with
    | nil => nofun
    | cons path rest ih =>
      intro found
      rw [entriesInAll, List.lookup_append] at found
      cases here : (entriesIn files environment path).lookup name with
      | some first =>
        rw [here] at found
        cases found
        exact ⟨[], path, rest, rfl, nofun, here⟩
      | none =>
        rw [here] at found
        obtain ⟨before, last, after, rfl, earlier, defines⟩ := ih found
        refine ⟨path :: before, last, after, rfl, ?_, ?_⟩
        · intro entry inside
          rcases List.mem_append.mp inside with first | later
          · simpa using (bne_iff_ne.mp (List.lookup_eq_none_iff.mp here entry first)).symm
          · exact earlier entry later
        · rw [loadEnvFiles_cons]
          exact defines
  · rintro ⟨before, path, after, rfl, earlier, defines⟩
    have absent : (entriesInAll files environment before).lookup name = none :=
      List.lookup_eq_none_iff.mpr fun entry inside => bne_iff_ne.mpr (earlier entry inside).symm
    rw [entriesInAll_append, List.lookup_append, absent, entriesInAll, List.lookup_append, defines]
    rfl

/-- Settings that could be read are loaded with what the files of variables leave behind. -/
theorem load_of_read {path : Option String} {settings : Settings}
    (found : read files environment path = .ok settings) :
    load files environment path =
      let reached := (loadEnvFiles files environment settings.envFiles).1
      ⟨(loadEnvFiles files environment settings.envFiles).2, reached,
        ((settings.expand reached).validate reached).map fun _ => settings.expand reached⟩ := by
  rw [load, found]

theorem of_validated {checked : Except Fault Unit} {settings expanded : Settings}
    (valid : checked.map (fun _ => settings) = .ok expanded) :
    checked = .ok () ∧ expanded = settings := by
  cases checked with
  | error fault => cases valid
  | ok _ =>
    cases valid
    exact ⟨rfl, rfl⟩

theorem load_of_fault {path : Option String} {fault : Fault}
    (failed : read files environment path = .error fault) :
    load files environment path = ⟨[], environment, .error fault⟩ := by
  rw [load, failed]

theorem get?_loaded {path : Option String} {settings : Settings}
    (found : read files environment path = .ok settings)
    (unset : environment.get? name = none) :
    (load files environment path).environment.get? name = some value ↔
      FirstDefines files environment settings.envFiles name value := by
  rw [load_of_read found, ← lookup_entriesInAll]
  simp only [loadEnvFiles_eq, Environment.get?_addAll, unset, Option.none_or]

end Settings

namespace Environment

variable {environment : Environment} {name value : String}

theorem resolve_reference (set : environment.get? name = some value) :
    environment.resolve ("env:" ++ name) = value := by
  have starts : reference.isPrefixOf ("env:" ++ name).toList = true := by
    rw [String.toList_append]
    exact List.isPrefixOf_iff_prefix.mpr (List.prefix_append _ _)
  have rest : ("env:" ++ name).toList.drop 4 = name.toList := by
    rw [String.toList_append]
    exact List.drop_left' (by decide)
  rw [resolve, if_pos starts, rest, String.ofList_toList, set, Option.getD_some]

end Environment

namespace Placeholder

variable {environment : Environment} {text after : List Char} {placeholder : Placeholder}

theorem expandChars_of_front? (found : front? text = some (placeholder, after)) :
    expandChars environment text = placeholder.value environment ++ expandChars environment after := by
  rw [expandChars]
  split
  next other left same =>
    cases found.symm.trans same
    rfl
  next absent => cases found.symm.trans absent

theorem value_of_get? {value : String}
    (set : environment.get? (String.ofList placeholder.name) = some value) :
    placeholder.value environment = value.toList := by
  rw [Placeholder.value, set]

end Placeholder

namespace Settings

/-- Settings are expanded with the environment that the files of variables leave behind. A
variable that was not set before has there the value that the first file to define it gives
it, whatever later files say, and this value is what a reference to it and what a placeholder
of its name stand for. -/
theorem references_resolved {files : Files} {environment : Environment} {path : Option String}
    {settings : Settings} (found : read files environment path = .ok settings) :
    let loading := load files environment path
    (∀ expanded, loading.result = .ok expanded → expanded = settings.expand loading.environment) ∧
    ∀ name, environment.get? name = none →
      (∀ value, loading.environment.get? name = some value ↔
        FirstDefines files environment settings.envFiles name value) ∧
      ∀ value, FirstDefines files environment settings.envFiles name value →
        loading.environment.resolve ("env:" ++ name) = value ∧
        ∀ text placeholder after, Placeholder.front? text = some (placeholder, after) →
          placeholder.name = name.toList →
          Placeholder.expandChars loading.environment text =
            value.toList ++ Placeholder.expandChars loading.environment after := by
  refine ⟨?_, ?_⟩
  · intro expanded loaded
    rw [load_of_read found] at loaded ⊢
    simp only at loaded ⊢
    exact (of_validated loaded).2
  · intro name unset
    refine ⟨fun value => get?_loaded found unset, ?_⟩
    intro value first
    have set := (get?_loaded found unset).mpr first
    refine ⟨Environment.resolve_reference set, ?_⟩
    intro text placeholder after starts named
    rw [Placeholder.expandChars_of_front? starts, Placeholder.value_of_get?]
    rw [named, String.ofList_toList]
    exact set

end Settings

namespace OneFile
open Settings

def text : String := "\x7b" ++
  "\"env_files\":[\"a.env\",\"b.env\"],\"host\":\"sso.org.com\"," ++
  "\"oauth\":\x7b\"client-id\":\"$\x7bAPP\x7d\",\"domain\":\"org.com\"\x7d," ++
  "\"routes\":[\x7b\"from\":\"app.org.com\",\"to\":\"backend\"\x7d]\x7d"

def value : Json.Value := .object [
  ("env_files", .list [.string "a.env", .string "b.env"]),
  ("host", .string "sso.org.com"),
  ("oauth", .object [("client-id", .string "$\x7bAPP\x7d"), ("domain", .string "org.com")]),
  ("routes", .list [.object [("from", .string "app.org.com"), ("to", .string "backend")]])]

def files : Files := fun path =>
  if path = "gateway.json" then .content (octets text)
  else if path = "a.env" then .content (octets "APP=first\n")
  else if path = "b.env" then .content (octets "APP=second\n")
  else .missing

def origin : Origin := .file "gateway.json" "JSON"

def credentials : List (String × Document) :=
  [("client-id", .scalar origin (.text "$\x7bAPP\x7d")), ("domain", .scalar origin (.text "org.com"))]

def entries : List (String × Document) := [
  ("env_files", .list origin [.scalar origin (.text "a.env"), .scalar origin (.text "b.env")]),
  ("host", .scalar origin (.text "sso.org.com")),
  ("oauth", .map origin credentials),
  ("routes", .list origin [.map origin [("from", .scalar origin (.text "app.org.com")),
    ("to", .scalar origin (.text "backend"))]])]

def settings : Settings := { Settings.default with
  envFiles := ["a.env", "b.env"]
  host := "sso.org.com"
  oauth := { OAuthSettings.default with clientId := "$\x7bAPP\x7d", domain := "org.com" }
  routes := [⟨"app.org.com", "backend"⟩] }

theorem parse_text : Json.parse (octets text) = .ok value := by
  cbv

theorem document_of_file : fileDocument files "gateway.json" = .ok (.map origin entries) := by
  have json : isJson "gateway.json" = true := by decide
  have shown : shownPath "gateway.json" = "gateway.json" := by decide
  have start : (Json.skipBlanks (octets text)).head? = some 123 := by
    rw [text, String.append_assoc, octets, String.toList_append, Utf8.encode_append]
    rfl
  have content : files "gateway.json" = .content (octets text) := if_pos rfl
  have decoded : Utf8.decode? (octets text) = some text.toList := Utf8.decode?_encode text.toList
  have made : Document.ofJson origin value = .map origin entries := rfl
  rw [fileDocument, content, json, shown]
  simp only [sourceDocument, decoded, jsonDocument, start, parse_text, if_true]
  exact congrArg Except.ok made

theorem read_file : Settings.read files [] (some "gateway.json") = .ok settings := by
  have merged : (Document.map origin entries).merge (.map .variables []) =
      .map .variables entries := by
    rw [Document.merge, Document.mergeEntries]
  have document : Variables.document [] = .map .variables [] := rfl
  simp only [Settings.read, document_of_file, document, bind, Except.bind, merged]
  rfl

theorem entries_of_first : entriesIn files [] "a.env" = [("APP", "first")] := by
  cbv

theorem entries_of_second : entriesIn files [("APP", "first")] "b.env" = [("APP", "second")] := by
  cbv

theorem first_defines : FirstDefines files [] settings.envFiles "APP" "first" := by
  refine ⟨[], "a.env", ["b.env"], rfl, nofun, ?_⟩
  change (entriesIn files [] "a.env").lookup "APP" = _
  rw [entries_of_first]
  rfl

theorem references_resolved_of_file :
    Settings.read files [] (some "gateway.json") = .ok settings ∧
      FirstDefines files [] settings.envFiles "APP" "first" ∧
      (load files [] (some "gateway.json")).environment.resolve "env:APP" = "first" ∧
      Placeholder.expandChars (load files [] (some "gateway.json")).environment
        "$\x7bAPP:-none\x7d".toList = "first".toList := by
  have absent : Environment.get? [] "APP" = none := rfl
  have resolved := ((references_resolved read_file).2 "APP" absent).2 "first" first_defines
  refine ⟨read_file, first_defines, resolved.1, ?_⟩
  have expanded := resolved.2 "$\x7bAPP:-none\x7d".toList ⟨"APP".toList, "none".toList⟩ [] (by decide) rfl
  rw [expanded, Placeholder.expandChars]
  rfl

def loaded : Settings := { settings with oauth := { settings.oauth with clientId := "first" } }

theorem load_file : (load files [] (some "gateway.json")).result = .ok loaded := by
  have reached : (loadEnvFiles files [] settings.envFiles).1 = [("APP", "first")] := by cbv
  have expanded : settings.expand [("APP", "first")] = loaded := by cbv
  have valid : loaded.validate [("APP", "first")] = .ok () := rfl
  rw [load_of_read read_file]
  simp only [reached, expanded, valid]
  rfl

/-- The later of two files that define a variable is not heard. -/
theorem later_file_ignored :
    Settings.read files [] (some "gateway.json") = .ok settings ∧
      settings.envFiles = ["a.env", "b.env"] ∧ settings.oauth.clientId = "$\x7bAPP\x7d" ∧
      entriesIn files [] "a.env" = [("APP", "first")] ∧
      entriesIn files [("APP", "first")] "b.env" = [("APP", "second")] ∧
      ∃ expanded, (load files [] (some "gateway.json")).result = .ok expanded ∧
        expanded.oauth.clientId = "first" := by
  exact ⟨read_file, rfl, rfl, entries_of_first, entries_of_second, loaded, load_file, rfl⟩

end OneFile

end LoginGateway
