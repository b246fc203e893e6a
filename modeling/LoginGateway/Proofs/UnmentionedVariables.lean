import LoginGateway.Proofs.Cutting
import LoginGateway.Proofs.VariableFiles

/-! A variable that no text mentions makes no difference. Files of variables define the same
with it and without it, and placeholders stand for the same. -/

namespace LoginGateway

/-- Environments in which all variables but one have the same values. -/
def Environment.AlikeBut (name : String) (first second : Environment) : Prop :=
  ∀ other, other ≠ name → first.get? other = second.get? other

theorem Environment.AlikeBut.add {name : String} {first second : Environment}
    (alike : AlikeBut name first second) (key value : String) :
    AlikeBut name (first.add key value) (second.add key value) := by
  intro other apart
  rw [get?_add, get?_add, alike other apart]

theorem Environment.AlikeBut.addAll {name : String} {first second : Environment}
    (alike : AlikeBut name first second) (entries : List (String × String)) :
    AlikeBut name (first.addAll entries) (second.addAll entries) := by
  intro other apart
  rw [get?_addAll, get?_addAll, alike other apart]

namespace EnvFile

variable {first second : List Char → List Char} {text : List Char}

def ValueMode.held : ValueMode → List Char
  | .name chars | .braced chars => chars
  | _ => []

namespace ValueReader

theorem step_congr {reader : ValueReader} (same : first reader.mode.held = second reader.mode.held)
    (char : Char) : reader.step first char = reader.step second char := by
  obtain ⟨output, mode, double⟩ := reader
  cases mode with
  | name chars =>
    change first chars = second chars at same
    simp only [step, same]
  | braced chars =>
    change first chars = second chars at same
    simp only [step, same]
  | _ => rfl

theorem held_step {value : List Char → List Char} {reader next : ValueReader} {char : Char}
    (stepped : reader.step value char = some next) : next.mode.held <:+ reader.mode.held ++ [char] := by
  obtain ⟨output, mode, double⟩ := reader
  cases mode with
  | name chars =>
    simp only [step] at stepped
    split at stepped
    next =>
      cases stepped
      exact List.suffix_refl _
    next =>
      repeat' split at stepped
      all_goals
        cases stepped
        exact List.nil_suffix
  | braced chars =>
    simp only [step] at stepped
    split at stepped
    next =>
      cases stepped
      exact List.nil_suffix
    next =>
      cases stepped
      exact List.suffix_refl _
  | text =>
    cases stepped
    simp only [stepText]
    repeat' split
    all_goals exact List.nil_suffix
  | single =>
    cases stepped
    split
    all_goals exact List.nil_suffix
  | escape =>
    obtain ⟨stands, _, made⟩ := Option.map_eq_some_iff.mp stepped
    cases made
    exact List.nil_suffix
  | ended =>
    simp only [step] at stepped
    split at stepped
    next =>
      cases stepped
      exact List.nil_suffix
    next => cases stepped

theorem held_step_append {value : List Char → List Char} {reader next : ValueReader} {char : Char}
    (stepped : reader.step value char = some next) (rest : List Char) :
    next.mode.held ++ rest <:+: reader.mode.held ++ char :: rest := by
  obtain ⟨before, whole⟩ := held_step stepped
  refine ⟨before, [], ?_⟩
  rw [List.append_nil, ← List.append_assoc, whole, List.append_assoc]
  rfl

theorem held_run {value : List Char → List Char} {place : Nat} {reader last : ValueReader}
    {rest : List Char} (read : reader.run value place rest = .ok last) :
    last.mode.held <:+: reader.mode.held ++ rest := by
  -- The name that is held and the rest of the text stand together in the text at every step.
  induction rest generalizing place reader with
  | nil =>
    cases read
    exact (List.prefix_append _ _).isInfix
  | cons char rest ih =>
    rw [run] at read
    split at read
    next =>
      cases read
      exact (List.prefix_append _ _).isInfix
    next =>
      split at read
      next next stepped => exact (ih read).trans (held_step_append stepped rest)
      next => cases read

theorem run_congr {place : Nat} {reader : ValueReader} {rest : List Char}
    (same : ∀ chars, chars <:+: reader.mode.held ++ rest → first chars = second chars) :
    reader.run first place rest = reader.run second place rest := by
  induction rest generalizing place reader with
  | nil => rfl
  | cons char rest ih =>
    rw [run, run, step_congr (same _ (List.prefix_append _ _).isInfix)]
    split
    next => rfl
    next =>
      split
      next next stepped =>
        exact ih fun chars inside => same chars (inside.trans (held_step_append stepped rest))
      next => rfl

theorem finish_congr {reader : ValueReader}
    (same : first reader.mode.held = second reader.mode.held) :
    reader.finish first = reader.finish second := by
  obtain ⟨output, mode, double⟩ := reader
  cases mode with
  | name chars =>
    change first chars = second chars at same
    simp only [finish, same]
  | _ => rfl

end ValueReader

/-- A value depends on the variables that its text mentions. -/
theorem readValue_congr (same : ∀ chars, chars <:+: text → first chars = second chars) :
    readValue first text = readValue second text := by
  have read : ∀ chars, chars <:+: ValueReader.start.mode.held ++ text → first chars = second chars := same
  rw [readValue, readValue, ValueReader.run_congr read]
  split
  next => rfl
  next reader read => rw [ValueReader.finish_congr (same _ (ValueReader.held_run read))]

theorem suffix_readKey {key after : List Char} (read : readKey text = some (key, after)) :
    after <:+ text := by
  rw [readKey] at read
  split at read
  next =>
    cases read
    exact (List.dropWhile_suffix _).trans (List.dropWhile_suffix _)
  next => cases read

theorem suffix_behindEquals? {rest : List Char} (found : behindEquals? text = some rest) :
    rest <:+ text := by
  unfold behindEquals? at found
  split at found
  next =>
    cases found
    exact List.suffix_cons _ _
  next => cases found

theorem suffix_readAssignment {key rest : List Char} (read : readAssignment text = .ok (key, rest)) :
    rest <:+ text := by
  unfold readAssignment at read
  split at read
  next => cases read
  next named =>
    split at read
    next found =>
      cases read
      exact (suffix_behindEquals? found).trans (suffix_readKey named)
    next =>
      split at read
      next => cases read
      next =>
        split at read
        next => cases read
        next again =>
          split at read
          next found =>
            cases read
            exact ((suffix_behindEquals? found).trans (suffix_readKey again)).trans (suffix_readKey named)
          next => cases read

variable {name : String} {environment other : Environment}

theorem lookUp_congr (alike : environment.AlikeBut name other) (entries : List Entry)
    {chars : List Char} (apart : chars ≠ name.toList) :
    lookUp environment entries chars = lookUp other entries chars := by
  have same := alike (String.ofList chars) fun equal => apart (by rw [← equal, String.toList_ofList])
  simp only [lookUp, same]

theorem readLine_congr (alike : environment.AlikeBut name other) (entries : List Entry)
    {line : List Char} (absent : ¬ name.toList <:+: line) :
    readLine environment entries line = readLine other entries line := by
  simp only [readLine]
  split
  next => rfl
  next =>
    split
    next => rfl
    next key rest read =>
      split
      next => rfl
      next =>
        rw [readValue_congr]
        intro chars inside
        apply lookUp_congr alike
        rintro rfl
        have start : rest <:+ skipBlanks (dropRightWhile isBlankChar line) :=
          suffix_readAssignment read
        have text := (List.dropWhile_suffix isBlankChar).trans (start.trans (List.dropWhile_suffix _))
        exact absent ((inside.trans text.isInfix).trans (dropRightWhile_front _ line).isInfix)

theorem entriesOf_congr (alike : environment.AlikeBut name other) (earlier : List Entry)
    {lines : List (List Char)} (absent : ∀ line ∈ lines, ¬ name.toList <:+: line) :
    entriesOf earlier environment lines = entriesOf earlier other lines := by
  induction lines generalizing earlier environment other with
  | nil => rfl
  | cons line rest ih =>
    obtain ⟨here, later⟩ := List.forall_mem_cons.mp absent
    rw [entriesOf, entriesOf, readLine_congr alike earlier here]
    cases readLine other earlier line with
    | error fault => rfl
    | ok found =>
      cases found with
      | none => exact ih alike earlier later
      | some entry => exact congrArg (entry :: ·) (ih (alike.add entry.1 entry.2) (entry :: earlier) later)

end EnvFile

namespace Settings

variable {files : Files} {name : String} {environment other : Environment}

/-- None of the files of variables that are read mentions a variable. -/
def Unmentioned (files : Files) (environment : Environment) (paths : List String) (name : String) :
    Prop :=
  ∀ report ∈ (loadEnvFiles files environment paths).2, ∀ source,
    files report.path = .content source →
    ∀ line ∈ (EnvFile.lines source).1, ¬ name.toList <:+: line

theorem homePath_congr (alike : environment.AlikeBut name other) (apart : name ≠ "HOME") (path : String) :
    homePath environment path = homePath other path := by
  rw [homePath, homePath, alike "HOME" (Ne.symm apart)]

theorem entriesIn_congr (alike : environment.AlikeBut name other) (apart : name ≠ "HOME") {path : String}
    (absent : ∀ source, files (homePath environment path) = .content source →
      ∀ line ∈ (EnvFile.lines source).1, ¬ name.toList <:+: line) :
    entriesIn files environment path = entriesIn files other path := by
  rw [entriesIn, entriesIn, ← homePath_congr alike apart]
  split
  next source content => exact EnvFile.entriesOf_congr alike [] (absent source content)
  next => rfl

theorem reports_cons (files : Files) (environment : Environment) (path : String) (rest : List String) :
    (loadEnvFiles files environment (path :: rest)).2 =
      (loadEnvFile files environment path).2 ::
        (loadEnvFiles files (environment.addAll (entriesIn files environment path)) rest).2 := by
  rw [← loadEnvFile_eq]
  rfl

theorem path_loadEnvFile (files : Files) (environment : Environment) (path : String) :
    (loadEnvFile files environment path).2.path = homePath environment path := by
  simp only [loadEnvFile]
  split <;> rfl

/-- Files of variables leave the same behind, apart from a variable that none of them mentions. -/
theorem alike_loadEnvFiles {paths : List String} (alike : environment.AlikeBut name other)
    (apart : name ≠ "HOME") (absent : Unmentioned files environment paths name) :
    (loadEnvFiles files environment paths).1.AlikeBut name (loadEnvFiles files other paths).1 := by
  induction paths generalizing environment other with
  | nil => exact alike
  | cons path rest ih =>
    rw [Unmentioned, reports_cons] at absent
    obtain ⟨here, later⟩ := List.forall_mem_cons.mp absent
    rw [path_loadEnvFile] at here
    rw [loadEnvFiles_cons, loadEnvFiles_cons, ← entriesIn_congr alike apart here]
    exact ih (alike.addAll _) later

end Settings

namespace Placeholder

variable {name : String} {environment other : Environment} {text after : List Char}
  {placeholder : Placeholder}

theorem suffix_closing? {fallback : List Char} (closed : closing? text = some (fallback, after)) :
    after <:+ text := by
  unfold closing? at closed
  split at closed
  next =>
    cases closed
    exact List.suffix_cons _ _
  next rest =>
    split at closed
    next brace behind found =>
      cases closed
      have behindBrace : after <:+ rest.dropWhile (· ≠ '}') := found ▸ List.suffix_cons _ _
      have inside := behindBrace.trans (List.dropWhile_suffix _)
      exact (inside.trans (List.suffix_cons '-' rest)).trans (List.suffix_cons ':' _)
    next => cases closed
  next => cases closed

theorem infix_front? (found : front? text = some (placeholder, after)) :
    placeholder.name <:+: text ∧ after <:+: text := by
  unfold front? at found
  split at found
  next start rest =>
    split at found
    next =>
      obtain ⟨⟨fallback, left⟩, closed, same⟩ := Option.map_eq_some_iff.mp found
      cases same
      have behind : start :: rest <:+ '$' :: '{' :: start :: rest := ⟨['$', '{'], rfl⟩
      have named : start :: rest.takeWhile isNameChar <+: start :: rest :=
        List.cons_prefix_cons.mpr ⟨rfl, List.takeWhile_prefix _⟩
      have left := (suffix_closing? closed).trans (List.dropWhile_suffix _)
      exact ⟨named.isInfix.trans behind.isInfix,
        ((left.trans (List.suffix_cons start rest)).trans behind).isInfix⟩
    next => cases found
  next => cases found

theorem value_congr (alike : environment.AlikeBut name other) (apart : placeholder.name ≠ name.toList) :
    placeholder.value environment = placeholder.value other := by
  have same := alike (String.ofList placeholder.name) fun equal =>
    apart (by rw [← equal, String.toList_ofList])
  rw [Placeholder.value, Placeholder.value, same]

theorem expandChars_nil (environment : Environment) : expandChars environment [] = [] := by
  rw [expandChars]
  rfl

theorem expandChars_cons_of_front? {char : Char} {rest : List Char} (none : front? (char :: rest) = none) :
    expandChars environment (char :: rest) = char :: expandChars environment rest := by
  rw [expandChars]
  split
  next found => cases none.symm.trans found
  next => rfl

/-- A text that does not mention a variable stands for the same with and without it. -/
theorem expandChars_congr (alike : environment.AlikeBut name other) (absent : ¬ name.toList <:+: text) :
    expandChars environment text = expandChars other text := by
  induction text using expandChars.induct with
  | case1 text placeholder after found shorter ih =>
    obtain ⟨named, left⟩ := infix_front? found
    rw [expandChars_of_front? found, expandChars_of_front? found, ih fun inside => absent (inside.trans left),
      value_congr alike fun same => absent (same ▸ named)]
  | case2 => rw [expandChars_nil, expandChars_nil]
  | case3 char rest none ih =>
    rw [expandChars_cons_of_front? none, expandChars_cons_of_front? none,
      ih fun inside => absent (inside.trans (List.suffix_cons char rest).isInfix)]

theorem expand_congr (alike : environment.AlikeBut name other) {text : String}
    (absent : ¬ name.toList <:+: text.toList) : expand environment text = expand other text :=
  congrArg String.ofList (expandChars_congr alike absent)

end Placeholder

namespace Settings

def expandedTexts (settings : Settings) : List String :=
  [settings.oauth.clientId, settings.oauth.clientSecret, settings.oauth.domain] ++
    settings.routes.map (·.backend)

theorem expand_congr {settings : Settings} {name : String} {environment other : Environment}
    (alike : environment.AlikeBut name other)
    (absent : ∀ text ∈ settings.expandedTexts, ¬ name.toList <:+: text.toList) :
    settings.expand environment = settings.expand other := by
  have same : ∀ text ∈ settings.expandedTexts,
      Placeholder.expand environment text = Placeholder.expand other text :=
    fun text among => Placeholder.expand_congr alike (absent text among)
  have backends : ∀ route ∈ settings.routes,
      Placeholder.expand environment route.backend = Placeholder.expand other route.backend :=
    fun route among => same _ (List.mem_append_right _ (List.mem_map_of_mem among))
  have routes : settings.routes.map (fun route =>
        { route with backend := Placeholder.expand environment route.backend }) =
      settings.routes.map (fun route =>
        { route with backend := Placeholder.expand other route.backend }) :=
    List.map_congr_left fun route among => by rw [backends route among]
  simp only [expandedTexts, List.cons_append, List.forall_mem_cons] at same
  simp only [expand, same, routes]

end Settings

end LoginGateway
