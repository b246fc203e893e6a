import LoginGateway.Proofs.Base64Strictness
import LoginGateway.Proofs.OrderedDocuments
import LoginGateway.Startup

/-! Command lines that differ in the word for the command alone. They are read alike: the options in
front of the word and those behind it have the same values. -/

namespace LoginGateway

namespace CommandLine

def doing (line : CommandLine) (command : Command) : CommandLine :=
  { line with command := some command }

namespace Level

variable {level : Level} {first second : Command} {key : Key}

def behind (level : Level) (command : Command) : Level := { level with place := some command }

/-- What is read behind one command is read behind another. -/
def Alike (first second : Command) (one other : Except Refusal Level) : Prop :=
  ∀ next, one = .ok next →
    ∃ base : Level, next = base.behind first ∧ other = .ok (base.behind second)

theorem Alike.ok (base : Level) :
    Alike first second (.ok (base.behind first)) (.ok (base.behind second)) := by
  intro next made
  cases made
  exact ⟨base, rfl, rfl⟩

theorem Alike.refused {refusal : Refusal} {other : Except Refusal Level} :
    Alike first second (.error refusal) other := nofun

theorem Alike.bind {one other : Except Refusal Level} {next next' : Level → Except Refusal Level}
    (alike : Alike first second one other)
    (later : ∀ base : Level, Alike first second (next (base.behind first)) (next' (base.behind second))) :
    Alike first second (one >>= next) (other >>= next') := by
  intro result made
  obtain ⟨middle, front, made⟩ := bind_eq_ok.mp made
  obtain ⟨base, rfl, rfl⟩ := alike middle front
  exact later base result made

theorem Alike.asked {asked : Refusal} {other : Except Refusal Level} :
    Alike first second (level.ask asked) other := by
  intro next made
  obtain ⟨_, -, refused⟩ := bind_eq_ok.mp made
  cases refused

theorem Alike.look {α : Type} (looked : Except Refusal α) (base : Level) :
    Alike first second (looked >>= fun _ => .ok (base.behind first))
      (looked >>= fun _ => .ok (base.behind second)) := by
  cases looked with
  | error refusal => exact .refused
  | ok _ => exact .ok base

theorem alike_give (level : Level) (text : String) :
    Alike first second ((level.behind first).give key text) ((level.behind second).give key text) := by
  rw [give, give]
  change Alike first second (if (level.given.lookup key).isSome = true then _ else _)
    (if (level.given.lookup key).isSome = true then _ else _)
  split
  next => exact .refused
  next =>
    cases accept key text with
    | error refusal => exact .refused
    | ok accepted => exact .ok { level with given := (key, text) :: level.given }

theorem alike_settle (level : Level) :
    Alike first second (level.behind first).settle (level.behind second).settle := by
  obtain ⟨place, given, pending⟩ := level
  cases pending with
  | none => exact .ok ⟨place, given, none⟩
  | some waiting =>
    obtain ⟨key, text⟩ := waiting
    cases text with
    | none => exact .refused
    | some text => exact alike_give ⟨place, given, none⟩ text

theorem alike_option (level : Level) (text : Option String) :
    Alike first second ((level.behind first).option key text) ((level.behind second).option key text) := by
  apply (alike_settle level).bind
  intro settled
  cases text with
  | none => exact .ok { settled with pending := some (key, none) }
  | some text => exact alike_give settled text

theorem keysAt_behind (level : Level) (first second : Command) :
    keysAt (level.behind first).place = keysAt (level.behind second).place := rfl

theorem alike_readLong (level : Level) (argument : List Char) :
    Alike first second ((level.behind first).readLong argument)
      ((level.behind second).readLong argument) := by
  simp only [readLong]
  rw [keysAt_behind level first second]
  split
  next key _ => exact alike_option level _
  next =>
    split
    · split
      · exact .refused
      · exact .asked
    · exact .refused

theorem alike_readShort (level : Level) (letter : Char) (rest : List Char) :
    Alike first second ((level.behind first).readShort letter rest)
      ((level.behind second).readShort letter rest) := by
  simp only [readShort]
  rw [keysAt_behind level first second]
  split
  next key _ => exact alike_option level _
  next =>
    split
    · exact .asked
    · split
      · exact .asked
      · exact .refused

theorem alike_readPlain (level : Level) (argument : String) :
    Alike first second ((level.behind first).readPlain argument)
      ((level.behind second).readPlain argument) := by
  simp only [readPlain]
  have waits : (level.behind first).waiting? = (level.behind second).waiting? := rfl
  rw [waits]
  split
  next key _ => exact .ok { level with pending := some (key, some argument) }
  next => exact .refused

theorem alike_readArgument (level : Level) (argument : String) :
    Alike first second ((level.behind first).readArgument argument)
      ((level.behind second).readArgument argument) := by
  rw [readArgument, readArgument]
  split
  · exact alike_readLong level _
  · exact alike_readShort level _ _
  · exact alike_readPlain level _

theorem alike_finish (second : Command) (level : Level) (environment : Environment) :
    Alike first second ((level.behind first).finish environment)
      ((level.behind second).finish environment) :=
  (alike_settle level).bind fun settled => .look _ settled

/-- No command stands behind a command, so a level behind one is read to its end. -/
theorem readLevel_behind {next : Level} {arguments : List String}
    {rest : Option (Command × List String)} (level : Level) (second : Command)
    (found : readLevel (level.behind first) arguments = .ok (next, rest)) :
    ∃ base : Level, next = base.behind first ∧
      readLevel (level.behind second) arguments = .ok (base.behind second, rest) := by
  induction arguments generalizing level with
  | nil =>
    cases found
    exact ⟨level, rfl, rfl⟩
  | cons argument arguments ih =>
    rw [readLevel] at found ⊢
    have inner (command : Command) : ¬((level.behind command).isOuter = true ∧
        (level.behind command).waiting? = none) := fun outer => nomatch outer.1
    simp only [if_neg (inner _)] at found ⊢
    split at found
    next dashes =>
      rw [if_pos dashes]
      cases arguments with
      | nil =>
        cases found
        exact ⟨level, rfl, rfl⟩
      | cons word words => cases found
    next other =>
      rw [if_neg other]
      split at found
      next after read =>
        obtain ⟨base, rfl, alike⟩ := alike_readArgument level argument _ read
        rw [alike]
        exact ih base found
      next => cases found

end Level

open Topic

variable {level next : Level} {first second : Command} {arguments back : List String}

theorem commandWord?_commandName (command : Command) :
    commandWord? (commandName command) = some (.command command) := by
  cases command <;> rfl

theorem commandName_of_commandWord? {argument : String}
    (named : commandWord? argument = some (.command first)) : argument = commandName first := by
  unfold commandWord? at named
  split at named <;> cases named <;> rfl

/-- Where one command word ends what is read in front of a command, another one does so too. -/
theorem readLevel_word (found : readLevel level arguments = .ok (next, some (first, back))) :
    ∃ front, arguments = front ++ commandName first :: back ∧ ∀ second,
      readLevel level (front ++ commandName second :: back) = .ok (next, some (second, back)) := by
  induction arguments generalizing level with
  | nil => cases found
  | cons argument arguments ih =>
    rw [readLevel] at found
    split at found
    next command word =>
      cases found
      split at word
      next outer =>
        refine ⟨[], congrArg (· :: back) (commandName_of_commandWord? word), fun second => ?_⟩
        rw [List.nil_append, readLevel, if_pos outer, commandWord?_commandName]
      next => cases word
    next => cases found
    next plain =>
      split at found
      · split at found <;> cases found
      next dashes =>
      split at found
      next after read =>
        obtain ⟨front, rfl, others⟩ := ih found
        refine ⟨argument :: front, rfl, fun second => ?_⟩
        rw [List.cons_append, readLevel, plain, if_neg dashes, read]
        exact others second
      next => cases found

/-- Arguments that are read as a command line with a command have the word of the command among
them. With the word of another command there, the same command line is read with that command. -/
theorem read_word {environment : Environment} {line : CommandLine}
    (found : read environment arguments = .ok line) (named : line.command = some first) :
    ∃ front back, arguments = front ++ commandName first :: back ∧ ∀ second,
      read environment (front ++ commandName second :: back) = .ok (line.doing second) := by
  rw [read] at found
  obtain ⟨⟨outer, rest⟩, outerRead, found⟩ := bind_eq_ok.mp found
  cases rest with
  | none =>
    obtain ⟨_, -, found⟩ := bind_eq_ok.mp found
    obtain ⟨_, -, made⟩ := bind_eq_ok.mp found
    cases made
    cases named
  | some rest =>
    obtain ⟨command, back⟩ := rest
    obtain ⟨⟨level, more⟩, levelRead, found⟩ := bind_eq_ok.mp found
    obtain ⟨inner, innerRead, found⟩ := bind_eq_ok.mp found
    obtain ⟨finished, outerFinished, made⟩ := bind_eq_ok.mp found
    obtain ⟨closed, closedRead, rfl⟩ := map_eq_ok.mp innerRead
    cases made
    cases named
    obtain ⟨front, rfl, others⟩ := readLevel_word outerRead
    refine ⟨front, back, rfl, fun second => ?_⟩
    -- In front of the word nothing changes; behind it there is a level that knows its command.
    obtain ⟨base, rfl, levelAlike⟩ := Level.readLevel_behind (.start none) second levelRead
    obtain ⟨base', rfl, closedAlike⟩ := Level.alike_finish second base environment _ closedRead
    refine bind_eq_ok.mpr ⟨_, others second, bind_eq_ok.mpr ⟨_, levelAlike, ?_⟩⟩
    exact bind_eq_ok.mpr ⟨_, map_eq_ok.mpr ⟨_, closedAlike, rfl⟩,
      bind_eq_ok.mpr ⟨_, outerFinished, rfl⟩⟩

end CommandLine

namespace Startup

theorem start_word {machine : Machine} {key : SigningKey} {arguments : List String}
    {line : CommandLine} {first : Command}
    (found : CommandLine.read machine.environment arguments = .ok line)
    (named : line.command = some first) :
    ∃ front back, arguments = front ++ CommandLine.Topic.commandName first :: back ∧ ∀ second,
      start machine key (front ++ CommandLine.Topic.commandName second :: back) =
        run machine key (line.doing second) := by
  obtain ⟨front, back, same, others⟩ := CommandLine.read_word found named
  refine ⟨front, back, same, fun second => ?_⟩
  rw [start, others second]

end Startup

end LoginGateway
