import LoginGateway.CommandLine.Basic
import LoginGateway.Settings.Environment
import LoginGateway.Text.Split

/-! Reading command lines. What stands behind a command is read on a level of its own.
An option that has just got its value is looked at when the next one comes, so that
an unknown argument counts before a value that does not fit. -/

namespace LoginGateway.CommandLine

structure Level where
  place : Place
  given : List (Key × String)
  pending : Option (Key × Option String)

namespace Level

def start (place : Place) : Level := ⟨place, [], none⟩

def isOuter (level : Level) : Bool := level.place.isNone

def waiting? (level : Level) : Option Key :=
  match level.pending with
  | some (key, none) => some key
  | _ => none

def give (level : Level) (key : Key) (text : String) : Except Refusal Level :=
  if (level.given.lookup key).isSome then .error (.repeated level.place key)
  else (accept key text).map fun _ => { level with given := (key, text) :: level.given }

def settle (level : Level) : Except Refusal Level :=
  match level.pending with
  | none => .ok level
  | some (key, none) => .error (.missingValue key)
  | some (key, some text) => { level with pending := none }.give key text

def option (level : Level) (key : Key) (text : Option String) : Except Refusal Level := do
  let level ← level.settle
  match text with
  | some text => level.give key text
  | none => return { level with pending := some (key, none) }

/-- A text that was asked for, unless the option before it does not fit. -/
def ask (level : Level) (refusal : Refusal) : Except Refusal Level := do
  let _ ← level.settle
  .error refusal

def readLong (level : Level) (argument : List Char) : Except Refusal Level :=
  let (name, text) := cutFirst '=' argument
  let name := String.ofList name
  match (keysAt level.place).find? (·.longName = name) with
  | some key => level.option key (text.map String.ofList)
  | none =>
    if name = "help" ∨ (name = "version" ∧ level.isOuter) then
      match text with
      | some text => .error (.needlessValue level.place ("--" ++ name) (String.ofList text))
      | none => level.ask (if name = "help" then .help (.place level.place) else .version)
    else .error (.unknownArgument level.place ("--" ++ name))

def readShort (level : Level) (letter : Char) (rest : List Char) : Except Refusal Level :=
  match (keysAt level.place).find? (·.shortName? = some letter) with
  | some key =>
    let text := match rest with
      | [] => none
      | '=' :: text => some (String.ofList text)
      | text => some (String.ofList text)
    level.option key text
  | none =>
    if letter = 'h' then level.ask (.help (.place level.place))
    else if letter = 'V' ∧ level.isOuter then level.ask .version
    else .error (.unknownArgument level.place (String.ofList ['-', letter]))

def readPlain (level : Level) (argument : String) : Except Refusal Level :=
  match level.waiting? with
  | some key => .ok { level with pending := some (key, some argument) }
  | none => .error (if level.isOuter then .unknownCommand argument
      else .unknownArgument level.place argument)

def readArgument (level : Level) (argument : String) : Except Refusal Level :=
  match argument.toList with
  | '-' :: '-' :: rest => level.readLong rest
  | '-' :: letter :: rest => level.readShort letter rest
  | _ => level.readPlain argument

end Level

inductive CommandWord where
  | command (command : Command)
  | help
deriving DecidableEq, Repr

def commandWord? (argument : String) : Option CommandWord :=
  match argument with
  | "serve" => some (.command .serve)
  | "check" => some (.command .check)
  | "help" => some .help
  | _ => none

def helpRefusal : List String → Refusal
  | [] => .help (.place none)
  | word :: rest =>
    match commandWord? word, rest with
    | none, _ => .unknownCommand word
    | some (.command command), [] => .help (.place (some command))
    | some .help, [] => .help .help
    | some _, other :: _ => .unknownCommand other

def trailingRefusal? (place : Place) : List String → Option Refusal
  | [] => none
  | word :: _ => some (if place = none ∧ commandWord? word = none then .unknownCommand word
      else .unknownArgument place word)

/-- Read a level up to its end, or up to the command that the rest belongs to. -/
def readLevel (level : Level) : List String → Except Refusal (Level × Option (Command × List String))
  | [] => .ok (level, none)
  | argument :: rest =>
    let word := if level.isOuter ∧ level.waiting? = none then commandWord? argument else none
    match word with
    | some (.command command) => .ok (level, some (command, rest))
    | some .help => .error (helpRefusal rest)
    | none =>
      if argument = "--" then
        match trailingRefusal? level.place rest with
        | some refusal => .error refusal
        | none => .ok (level, none)
      else
        match level.readArgument argument with
        | .ok level => readLevel level rest
        | .error refusal => .error refusal

/-- Where the value of an option comes from, weaker sources first. -/
inductive Source where
  | fallback
  | environment
  | argument
deriving DecidableEq, Repr

def Source.rank : Source → Nat
  | .fallback => 0
  | .environment => 1
  | .argument => 2

structure Choice where
  source : Source
  text : Option String

def Level.choice (level : Level) (environment : Environment) (key : Key) : Choice :=
  match level.given.lookup key, environment.get? key.variableName with
  | some text, _ => ⟨.argument, some text⟩
  | none, some text => ⟨.environment, some text⟩
  | none, none => ⟨.fallback, key.fallback?⟩

def Level.finish (level : Level) (environment : Environment) : Except Refusal Level := do
  let level ← level.settle
  (keysAt level.place).forM fun key =>
    match level.choice environment key with
    | ⟨.environment, some text⟩ => accept key text
    | _ => .ok ()
  return level

/-- The value of an option, of which an inner level may have one as well. The inner
one counts unless the outer one has a stronger source. -/
def choose (environment : Environment) (outer : Level) (inner : Option Level) (key : Key) : Option String :=
  let choice := outer.choice environment key
  match inner with
  | some inner =>
    let below := inner.choice environment key
    if below.source.rank < choice.source.rank then choice.text else below.text
  | none => choice.text

def read (environment : Environment) (arguments : List String) : Except Refusal CommandLine := do
  let (outer, rest) ← readLevel (.start none) arguments
  let inner ← match rest with
    | none => .ok none
    | some (command, arguments) => do
      let (inner, _) ← readLevel (.start (some command)) arguments
      (inner.finish environment).map some
  let outer ← outer.finish environment
  let text (key : Key) : Option String := choose environment outer (if key.isCommon then inner else none) key
  return {
    config := (text .config).getD ""
    port := (text .port).bind fun text => (readPort text).toOption
    bind := text .bind
    logLevel := (text .logLevel).getD ""
    logFormat := text .logFormat
    command := rest.map (·.1) }

end LoginGateway.CommandLine
