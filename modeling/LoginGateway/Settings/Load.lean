import LoginGateway.EnvFile.Basic
import LoginGateway.Settings.Placeholder
import LoginGateway.Settings.Reader
import LoginGateway.Settings.Validity
import LoginGateway.Settings.Variables
import LoginGateway.Yaml.Document

/-! Loading settings: a file, variables laid over it, files of further variables,
placeholders, and a last look at whether the gateway can run with the outcome. -/

namespace LoginGateway

/-- What a path leads to. -/
inductive FileEntry where
  | missing
  | directory
  | content (octets : Octets)
deriving DecidableEq, Repr

abbrev Files := String → FileEntry

/-- What became of a file of variables. -/
inductive EnvOutcome where
  | loaded
  | failed (fault : EnvFile.Fault)
  | skipped
deriving DecidableEq, Repr

structure EnvReport where
  path : String
  outcome : EnvOutcome
deriving DecidableEq, Repr

/-- Settings that were loaded, or the fault; either way with the environment as it is
then, and the files that were read on the way. -/
structure Loading where
  reports : List EnvReport
  environment : Environment
  result : Except Fault Settings

namespace Settings

/-- The ending of a file name behind its last point. A point in front makes no ending. -/
def ending? (path : List Char) : Option (List Char) :=
  let name := ((pieces '/' path).getLast?.getD []).reverse
  match name.dropWhile (· ≠ '.') with
  | _ :: start => if start = [] then none else some (name.takeWhile (· ≠ '.')).reverse
  | [] => none

def isJson (path : String) : Bool :=
  (ending? path.toList).any fun ending => ending.map Char.toLower = "json".toList

/-- A path as messages name it, without the parts that lead nowhere. -/
def shownPath (path : String) : String :=
  if path.toList.head? = some '/' then path
  else
    let parts := (pieces '/' path.toList).filter fun part => part ≠ [] ∧ part ≠ ['.']
    "/".intercalate (parts.map String.ofList)

def jsonDocument (origin : Origin) (source : Octets) : Except String Document :=
  let start := Json.skipBlanks source
  let outcome :=
    if start.head? = some 123 then Json.parse source else .error (Json.mismatch "a map" start)
  match outcome with
  | .ok value => .ok (.ofJson origin value)
  | .error fault => .error (fault.message source)

/-- The document of a text in one of the two formats. -/
def sourceDocument (origin : Origin) (json : Bool) (source : Octets) : Except String Document :=
  match Utf8.decode? source with
  | none => .error "stream did not contain valid UTF-8"
  | some text =>
    if json then jsonDocument origin source
    else (Yaml.parse origin text).mapError Yaml.Fault.message

/-- The document of a file with settings. A directory holds nothing. -/
def fileDocument (files : Files) (path : String) : Except Fault Document :=
  match files path with
  | .missing => .error (.settings ("Config file not found: " ++ path))
  | .directory => .ok (.map .given [])
  | .content source =>
    let format := if isJson path then "JSON" else "YAML"
    let origin := Origin.file (shownPath path) format
    (sourceDocument origin (isJson path) source).mapError fun problem =>
      .settings (problem ++ " in " ++ shownPath path ++ " " ++ format ++ " file")

/-- The settings of a file, if there is one, with those of the variables over them. -/
def read (files : Files) (environment : Environment) (path : Option String) :
    Except Fault Settings := do
  let file ← match path with
    | some path => fileDocument files path
    | none => .ok (.map .given [])
  (ofDocument (file.merge (Variables.document environment))).mapError fun mistake =>
    .settings mistake.message

/-- A path with the home directory in place of a tilde in front. -/
def homePath (environment : Environment) (path : String) : String :=
  match path.toList, (environment.get? "HOME").filter (· ≠ "") with
  | '~' :: rest, some home => home ++ String.ofList rest
  | _, _ => path

def loadEnvFile (files : Files) (environment : Environment) (path : String) :
    Environment × EnvReport :=
  let path := homePath environment path
  match files path with
  | .missing => (environment, ⟨path, .skipped⟩)
  | .directory => (environment, ⟨path, .failed .directory⟩)
  | .content source =>
    let (environment, fault) := EnvFile.load source environment
    (environment, ⟨path, match fault with | none => .loaded | some fault => .failed fault⟩)

def loadEnvFiles (files : Files) : Environment → List String → Environment × List EnvReport
  | environment, [] => (environment, [])
  | environment, path :: rest =>
    let (environment, report) := loadEnvFile files environment path
    let (environment, reports) := loadEnvFiles files environment rest
    (environment, report :: reports)

def load (files : Files) (environment : Environment) (path : Option String) : Loading :=
  match read files environment path with
  | .error fault => ⟨[], environment, .error fault⟩
  | .ok settings =>
    let (environment, reports) := loadEnvFiles files environment settings.envFiles
    let settings := settings.expand environment
    ⟨reports, environment, (settings.validate environment).map fun _ => settings⟩

end Settings

end LoginGateway
