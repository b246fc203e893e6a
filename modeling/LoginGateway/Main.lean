import LoginGateway.Log.Time
import LoginGateway.Startup
import Std.Time.DateTime.Timestamp

/-! The program. It reads what the machine holds, lets the library decide, and shows
what comes of it. -/

namespace LoginGateway.Program

def readEnvironment : IO Environment := do
  let bytes ← IO.FS.readBinFile "/proc/self/environ"
  return (pieces 0 bytes.toList).filterMap fun entry =>
    match cutFirst 61 entry with
    | (name, some value) => do return (← text? name, ← text? value)
    | (_, none) => none

def readEntry (path : String) : IO FileEntry := do
  match ← (IO.FS.readBinFile path).toBaseIO with
  | .ok bytes => return .content bytes.toList
  | .error (.noFileOrDirectory _ _ _) => return .missing
  | .error _ => return .directory

/-- The files at some paths. All others count as missing. -/
def readFiles (paths : List String) : IO Files := do
  let entries ← paths.mapM fun path => return (path, ← readEntry path)
  return fun path => (entries.lookup path).getD .missing

/-- The files that are needed: the settings name those with variables. -/
def neededFiles (environment : Environment) (arguments : List String) : IO Files := do
  match CommandLine.read environment arguments with
  | .error _ => readFiles []
  | .ok line =>
    let first ← readFiles [line.config]
    let reports := (Settings.load first environment (some line.config)).reports
    readFiles (line.config :: reports.map (·.path))

/-- No address is opened here; a gateway is served by whoever embeds the library. -/
def listen (_ : IpAddress) (_ : UInt16) : Except String Unit :=
  .error "Operation not supported (os error 95)"

def now : IO String := do
  let stamp ← Std.Time.Timestamp.now
  return Log.timeText (stamp.toNanosecondsSinceUnixEpoch.val.toNat / 1000)

def display (asJson : Bool) : Startup.Output → IO Unit
  | .record record => do
    let time ← now
    IO.println (if asJson then record.json time else record.line time)
  | .text text => IO.print text
  | .problem text => IO.eprint text

end LoginGateway.Program

open LoginGateway in
def main (arguments : List String) : IO UInt32 := do
  let environment ← Program.readEnvironment
  let files ← Program.neededFiles environment arguments
  let noise ← IO.getRandomBytes 64
  let run := Startup.start ⟨files, environment, Program.listen⟩ (.fromNoise noise.toList) arguments
  run.outputs.forM (Program.display run.asJson)
  return match run.ending with
    | .exit code => code.toUInt32
    | .listen _ _ => 0
