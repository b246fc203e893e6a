import LoginGateway.CommandLine.Help
import LoginGateway.CommandLine.Reader
import LoginGateway.Gateway.Serve
import LoginGateway.Log.Filter
import LoginGateway.Settings.Load
import LoginGateway.Url.Address

/-! From a command line to a gateway that can listen, or to a report on the settings.
Both begin with loading the settings; what comes after that differs. -/

namespace LoginGateway

inductive IpAddress where
  | v4 (address : Nat)
  | v6 (pieces : List Nat)
deriving DecidableEq, Repr

/-- The address of a text: four octets in decimal, or eight pieces in hexadecimal. -/
def IpAddress.parse? (text : List Char) : Option IpAddress :=
  match Ipv6.embedded? text with
  | some [high, low] => some (.v4 (high * 65536 + low))
  | _ => (Ipv6.parse? text).map .v6

/-- What the program finds where it runs. -/
structure Machine where
  files : Files
  environment : Environment
  listen : IpAddress → UInt16 → Except String Unit

namespace Startup

def programTarget : String := "sso_gateway"

def settingsTarget : String := "sso_gateway::config"

def gatewayTarget : String := "sso_gateway::gateway::server"

def reportRecord (report : EnvReport) : Log.Record :=
  match report.outcome with
  | .loaded => ⟨.info, settingsTarget, "Loaded env file: " ++ report.path, []⟩
  | .failed fault =>
    ⟨.warn, settingsTarget, "Failed to load env file " ++ report.path ++ ": " ++ fault.message, []⟩
  | .skipped => ⟨.debug, settingsTarget, "Env file not found (skipped): " ++ report.path, []⟩

/-- The record of a step that failed. -/
def failureRecord (step : String) (fault : Fault) : Log.Record :=
  ⟨.error, programTarget, step ++ ": " ++ fault.message, []⟩

def override (settings : Settings) (line : CommandLine) : Settings :=
  { settings with server := { settings.server with
      port := line.port.getD settings.server.port
      bind := line.bind.getD settings.server.bind } }

def bindAddress (settings : Settings) : Except Fault IpAddress :=
  match IpAddress.parse? settings.server.bind.toList with
  | some address => .ok address
  | none => .error (.settings "Invalid bind address: invalid IP address syntax")

def listen (machine : Machine) (settings : Settings) : Except Fault IpAddress := do
  let address ← bindAddress settings
  (machine.listen address settings.server.port).mapError .io
  return address

structure Launch (α : Type) where
  records : List Log.Record
  result : Except Fault α

namespace Launch

/-- Go on with what a step makes, or end with the record of its failure. -/
def step {α β : Type} (outcome : Except Fault α) (failure : String) (next : α → Launch β) : Launch β :=
  match outcome with
  | .ok value => next value
  | .error fault => ⟨[failureRecord failure fault], .error fault⟩

/-- Tell records first. -/
def tell {α : Type} (records : List Log.Record) (launch : Launch α) : Launch α :=
  { launch with records := records ++ launch.records }

end Launch

def routeRecord (route : Route) : Log.Record :=
  ⟨.info, gatewayTarget, "Registered route",
    [("host", .plain route.host), ("backend", .plain (String.ofList route.backend.text))]⟩

def gatewayRecord (level : Log.Level) (message : String)
    (fields : List (String × Log.FieldValue)) : Log.Record := ⟨level, gatewayTarget, message, fields⟩

def listeningRecords (settings : Settings) (gateway : Gateway) : List Log.Record :=
  let line := String.ofList (List.replicate 60 '=')
  let told := gatewayRecord .info
  [told line [], told ("SSO GATEWAY v" ++ CommandLine.version) [], told line [],
    told "Listening" [("bind", .plain settings.server.bind), ("port", .number settings.server.port.toNat)],
    told ("Hub: " ++ gateway.scheme ++ "://" ++ gateway.hubHost ++ "/") [],
    told "Sessions" [("domain", .plain gateway.domainHint), ("routes", .number gateway.routes.size),
      ("cache_capacity", .number settings.cacheCapacity)]]
  ++ (if gateway.secureCookies then []
    else [gatewayRecord .warn "Public scheme is http - session cookies are sent without Secure" []])
  ++ [told line []]

def launch (machine : Machine) (settings : Settings) (environment : Environment) (key : SigningKey) :
    Launch (Gateway × IpAddress) :=
  .tell [⟨.info, programTarget, "Starting SSO Gateway", [("version", .quoted CommandLine.version),
    ("port", .number settings.server.port.toNat), ("routes", .number settings.routes.length)]⟩] <|
  .step (Provider.ofSettings settings environment) "Failed to configure identity provider" fun provider =>
  .tell [⟨.info, programTarget, "Identity provider configured",
    [("redirect_uri", .plain provider.redirectUri)]⟩] <|
  .step (Gateway.ofSettings settings key provider) "Failed to create gateway" fun gateway =>
  .tell (gateway.routes.routes.map routeRecord) <|
  .step (listen machine settings) "Gateway error" fun address =>
  ⟨listeningRecords settings gateway, .ok (gateway, address)⟩

def summary (settings : Settings) : Except Fault String := do
  let routes ← RouteTable.ofSettings settings.routes settings.server.port
  return "✅ Configuration valid\n\nHub:    " ++ settings.server.scheme ++ "://"
    ++ publicHost settings.host settings.server.port ++ "\nDomain: " ++ settings.oauth.emailSuffix
    ++ "\n\nRoutes:\n" ++ String.join (routes.routes.map fun route =>
      "  " ++ route.host ++ " -> " ++ String.ofList route.backend.text ++ "\n")

inductive Output where
  | record (record : Log.Record)
  | text (text : String)
  | problem (text : String)
deriving DecidableEq, Repr

/-- How a run ends: at once, or with a gateway that is to listen. -/
inductive Ending where
  | exit (code : Nat)
  | listen (gateway : Gateway) (address : IpAddress)

structure Run where
  asJson : Bool
  outputs : List Output
  ending : Ending

def runCommand (machine : Machine) (command : Option Command) (settings : Settings)
    (environment : Environment) (key : SigningKey) : List Output × Ending :=
  match command with
  | some .check =>
    match summary settings with
    | .ok text => ([.text text], .exit 0)
    | .error fault => ([.problem ("❌ " ++ fault.message ++ "\n")], .exit 1)
  | some .serve | none =>
    let launch := launch machine settings environment key
    (launch.records.map .record, match launch.result with
      | .ok (gateway, address) => .listen gateway address
      | .error _ => .exit 1)

/-- Load the settings and do what the command line says. Records that the filter does
not admit are not shown. -/
def run (machine : Machine) (key : SigningKey) (line : CommandLine) : Run :=
  let (filter, ignored) := Log.Filter.choose machine.environment line.logLevel
  let warnings := ignored.map fun part =>
    Output.problem ("ignoring `" ++ part ++ "`: invalid filter directive\n")
  let loading := Settings.load machine.files machine.environment (some line.config)
  let reports := loading.reports.map fun report => Output.record (reportRecord report)
  let (outputs, ending) := match loading.result with
    | .ok settings => runCommand machine line.command (override settings line) loading.environment key
    | .error fault => ([.record (failureRecord "Failed to load configuration" fault)], .exit 1)
  let admitted (output : Output) : Bool :=
    match output with
    | .record record => filter.admits record
    | _ => true
  ⟨line.logFormat = some "json", (warnings ++ reports ++ outputs).filter admitted, ending⟩

def start (machine : Machine) (key : SigningKey) (arguments : List String) : Run :=
  match CommandLine.read machine.environment arguments with
  | .ok line => run machine key line
  | .error refusal =>
    let text := refusal.text machine.environment
    ⟨false, [if refusal.exitCode = 0 then .text text else .problem text], .exit refusal.exitCode⟩

end Startup

end LoginGateway
