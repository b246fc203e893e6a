import LoginGateway.Proofs.CallbackEndpoint
import LoginGateway.Proofs.CommandWords
import LoginGateway.Proofs.RouteTables
import LoginGateway.Proofs.VariableFiles

/-! Settings that are checked, and settings that are started with. A check loads the settings and
makes the routes. A start loads them, makes the provider, makes the routes for the gateway, and reads
the address to listen at. So a check knows nothing of the provider's URL and of that address. -/

namespace LoginGateway

/-- The same command line with a word for the address to listen at. -/
def CommandLine.binding (line : CommandLine) (word : String) : CommandLine := { line with bind := some word }

namespace Startup

variable {machine : Machine} {key : SigningKey} {line : CommandLine} {settings : Settings}
  {environment : Environment} {gateway : Gateway} {address : IpAddress}

def loading (machine : Machine) (line : CommandLine) : Loading :=
  Settings.load machine.files machine.environment (some line.config)

/-- The settings that a command goes on with: those that are loaded, with what the command line
sets. -/
def settingsFor (machine : Machine) (line : CommandLine) : Except Fault Settings :=
  (loading machine line).result.map (override · line)

theorem ending_of_loaded (loaded : settingsFor machine line = .ok settings) (command : Command) :
    (run machine key (line.doing command)).ending =
      (runCommand machine (some command) settings (loading machine line).environment key).2 := by
  obtain ⟨read, found, rfl⟩ := map_eq_ok.mp loaded
  rw [loading] at found
  simp only [run, CommandLine.doing, found]
  rfl

theorem ending_of_fault {fault : Fault} (refused : settingsFor machine line = .error fault)
    (command : Command) : (run machine key (line.doing command)).ending = .exit 1 := by
  unfold settingsFor at refused
  cases found : (loading machine line).result with
  | ok read =>
    rw [found] at refused
    cases refused
  | error fault =>
    rw [loading] at found
    simp only [run, CommandLine.doing, found]

namespace Launch

variable {α β : Type}

theorem result_step (outcome : Except Fault α) (failure : String) (next : α → Launch β) :
    (step outcome failure next).result = outcome >>= fun value => (next value).result := by
  cases outcome <;> rfl

end Launch

theorem result_launch : (launch machine settings environment key).result = (do
    let provider ← Provider.ofSettings settings environment
    let gateway ← Gateway.ofSettings settings key provider
    let address ← listen machine settings
    return (gateway, address)) := by
  simp only [launch, Launch.tell, Launch.result_step]
  rfl

/-- The steps of a start that look at the settings: they are loaded, and there is a provider, a
gateway and an address for them. -/
structure Configures (machine : Machine) (key : SigningKey) (line : CommandLine)
    (settings : Settings) (gateway : Gateway) (address : IpAddress) : Prop where
  loaded : settingsFor machine line = .ok settings
  provided : Provider.ofSettings settings (loading machine line).environment = .ok gateway.provider
  made : Gateway.ofSettings settings key gateway.provider = .ok gateway
  addressed : bindAddress settings = .ok address

theorem listen_eq_ok_iff : listen machine settings = .ok address ↔
    bindAddress settings = .ok address ∧ machine.listen address settings.server.port = .ok () := by
  constructor
  · intro listens
    obtain ⟨asked, read, listens⟩ := bind_eq_ok.mp listens
    obtain ⟨_, free, same⟩ := bind_eq_ok.mp listens
    cases same
    exact ⟨read, mapError_eq_ok.mp free⟩
  · intro ⟨read, free⟩
    exact bind_eq_ok.mpr ⟨address, read, bind_eq_ok.mpr ⟨(), mapError_eq_ok.mpr free, rfl⟩⟩

/-- A launch has passed the steps that look at the settings if the gateway listens. -/
theorem result_launch_iff (loaded : settingsFor machine line = .ok settings) :
    (launch machine settings (loading machine line).environment key).result = .ok (gateway, address) ↔
      Configures machine key line settings gateway address ∧
        machine.listen address settings.server.port = .ok () := by
  rw [result_launch]
  constructor
  · intro launched
    obtain ⟨provider, provided, launched⟩ := bind_eq_ok.mp launched
    obtain ⟨made, configured, launched⟩ := bind_eq_ok.mp launched
    obtain ⟨asked, listens, same⟩ := bind_eq_ok.mp launched
    cases same
    obtain ⟨addressed, free⟩ := listen_eq_ok_iff.mp listens
    obtain ⟨routes, -, rfl⟩ := Gateway.eq_of_ofSettings configured
    exact ⟨⟨loaded, provided, configured, addressed⟩, free⟩
  · intro ⟨configures, free⟩
    exact bind_eq_ok.mpr ⟨_, configures.provided, bind_eq_ok.mpr ⟨_, configures.made,
      bind_eq_ok.mpr ⟨_, listen_eq_ok_iff.mpr ⟨configures.addressed, free⟩, rfl⟩⟩⟩

theorem ending_check (loaded : settingsFor machine line = .ok settings) :
    (run machine key (line.doing .check)).ending =
      match RouteTable.ofSettings settings.routes settings.server.port with
      | .ok _ => .exit 0
      | .error _ => .exit 1 := by
  rw [ending_of_loaded loaded, runCommand]
  simp only [summary]
  cases RouteTable.ofSettings settings.routes settings.server.port <;> rfl

theorem ending_serve (loaded : settingsFor machine line = .ok settings) :
    (run machine key (line.doing .serve)).ending =
      match (launch machine settings (loading machine line).environment key).result with
      | .ok (gateway, address) => .listen gateway address
      | .error _ => .exit 1 := by
  rw [ending_of_loaded loaded]
  rfl

theorem ending_check_iff : (run machine key (line.doing .check)).ending = .exit 0 ↔
    ∃ settings, settingsFor machine line = .ok settings ∧
      RouteTable.Fits settings.server.port settings.routes := by
  cases loaded : settingsFor machine line with
  | error fault =>
    rw [ending_of_fault loaded]
    exact iff_of_false nofun nofun
  | ok settings =>
    simp only [ending_check loaded, Except.ok.injEq, exists_eq_left', ← RouteTable.ofSettings_iff_fits]
    cases RouteTable.ofSettings settings.routes settings.server.port with
    | error fault => exact iff_of_false nofun nofun
    | ok routes => exact iff_of_true rfl ⟨routes, rfl⟩

/-- What a check does not look at, and a start does: whether there is a URL for logins and an
address to listen at. -/
def HasAddresses (settings : Settings) : Prop :=
  (∃ url, Url.parse settings.oauth.authorizationUrl.toList = .ok url) ∧
    ∃ address, IpAddress.parse? settings.server.bind.toList = some address

theorem bindAddress_eq_ok_iff : bindAddress settings = .ok address ↔
    IpAddress.parse? settings.server.bind.toList = some address := by
  rw [bindAddress]
  split
  next read =>
    rw [read, Except.ok.injEq, Option.some.injEq]
  next unread =>
    rw [unread]
    exact iff_of_false nofun nofun

theorem exists_provider_iff : (∃ provider, Provider.ofSettings settings environment = .ok provider) ↔
    ∃ url, Url.parse settings.oauth.authorizationUrl.toList = .ok url := by
  constructor
  · intro ⟨provider, provided⟩
    obtain ⟨url, read, -⟩ := Provider.eq_of_ofSettings provided
    exact ⟨url, read⟩
  · intro ⟨url, read⟩
    rw [Provider.ofSettings, read]
    exact ⟨_, rfl⟩

theorem exists_gateway_iff {provider : Provider} :
    (∃ gateway, Gateway.ofSettings settings key provider = .ok gateway) ↔
      ∃ routes, RouteTable.ofSettings settings.routes settings.server.port = .ok routes := by
  constructor
  · intro ⟨gateway, made⟩
    exact ⟨gateway.routes, Gateway.routes_ofSettings made⟩
  · intro ⟨routes, made⟩
    rw [Gateway.ofSettings, made]
    exact ⟨_, rfl⟩

theorem configures_iff : (∃ gateway address, Configures machine key line settings gateway address) ↔
    settingsFor machine line = .ok settings ∧ HasAddresses settings ∧
      RouteTable.Fits settings.server.port settings.routes := by
  rw [← RouteTable.ofSettings_iff_fits]
  constructor
  · intro ⟨gateway, address, configures⟩
    exact ⟨configures.loaded, ⟨exists_provider_iff.mp ⟨_, configures.provided⟩,
      address, bindAddress_eq_ok_iff.mp configures.addressed⟩,
      exists_gateway_iff.mp ⟨_, configures.made⟩⟩
  · intro ⟨loaded, ⟨url, address, addressed⟩, table⟩
    obtain ⟨provider, provided⟩ := exists_provider_iff.mpr url
    obtain ⟨gateway, made⟩ : ∃ gateway, Gateway.ofSettings settings key provider = .ok gateway :=
      exists_gateway_iff.mpr table
    have own : gateway.provider = provider := by
      obtain ⟨routes, -, rfl⟩ := Gateway.eq_of_ofSettings made
      rfl
    rw [← own] at provided made
    exact ⟨gateway, address, loaded, provided, made, bindAddress_eq_ok_iff.mpr addressed⟩

theorem listens_iff : (run machine key (line.doing .serve)).ending = .listen gateway address ↔
    ∃ settings, Configures machine key line settings gateway address ∧
      machine.listen address settings.server.port = .ok () := by
  cases loaded : settingsFor machine line with
  | error fault =>
    rw [ending_of_fault loaded]
    refine iff_of_false nofun ?_
    rintro ⟨settings, configures, -⟩
    rw [configures.loaded] at loaded
    cases loaded
  | ok settings =>
    have told : (run machine key (line.doing .serve)).ending = .listen gateway address ↔
        (launch machine settings (loading machine line).environment key).result =
          .ok (gateway, address) := by
      rw [ending_serve loaded]
      split
      next result => simp only [result, Ending.listen.injEq, Except.ok.injEq, Prod.mk.injEq]
      next result => simp only [result, reduceCtorEq]
    rw [told, result_launch_iff loaded]
    constructor
    · exact fun launched => ⟨settings, launched⟩
    · rintro ⟨other, configures, free⟩
      obtain rfl : settings = other := Except.ok.inj (loaded.symm.trans configures.loaded)
      exact ⟨configures, free⟩

theorem exit_of_check : (run machine key (line.doing .check)).ending = .exit 0 ∨
    (run machine key (line.doing .check)).ending = .exit 1 := by
  cases loaded : settingsFor machine line with
  | error fault => exact .inr (ending_of_fault loaded .check)
  | ok settings =>
    rw [ending_check loaded]
    cases RouteTable.ofSettings settings.routes settings.server.port with
    | error fault => exact .inr rfl
    | ok routes => exact .inl rfl

theorem exit_or_listen_of_serve : (run machine key (line.doing .serve)).ending = .exit 1 ∨
    ∃ gateway address, (run machine key (line.doing .serve)).ending = .listen gateway address := by
  cases loaded : settingsFor machine line with
  | error fault => exact .inl (ending_of_fault loaded .serve)
  | ok settings =>
    rw [ending_serve loaded]
    split
    next gateway address _ => exact .inr ⟨gateway, address, rfl⟩
    next => exact .inl rfl

/-- A check and a start with the same file, environment and command line. The check ends well
exactly if the settings are loaded and have a table of routes. The start passes the steps that
look at the settings exactly if the check ends well and the settings have a URL for logins and an
address to listen at, which the check does not look at. Then it listens, if it can listen there;
otherwise it fails, as the check does. -/
theorem check_and_start (machine : Machine) (key : SigningKey) (line : CommandLine) :
    ((run machine key (line.doing .check)).ending = .exit 0 ↔
      ∃ settings, settingsFor machine line = .ok settings ∧
        RouteTable.Fits settings.server.port settings.routes) ∧
    ((run machine key (line.doing .check)).ending = .exit 0 ∨
      (run machine key (line.doing .check)).ending = .exit 1) ∧
    ((∃ settings gateway address, Configures machine key line settings gateway address) ↔
      (run machine key (line.doing .check)).ending = .exit 0 ∧
        ∃ settings, settingsFor machine line = .ok settings ∧ HasAddresses settings) ∧
    (∀ gateway address, (run machine key (line.doing .serve)).ending = .listen gateway address ↔
      ∃ settings, Configures machine key line settings gateway address ∧
        machine.listen address settings.server.port = .ok ()) ∧
    ((run machine key (line.doing .serve)).ending = .exit 1 ∨
      ∃ gateway address, (run machine key (line.doing .serve)).ending = .listen gateway address) ∧
    run machine key { line with command := none } = run machine key (line.doing .serve) := by
  refine ⟨ending_check_iff, exit_of_check, ?_, fun _ _ => listens_iff,
    exit_or_listen_of_serve, rfl⟩
  rw [ending_check_iff]
  constructor
  · rintro ⟨settings, configured⟩
    obtain ⟨loaded, addresses, fits⟩ := configures_iff.mp configured
    exact ⟨⟨settings, loaded, fits⟩, settings, loaded, addresses⟩
  · rintro ⟨⟨settings, loaded, fits⟩, same, again, addresses⟩
    obtain rfl : settings = same := Except.ok.inj (loaded.symm.trans again)
    exact ⟨settings, configures_iff.mpr ⟨loaded, addresses, fits⟩⟩

theorem check_of_binding (word : String) :
    run machine key ((line.binding word).doing .check) = run machine key (line.doing .check) := by
  simp only [run, CommandLine.doing, CommandLine.binding]
  cases (Settings.load machine.files machine.environment (some line.config)).result <;> rfl

/-- A check that ends well does so with any word for the address to listen at. With a word that is
no address, the start does not pass its steps. -/
theorem binding_unseen {word : String}
    (checked : (run machine key (line.doing .check)).ending = .exit 0)
    (bad : IpAddress.parse? word.toList = none) :
    (run machine key ((line.binding word).doing .check)).ending = .exit 0 ∧
      (run machine key ((line.binding word).doing .serve)).ending = .exit 1 ∧
      ¬∃ settings gateway address,
        Configures machine key (line.binding word) settings gateway address := by
  have unable : ¬∃ settings gateway address,
      Configures machine key (line.binding word) settings gateway address := by
    rintro ⟨settings, gateway, address, configures⟩
    obtain ⟨read, -, rfl⟩ := map_eq_ok.mp configures.loaded
    have addressed := bindAddress_eq_ok_iff.mp configures.addressed
    change IpAddress.parse? word.toList = _ at addressed
    rw [bad] at addressed
    cases addressed
  refine ⟨?_, ?_, unable⟩
  · rw [check_of_binding, checked]
  · rcases exit_or_listen_of_serve with failed | ⟨gateway, address, listens⟩
    · exact failed
    · obtain ⟨settings, configures, -⟩ := listens_iff.mp listens
      exact absurd ⟨settings, gateway, address, configures⟩ unable

end Startup

namespace OneFile
open Startup

def machine : Machine := ⟨files, [], fun _ _ => .ok ()⟩

def line : CommandLine := ⟨"gateway.json", none, none, "info", none, none⟩

def key : SigningKey := ⟨[]⟩

theorem settings_of_line : settingsFor machine line = .ok loaded := by
  rw [settingsFor, loading]
  change (Settings.load files [] (some "gateway.json")).result.map _ = _
  rw [load_file]
  rfl

/-- The check of a command line ends well, and the start with it does not pass its steps. -/
theorem nowhere_checked :
    (run machine key ((line.binding "nowhere").doing .check)).ending = .exit 0 ∧
      (run machine key ((line.binding "nowhere").doing .serve)).ending = .exit 1 ∧
      ¬∃ settings gateway address,
        Configures machine key (line.binding "nowhere") settings gateway address := by
  have fits : RouteTable.Fits loaded.server.port loaded.routes := by
    cases made : RouteTable.ofSettings loaded.routes loaded.server.port with
    | ok table => exact RouteTable.ofSettings_iff_fits.mp ⟨table, made⟩
    | error fault =>
      have some : (RouteTable.ofSettings loaded.routes loaded.server.port).isOk = true := by
        decide +kernel
      rw [made] at some
      cases some
  have checked : (run machine key (line.doing .check)).ending = .exit 0 :=
    ending_check_iff.mpr ⟨loaded, settings_of_line, fits⟩
  exact binding_unseen checked (by decide)

end OneFile

end LoginGateway
