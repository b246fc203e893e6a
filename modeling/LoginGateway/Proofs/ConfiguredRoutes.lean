import LoginGateway.Gateway.Basic
import Mathlib.Control.Monad.Basic
import Mathlib.Data.List.Nodup

/-! Every route of a gateway was set by its operator. -/

namespace LoginGateway

structure RouteSettings.Sets (setting : RouteSettings) (port : UInt16) (route : Route) : Prop where
  host : RouteTable.hostOf setting port = route.host
  backend : readBackend setting.backend = .ok route.backend

namespace RouteTable

theorem place?_of_insert? {table larger : RouteTable} {route : Route}
    (placed : table.insert? route = some larger) :
    place? route table.routes = some larger.routes := by
  unfold insert? at placed
  split at placed
  next found =>
    cases placed
    exact found
  next => cases placed

theorem addAll_cons_iff {port : UInt16} {setting : RouteSettings} {rest : List RouteSettings}
    {table larger : RouteTable} : addAll port (setting :: rest) table = .ok larger ↔
      hostOf setting port ≠ "" ∧ ∃ route next, setting.Sets port route ∧
        table.insert? route = some next ∧ addAll port rest next = .ok larger := by
  simp only [addAll, bind, Except.bind]
  constructor
  · intro added
    split at added
    next => cases added
    next named =>
      cases read : readBackend setting.backend with
      | error fault =>
        rw [read] at added
        cases added
      | ok backend =>
        rw [read] at added
        simp only [] at added
        split at added
        next next placed =>
          exact ⟨named, ⟨hostOf setting port, backend⟩, next, ⟨rfl, read⟩, placed, added⟩
        next => cases added
  · rintro ⟨named, ⟨host, backend⟩, next, ⟨rfl, read⟩, placed, added⟩
    simp only at read
    simp only [if_neg named, read, placed]
    exact added

/-- One more setting: its backend can be read, and the table that is gone on with has
its route and no other new one. -/
theorem addAll_cons {port : UInt16} {setting : RouteSettings} {rest : List RouteSettings}
    {table larger : RouteTable} (added : addAll port (setting :: rest) table = .ok larger) :
    ∃ route next, setting.Sets port route ∧ table.insert? route = some next ∧
      addAll port rest next = .ok larger :=
  (addAll_cons_iff.mp added).2

theorem set_of_addAll {port : UInt16} {settings : List RouteSettings} {table larger : RouteTable}
    (added : addAll port settings table = .ok larger) {route : Route}
    (inside : route ∈ larger.routes) :
    route ∈ table.routes ∨ ∃ setting ∈ settings, setting.Sets port route := by
  induction settings generalizing table with
  | nil =>
    cases added
    exact .inl inside
  | cons setting rest ih =>
    obtain ⟨made, next, sets, placed, added⟩ := addAll_cons added
    rcases ih added with before | ⟨other, later, set⟩
    · rcases mem_of_place? (place?_of_insert? placed) route before with rfl | before
      · exact .inr ⟨setting, List.mem_cons_self, sets⟩
      · exact .inl before
    · exact .inr ⟨other, List.mem_cons_of_mem setting later, set⟩

theorem mem_place? {route : Route} {routes placed : List Route}
    (found : place? route routes = some placed) :
    route ∈ placed ∧ ∀ other ∈ routes, other ∈ placed := by
  induction routes generalizing placed with
  | nil =>
    cases found
    exact ⟨List.mem_cons_self, nofun⟩
  | cons first rest ih =>
    unfold place? at found
    split at found
    next =>
      cases found
      exact ⟨List.mem_cons_self, fun other inside => List.mem_cons_of_mem route inside⟩
    next =>
      split at found
      next => cases found
      next =>
        obtain ⟨tail, inner, rfl⟩ := Option.map_eq_some_iff.mp found
        obtain ⟨here, kept⟩ := ih inner
        refine ⟨List.mem_cons_of_mem first here, fun other inside => ?_⟩
        rcases List.mem_cons.mp inside with rfl | later
        · exact List.mem_cons_self
        · exact List.mem_cons_of_mem first (kept other later)

theorem mem_of_addAll {port : UInt16} {settings : List RouteSettings} {table larger : RouteTable}
    (added : addAll port settings table = .ok larger) :
    (∀ route ∈ table.routes, route ∈ larger.routes) ∧
      ∀ setting ∈ settings, ∃ route ∈ larger.routes, setting.Sets port route := by
  induction settings generalizing table with
  | nil =>
    cases added
    exact ⟨fun route inside => inside, nofun⟩
  | cons setting rest ih =>
    obtain ⟨made, next, sets, placed, added⟩ := addAll_cons added
    obtain ⟨here, before⟩ := mem_place? (place?_of_insert? placed)
    obtain ⟨kept, later⟩ := ih added
    refine ⟨fun route inside => kept route (before route inside), fun other inside => ?_⟩
    rcases List.mem_cons.mp inside with rfl | inside
    · exact ⟨made, kept made here, sets⟩
    · exact later other inside

theorem find?_spec {table : RouteTable} {host : String} {route : Route}
    (found : table.find? host = some route) : route ∈ table.routes ∧ route.host = host :=
  ⟨List.mem_of_find?_eq_some found, by simpa using List.find?_some found⟩

theorem find?_of_mem {table : RouteTable} {route : Route} (inside : route ∈ table.routes) :
    table.find? route.host = some route := by
  have distinct : (table.routes.map (·.host)).Nodup := by
    rw [List.nodup_iff_pairwise_ne, List.pairwise_map]
    exact table.increasing.imp Std.ne_of_lt
  cases found : table.find? route.host with
  | none => exact absurd (decide_eq_true rfl) (List.find?_eq_none.mp found route inside)
  | some other =>
    obtain ⟨among, same⟩ := find?_spec found
    rw [List.inj_on_of_nodup_map distinct among inside same]

end RouteTable

theorem Gateway.eq_of_ofSettings {settings : Settings} {key : SigningKey} {provider : Provider}
    {gateway : Gateway} (configured : Gateway.ofSettings settings key provider = .ok gateway) :
    ∃ routes, RouteTable.ofSettings settings.routes settings.server.port = .ok routes ∧
      gateway = {
        key, routes, provider
        hubHost := canonicalHost (publicHost settings.host settings.server.port)
        scheme := settings.server.scheme
        emailSuffix := settings.oauth.emailSuffix
        domainHint := settings.oauth.domainHint } := by
  rw [Gateway.ofSettings] at configured
  cases made : RouteTable.ofSettings settings.routes settings.server.port with
  | error fault =>
    rw [made] at configured
    cases configured
  | ok routes =>
    rw [made] at configured
    cases configured
    exact ⟨routes, rfl, rfl⟩

theorem Gateway.routes_ofSettings {settings : Settings} {key : SigningKey} {provider : Provider}
    {gateway : Gateway} (configured : Gateway.ofSettings settings key provider = .ok gateway) :
    RouteTable.ofSettings settings.routes settings.server.port = .ok gateway.routes := by
  obtain ⟨routes, made, rfl⟩ := eq_of_ofSettings configured
  exact made

theorem Gateway.names_ofSettings {settings : Settings} {key : SigningKey} {provider : Provider}
    {gateway : Gateway} (configured : Gateway.ofSettings settings key provider = .ok gateway) :
    gateway.scheme = settings.server.scheme ∧
      gateway.hubHost = canonicalHost (publicHost settings.host settings.server.port) := by
  obtain ⟨routes, _, rfl⟩ := eq_of_ofSettings configured
  exact ⟨rfl, rfl⟩

theorem Gateway.set_of_find? {settings : Settings} {key : SigningKey} {provider : Provider}
    {gateway : Gateway} (configured : Gateway.ofSettings settings key provider = .ok gateway)
    {host : String} {route : Route} (found : gateway.routes.find? host = some route) :
    ∃ setting ∈ settings.routes, setting.Sets settings.server.port route := by
  obtain ⟨inside, _⟩ := RouteTable.find?_spec found
  rcases RouteTable.set_of_addAll (routes_ofSettings configured) inside with none | set
  · cases none
  · exact set

theorem Gateway.find?_eq_none_iff {settings : Settings} {key : SigningKey} {provider : Provider}
    {gateway : Gateway} (configured : Gateway.ofSettings settings key provider = .ok gateway)
    (host : String) : gateway.routes.find? host = none ↔
      ∀ setting ∈ settings.routes, RouteTable.hostOf setting settings.server.port ≠ host := by
  constructor
  · intro absent setting among same
    obtain ⟨route, inside, sets⟩ :=
      (RouteTable.mem_of_addAll (routes_ofSettings configured)).2 setting among
    have other := List.find?_eq_none.mp absent route inside
    rw [← sets.host, same] at other
    exact other (decide_eq_true rfl)
  · intro foreign
    cases found : gateway.routes.find? host with
    | none => rfl
    | some route =>
      obtain ⟨setting, among, sets⟩ := set_of_find? configured found
      exact absurd (sets.host.trans (RouteTable.find?_spec found).2) (foreign setting among)

namespace OneRoute

def settings : Settings := { Settings.default with
  host := "sso.org.com"
  oauth := { OAuthSettings.default with domain := "org.com" }
  routes := [⟨"app.org.com", "backend:8080"⟩] }

def backend : Url where
  scheme := "http".toList
  username := []
  password := []
  host := some (.domain "backend".toList)
  port := some 8080
  path := .segments [[]]
  query := none
  fragment := none

def provider : Provider :=
  ⟨"id", "secret", { backend with host := some (.domain "provider".toList) }, "", "",
    Provider.redirectUriOf settings, []⟩

def gateway : Gateway where
  key := ⟨[]⟩
  routes := ⟨[⟨"app.org.com", backend⟩], .cons nofun .nil⟩
  hubHost := "sso.org.com"
  scheme := "http"
  emailSuffix := "@org.com"
  domainHint := "org.com"
  provider := provider

theorem configured_with {name setting host : String} {backend : Url}
    (named : RouteTable.hostOf ⟨name, setting⟩ 80 = host) (filled : host ≠ "")
    (read : readBackend setting = .ok backend) :
    Gateway.ofSettings { settings with routes := [⟨name, setting⟩] } ⟨[]⟩ provider =
      .ok { gateway with routes := ⟨[⟨host, backend⟩], .cons nofun .nil⟩ } := by
  have hub : canonicalHost (publicHost "sso.org.com" 80) = "sso.org.com" := by decide
  have suffix : settings.oauth.emailSuffix = "@org.com" := by decide
  have hint : settings.oauth.domainHint = "org.com" := by decide
  rw [Gateway.ofSettings, suffix, hint]
  simp only [settings, Settings.default, ServerSettings.default, RouteTable.ofSettings,
    RouteTable.addAll, named, if_neg filled, read, hub, bind, Except.bind]
  rfl

theorem configured_under {name host : String}
    (named : RouteTable.hostOf ⟨name, "backend:8080"⟩ 80 = host) (filled : host ≠ "") :
    Gateway.ofSettings { settings with routes := [⟨name, "backend:8080"⟩] } ⟨[]⟩ provider =
      .ok { gateway with routes := ⟨[⟨host, backend⟩], .cons nofun .nil⟩ } :=
  configured_with named filled (by decide +kernel)

theorem configured : Gateway.ofSettings settings ⟨[]⟩ provider = .ok gateway :=
  configured_under (by decide) (by decide)

end OneRoute

end LoginGateway
