import LoginGateway.Proofs.ConfiguredRoutes
import Mathlib.Data.List.Forall2
import Mathlib.Data.List.Perm.Basic

/-! What becomes of the routes that are set. A table is made of them exactly if each has a
host and a backend and no two have the same host. Then every one of them stands in it once,
in order of the hosts, and the order they were set in is of no account. -/

namespace LoginGateway.RouteTable

variable {port : UInt16} {setting : RouteSettings} {settings : List RouteSettings}
  {table larger : RouteTable} {route : Route} {routes placed : List Route}

section Placing

theorem perm_of_place? (found : place? route routes = some placed) :
    placed.Perm (route :: routes) := by
  induction routes generalizing placed with
  | nil =>
    cases found
    exact .refl _
  | cons first rest ih =>
    unfold place? at found
    split at found
    next =>
      cases found
      exact .refl _
    next =>
      split at found
      next => cases found
      next =>
        obtain ⟨tail, inner, rfl⟩ := Option.map_eq_some_iff.mp found
        exact ((ih inner).cons first).trans (.swap route first rest)

theorem exists_of_place?_none (refused : place? route routes = none) :
    ∃ other ∈ routes, other.host = route.host := by
  induction routes with
  | nil => cases refused
  | cons first rest ih =>
    unfold place? at refused
    split at refused
    next => cases refused
    next =>
      split at refused
      next same => exact ⟨first, List.mem_cons_self, same.symm⟩
      next =>
        obtain ⟨other, inside, same⟩ := ih (Option.map_eq_none_iff.mp refused)
        exact ⟨other, List.mem_cons_of_mem first inside, same⟩

theorem perm_of_insert? (inserted : table.insert? route = some larger) :
    larger.routes.Perm (route :: table.routes) :=
  perm_of_place? (place?_of_insert? inserted)

theorem nodup_routes (table : RouteTable) : table.routes.Nodup :=
  table.increasing.imp fun less same => Std.ne_of_lt less (congrArg Route.host same)

theorem find?_eq_some_iff {host : String} :
    table.find? host = some route ↔ route ∈ table.routes ∧ route.host = host := by
  constructor
  · exact find?_spec
  · rintro ⟨inside, rfl⟩
    exact find?_of_mem inside

theorem find?_of_insert? (inserted : table.insert? route = some larger) (host : String) :
    larger.find? host = if route.host = host then some route else table.find? host := by
  have perm := perm_of_insert? inserted
  split
  next same => exact find?_eq_some_iff.mpr ⟨perm.mem_iff.mpr List.mem_cons_self, same⟩
  next different =>
    ext other
    rw [find?_eq_some_iff, find?_eq_some_iff, perm.mem_iff, List.mem_cons]
    constructor
    · rintro ⟨rfl | inside, same⟩
      · exact absurd same different
      · exact ⟨inside, same⟩
    · exact fun ⟨inside, same⟩ => ⟨.inr inside, same⟩

theorem insert?_iff_free :
    (∃ larger, table.insert? route = some larger) ↔ table.find? route.host = none := by
  constructor
  · rintro ⟨larger, inserted⟩
    have new := (List.nodup_cons.mp
      ((perm_of_insert? inserted).nodup_iff.mp larger.nodup_routes)).1
    have here := find?_of_insert? inserted route.host
    rw [if_pos rfl] at here
    cases found : table.find? route.host with
    | none => rfl
    | some other =>
      obtain ⟨inside, same⟩ := find?_spec found
      have also := find?_of_mem ((perm_of_insert? inserted).mem_iff.mpr
        (List.mem_cons_of_mem route inside))
      rw [same, here] at also
      cases also
      exact absurd inside new
  · intro free
    unfold insert?
    split
    next => exact ⟨_, rfl⟩
    next refused =>
      obtain ⟨other, inside, same⟩ := exists_of_place?_none refused
      rw [← same, find?_of_mem inside] at free
      cases free

end Placing

/-- Settings of which each has a host and a backend, and no two have the same host. -/
structure Fits (port : UInt16) (settings : List RouteSettings) : Prop where
  named : ∀ setting ∈ settings, hostOf setting port ≠ ""
  read : ∀ setting ∈ settings, ∃ backend, readBackend setting.backend = .ok backend
  distinct : settings.Pairwise fun first second => hostOf first port ≠ hostOf second port

theorem fits_cons : Fits port (setting :: settings) ↔
    (hostOf setting port ≠ "" ∧ (∃ backend, readBackend setting.backend = .ok backend) ∧
      ∀ other ∈ settings, hostOf setting port ≠ hostOf other port) ∧ Fits port settings := by
  constructor
  · rintro ⟨named, read, distinct⟩
    obtain ⟨different, distinct⟩ := List.pairwise_cons.mp distinct
    obtain ⟨filled, named⟩ := List.forall_mem_cons.mp named
    obtain ⟨backend, read⟩ := List.forall_mem_cons.mp read
    exact ⟨⟨filled, backend, different⟩, named, read, distinct⟩
  · rintro ⟨⟨filled, backend, different⟩, named, read, distinct⟩
    exact ⟨List.forall_mem_cons.mpr ⟨filled, named⟩, List.forall_mem_cons.mpr ⟨backend, read⟩,
      List.pairwise_cons.mpr ⟨different, distinct⟩⟩

theorem Fits.of_perm {other : List RouteSettings} (fits : Fits port settings)
    (perm : other.Perm settings) : Fits port other where
  named setting inside := fits.named setting (perm.mem_iff.mp inside)
  read setting inside := fits.read setting (perm.mem_iff.mp inside)
  distinct := (perm.pairwise_iff fun different => Ne.symm different).mpr fits.distinct

/-- All settings can be added exactly if they fit together and the table has none of
their hosts. -/
theorem addAll_iff_fits : (∃ larger, addAll port settings table = .ok larger) ↔
    Fits port settings ∧ ∀ setting ∈ settings, table.find? (hostOf setting port) = none := by
  induction settings generalizing table with
  | nil => exact ⟨fun _ => ⟨⟨nofun, nofun, .nil⟩, nofun⟩, fun _ => ⟨table, rfl⟩⟩
  | cons setting rest ih =>
    simp only [addAll_cons_iff, fits_cons, List.forall_mem_cons]
    constructor
    · rintro ⟨larger, named, route, next, sets, inserted, added⟩
      obtain ⟨fits, free⟩ := ih.mp ⟨larger, added⟩
      have here := insert?_iff_free.mp ⟨next, inserted⟩
      have apart : ∀ other ∈ rest, hostOf setting port ≠ hostOf other port ∧
          table.find? (hostOf other port) = none := by
        intro other inside
        have absent := free other inside
        rw [find?_of_insert? inserted, ← sets.host] at absent
        split at absent
        next => cases absent
        next different => exact ⟨different, absent⟩
      refine ⟨⟨⟨named, ⟨route.backend, sets.backend⟩, fun other inside => (apart other inside).1⟩,
        fits⟩, ?_, fun other inside => (apart other inside).2⟩
      rw [sets.host]
      exact here
    · rintro ⟨⟨⟨named, ⟨backend, read⟩, different⟩, fits⟩, here, free⟩
      obtain ⟨next, inserted⟩ : ∃ next, table.insert? ⟨hostOf setting port, backend⟩ = some next :=
        insert?_iff_free.mpr here
      obtain ⟨larger, added⟩ := ih.mpr ⟨fits, fun other inside => by
        rw [find?_of_insert? inserted, if_neg (different other inside)]
        exact free other inside⟩
      exact ⟨larger, named, ⟨_, backend⟩, next, ⟨rfl, read⟩, inserted, added⟩

theorem perm_of_addAll (added : addAll port settings table = .ok larger) :
    ∃ made, List.Forall₂ (·.Sets port ·) settings made ∧ larger.routes.Perm (made ++ table.routes) := by
  induction settings generalizing table with
  | nil =>
    cases added
    exact ⟨[], .nil, .refl _⟩
  | cons setting rest ih =>
    obtain ⟨route, next, sets, inserted, added⟩ := addAll_cons added
    obtain ⟨made, all, perm⟩ := ih added
    refine ⟨route :: made, .cons sets all, perm.trans ?_⟩
    exact ((perm_of_insert? inserted).append_left made).trans List.perm_middle

theorem ofSettings_iff_fits :
    (∃ table, ofSettings settings port = .ok table) ↔ Fits port settings := by
  rw [ofSettings, addAll_iff_fits]
  exact and_iff_left fun setting _ => rfl

theorem mem_ofSettings (made : ofSettings settings port = .ok table) :
    route ∈ table.routes ↔ ∃ setting ∈ settings, setting.Sets port route := by
  constructor
  · intro inside
    rcases set_of_addAll made inside with none | set
    · cases none
    · exact set
  · rintro ⟨setting, among, host, backend⟩
    obtain ⟨⟨named, other⟩, inside, sets⟩ := (mem_of_addAll made).2 setting among
    cases host.symm.trans sets.host
    cases backend.symm.trans sets.backend
    exact inside

theorem eq_of_mem_iff {first second : RouteTable}
    (same : ∀ route, route ∈ first.routes ↔ route ∈ second.routes) : first = second := by
  have perm := (List.perm_ext_iff_of_nodup first.nodup_routes second.nodup_routes).mpr same
  have equal := perm.eq_of_pairwise
    (fun _ _ _ _ less greater => absurd less (String.lt_asymm greater)) first.increasing
      second.increasing
  cases first
  cases second
  cases equal
  rfl

theorem toOption_of_perm {other : List RouteSettings} (perm : other.Perm settings) :
    (ofSettings other port).toOption = (ofSettings settings port).toOption := by
  have fits : Fits port other ↔ Fits port settings :=
    ⟨fun fits => fits.of_perm perm.symm, fun fits => fits.of_perm perm⟩
  rw [← ofSettings_iff_fits, ← ofSettings_iff_fits] at fits
  cases first : ofSettings other port with
  | ok table =>
    obtain ⟨also, second⟩ := fits.mp ⟨table, first⟩
    have same : table = also := eq_of_mem_iff fun route => by
      rw [mem_ofSettings first, mem_ofSettings second]
      simp only [perm.mem_iff]
    rw [second, same]
  | error fault =>
    cases second : ofSettings settings port with
    | ok table =>
      obtain ⟨also, made⟩ := fits.mpr ⟨table, second⟩
      rw [first] at made
      cases made
    | error other => rfl

theorem Fits.eq_of_host (fits : Fits port settings) {first second : RouteSettings}
    (inside : first ∈ settings) (also : second ∈ settings)
    (same : hostOf first port = hostOf second port) : first = second := by
  have distinct : (settings.map (hostOf · port)).Nodup := by
    rw [List.nodup_iff_pairwise_ne, List.pairwise_map]
    exact fits.distinct
  exact List.inj_on_of_nodup_map distinct inside also same

/-- A table is made of settings exactly if they fit together. It has as many routes as are
set, one for each, in order of their hosts. What it has under a host is the backend of the
one setting that names this host, and under any other text it has nothing. All this is the
same in whatever order the settings are given. -/
theorem routes_kept (port : UInt16) (settings : List RouteSettings) :
    ((∃ table, ofSettings settings port = .ok table) ↔ Fits port settings) ∧
    (∀ table, ofSettings settings port = .ok table →
      table.size = settings.length ∧
      (∀ host, table.contains host = true ↔
        ∃! setting, setting ∈ settings ∧ hostOf setting port = host) ∧
      (∀ host route, table.find? host = some route ↔ route.host = host ∧
        ∃ setting ∈ settings, hostOf setting port = host ∧
          readBackend setting.backend = .ok route.backend) ∧
      (∃ made, List.Forall₂ (·.Sets port ·) settings made ∧ table.routes.Perm made) ∧
      table.routes.Pairwise fun first second => first.host < second.host) ∧
    ∀ other : List RouteSettings, other.Perm settings →
      (ofSettings other port).toOption = (ofSettings settings port).toOption := by
  refine ⟨ofSettings_iff_fits, fun table built => ?_, fun other perm => toOption_of_perm perm⟩
  have fits := ofSettings_iff_fits.mp ⟨table, built⟩
  obtain ⟨made, all, perm⟩ := perm_of_addAll built
  have none : empty.routes = [] := rfl
  rw [none, List.append_nil] at perm
  have found : ∀ host route, table.find? host = some route ↔ route.host = host ∧
      ∃ setting ∈ settings, hostOf setting port = host ∧
        readBackend setting.backend = .ok route.backend := by
    intro host route
    rw [find?_eq_some_iff, mem_ofSettings built]
    constructor
    · rintro ⟨⟨setting, among, sets⟩, rfl⟩
      exact ⟨rfl, setting, among, sets.host, sets.backend⟩
    · rintro ⟨rfl, setting, among, host, backend⟩
      exact ⟨⟨setting, among, host, backend⟩, rfl⟩
  refine ⟨?_, fun host => ?_, found, ⟨made, all, perm⟩, table.increasing⟩
  · rw [size, perm.length_eq, all.length_eq]
  · rw [contains, Option.isSome_iff_exists]
    constructor
    · rintro ⟨route, here⟩
      obtain ⟨_, setting, among, named, _⟩ := (found host route).mp here
      exact ⟨setting, ⟨among, named⟩, fun other also =>
        fits.eq_of_host also.1 among (also.2.trans named.symm)⟩
    · rintro ⟨setting, ⟨among, named⟩, _⟩
      obtain ⟨backend, read⟩ := fits.read setting among
      exact ⟨⟨host, backend⟩, (found host _).mpr ⟨rfl, setting, among, named, read⟩⟩

end LoginGateway.RouteTable
