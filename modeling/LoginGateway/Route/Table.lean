import LoginGateway.Route.Basic
import LoginGateway.Settings.Basic

/-! The table of routes. It is kept in order of the hosts, each of which it has
once, so two tables with the same routes are equal. -/

namespace LoginGateway

structure RouteTable where
  routes : List Route
  increasing : routes.Pairwise fun first second => first.host < second.host

namespace RouteTable

def empty : RouteTable := ⟨[], .nil⟩

def find? (table : RouteTable) (host : String) : Option Route :=
  table.routes.find? (·.host = host)

def contains (table : RouteTable) (host : String) : Bool := (table.find? host).isSome

def size (table : RouteTable) : Nat := table.routes.length

/-- The list with a route in its place, unless its host is there. -/
def place? (route : Route) : List Route → Option (List Route)
  | [] => some [route]
  | first :: rest =>
    if route.host < first.host then some (route :: first :: rest)
    else if route.host = first.host then none
    else (place? route rest).map (first :: ·)

theorem mem_of_place? {route : Route} {routes placed : List Route}
    (found : place? route routes = some placed) :
    ∀ other ∈ placed, other = route ∨ other ∈ routes := by
  induction routes generalizing placed with
  | nil =>
    obtain rfl := Option.some.inj found
    simp
  | cons first rest ih =>
    unfold place? at found
    split at found
    · obtain rfl := Option.some.inj found
      simp
    · split at found
      · simp at found
      · obtain ⟨tail, inner, rfl⟩ := Option.map_eq_some_iff.mp found
        intro other inside
        rcases List.mem_cons.mp inside with rfl | inside
        · simp
        · rcases ih inner other inside with rfl | inside
          · simp
          · simp [inside]

theorem place?_increasing {route : Route} {routes placed : List Route}
    (increasing : routes.Pairwise fun first second => first.host < second.host)
    (found : place? route routes = some placed) :
    placed.Pairwise fun first second => first.host < second.host := by
  induction routes generalizing placed with
  | nil =>
    obtain rfl := Option.some.inj found
    simp
  | cons first rest ih =>
    obtain ⟨above, tailIncreasing⟩ := List.pairwise_cons.mp increasing
    unfold place? at found
    split at found
    next less =>
      obtain rfl := Option.some.inj found
      refine List.pairwise_cons.mpr ⟨?_, increasing⟩
      intro other inside
      rcases List.mem_cons.mp inside with rfl | inside
      · exact less
      · exact String.lt_trans less (above other inside)
    next notLess =>
      split at found
      · simp at found
      next different =>
        obtain ⟨tail, inner, rfl⟩ := Option.map_eq_some_iff.mp found
        refine List.pairwise_cons.mpr ⟨?_, ih tailIncreasing inner⟩
        intro other inside
        rcases mem_of_place? inner other inside with rfl | inside
        · exact Std.lt_of_le_of_ne (Std.not_lt.mp notLess) (Ne.symm different)
        · exact above other inside

def insert? (table : RouteTable) (route : Route) : Option RouteTable :=
  match found : place? route table.routes with
  | some routes => some ⟨routes, place?_increasing table.increasing found⟩
  | none => none

def hostOf (setting : RouteSettings) (port : UInt16) : String :=
  canonicalHost (publicHost (trim setting.source) port)

def addAll (port : UInt16) : List RouteSettings → RouteTable → Except Fault RouteTable
  | [], table => .ok table
  | setting :: rest, table => do
    let host := hostOf setting port
    if host = "" then .error (.settings "route with empty \x60from\x60")
    let backend ← readBackend setting.backend
    match table.insert? ⟨host, backend⟩ with
    | some table => addAll port rest table
    | none => .error (.settings ("duplicate route for host " ++ host))

def ofSettings (settings : List RouteSettings) (port : UInt16) : Except Fault RouteTable :=
  addAll port settings empty

end RouteTable

end LoginGateway
