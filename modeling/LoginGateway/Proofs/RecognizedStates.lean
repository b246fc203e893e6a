import LoginGateway.Proofs.BackendServers
import LoginGateway.Proofs.LoginHandshake

/-! The hub recognizes the states of its routes. The host of a route is written into the
state and read again from a URL, where a port of the scheme gets lost and a standard port
is cut off. A host that was set without a port has none to lose: whatever port is listened
on is either never written or never cut off. -/

namespace LoginGateway

open Url

/-- A route is set for a name without a port. -/
def RouteSettings.IsPortless (setting : RouteSettings) : Prop :=
  (cutPort false (trim setting.source).toList).2 = none

instance (setting : RouteSettings) : Decidable setting.IsPortless :=
  inferInstanceAs (Decidable (_ = none))

section Hosts

variable {scheme place : List Char} {server : Host × Option Nat} {host : Host} {ending : List Char}

theorem Host.IsRead.small (known : host.IsRead) :
    ∀ char ∈ host.text, char.toNat < 0x80 ∧ char.toLower = char := by
  intro char inside
  cases known with
  | domain read _ _ => exact Domain.mem_of_toAscii? read char inside
  | ipv4 _ =>
    obtain ⟨lower, ascii, _⟩ := decimal_spec char (Ipv4.mem_text inside)
    exact ⟨ascii, lower⟩
  | ipv6 address =>
    have signs : ∀ char ∈ '[' :: (hexadecimal ++ [']']), char.toNat < 0x80 ∧ char.toLower = char :=
      List.all_iff_forall_prop.mp (by decide)
    apply signs
    rcases List.mem_cons.mp inside with rfl | inside
    · exact List.mem_cons_self
    · apply List.mem_cons_of_mem
      rcases List.mem_append.mp inside with before | last
      · exact List.mem_append_left _ (Ipv6.mem_text before)
      · exact List.mem_append_right _ last

/-- The text of a host ends in no port. -/
theorem Host.IsRead.not_ends (known : host.IsRead) (plain : ']' ∉ ending) :
    ¬ ':' :: ending <:+ host.text := by
  intro ends
  have colon : ':' ∈ host.text := ends.subset List.mem_cons_self
  cases known with
  | domain read _ _ =>
    exact absurd (Domain.not_forbidden_of_toAscii? read ':' colon) (by decide)
  | ipv4 _ => exact absurd (Ipv4.mem_text colon) (by decide)
  | ipv6 address =>
    rename_i pieces
    obtain ⟨front, same⟩ := ends
    have last := congrArg List.getLast? same
    change _ = ('[' :: Ipv6.text pieces ++ [']']).getLast? at last
    rw [List.getLast?_concat, List.getLast?_append_cons] at last
    rcases List.mem_cons.mp (List.mem_of_getLast? last) with sign | inside
    · exact absurd sign (by decide)
    · exact plain inside

theorem isRead_of_readServer (read : readServer scheme place = .ok server) : server.1.IsRead := by
  simp only [readServer, bind, Except.bind] at read
  split at read
  next => cases read
  next =>
    split at read
    next => cases read
    next host named =>
      split at read
      next => cases read
      next =>
        split at read
        next => cases read
        next =>
          cases read
          exact Host.isRead_of_readHost named

namespace Spells

theorem place_eq (spells : Spells scheme place server) :
    place = server.1.text ++ Url.tail ':' (server.2.map fun port => (Nat.repr port).toList) := by
  have written := spells.written
  rw [Url.place, portText_tail] at written
  exact written.symm

theorem small (spells : Spells scheme place server) :
    ∀ char ∈ place, char.toNat < 0x80 ∧ char.toLower = char := by
  intro char inside
  rw [spells.place_eq] at inside
  rcases List.mem_append.mp inside with named | numbered
  · exact (isRead_of_readServer spells.read).small char named
  · cases port : server.2 with
    | none =>
      rw [port] at numbered
      cases numbered
    | some number =>
      rw [port] at numbered
      rcases List.mem_cons.mp numbered with rfl | digit
      · decide
      · obtain ⟨lower, ascii, _⟩ := decimal_spec char (mem_decimal_of_repr digit).1
        exact ⟨ascii, lower⟩

theorem trim_eq {name : String} (spells : Spells scheme name.toList server) : trim name = name := by
  have kept : ∀ char ∈ name.toList, isBlankChar char = false := by
    intro char inside
    exact of_ascii (spells.small char inside).1 (by decide) (spells.plain char inside)
  rw [trim, trimWhile_of_kept kept, String.ofList_toList]

end Spells

theorem withoutEnding_of_other {text : List Char} {endings : List (List Char)}
    (other : ∀ ending ∈ endings, ¬ ending <:+ text) : withoutEnding text endings = text := by
  induction endings with
  | nil => rfl
  | cons ending endings ih =>
    obtain ⟨first, later⟩ := List.forall_mem_cons.mp other
    rw [withoutEnding, if_neg (mt List.isSuffixOf_iff_suffix.mp first)]
    exact ih later

theorem withoutEnding_front (text : List Char) (endings : List (List Char)) :
    withoutEnding text endings <+: text := by
  induction endings with
  | nil => exact List.prefix_rfl
  | cons ending endings ih =>
    rw [withoutEnding]
    split
    · exact List.take_prefix _ _
    · exact ih

def standardEndings : List (List Char) := [":80".toList, ":443".toList]

theorem canonicalHost_of_spells {name : String} (spells : Spells scheme name.toList server)
    (bare : ∀ ending ∈ standardEndings, ¬ ending <:+ name.toList) : canonicalHost name = name := by
  have small : name.toList.map Char.toLower = name.toList :=
    map_eq_self fun char inside => (spells.small char inside).2
  have cut : withoutEnding name.toList [":80".toList, ":443".toList] = name.toList :=
    withoutEnding_of_other bare
  rw [canonicalHost, spells.trim_eq, small, cut, String.ofList_toList]

end Hosts

section Ports

theorem cutPort_lower (inside : Bool) (text : List Char) :
    (cutPort inside (text.map Char.toLower)).2 = (cutPort inside text).2.map (·.map Char.toLower) := by
  induction text generalizing inside with
  | nil => rfl
  | cons char text ih =>
    have colon : char.toLower = ':' ↔ char = ':' := toLower_eq_iff (by decide) char
    have left : char.toLower = '[' ↔ char = '[' := toLower_eq_iff (by decide) char
    have right : char.toLower = ']' ↔ char = ']' := toLower_eq_iff (by decide) char
    simp only [List.map_cons, cutPort, colon, left, right, ne_eq]
    split
    · rfl
    · exact ih _

theorem cutPort_front {inside : Bool} {front text : List Char} (starts : front <+: text)
    (absent : (cutPort inside text).2 = none) : (cutPort inside front).2 = none := by
  induction front generalizing inside text with
  | nil => rfl
  | cons char front ih =>
    obtain ⟨rest, rfl⟩ := starts
    rw [List.cons_append, cutPort] at absent
    rw [cutPort]
    split at absent
    next => cases absent
    next other =>
      rw [if_neg other]
      exact ih (List.prefix_append front rest) absent

theorem cutPort_trimWhile {text : List Char} (absent : (cutPort false text).2 = none) :
    (cutPort false (trimWhile isBlankChar text)).2 = none := by
  obtain ⟨front, back, same, blank⟩ := exists_trimWhile isBlankChar text
  have plain : ∀ char ∈ front, char ≠ ':' ∧ char ≠ '[' := by
    intro char inside
    have white := blank char (List.mem_append_left back inside)
    constructor
    all_goals
      rintro rfl
      exact absurd white (by decide)
  rw [same, List.append_assoc, cutPort_behind plain] at absent
  exact cutPort_front (List.prefix_append _ back) absent

end Ports

namespace RouteTable

variable {setting : RouteSettings} {port : UInt16}

theorem toList_hostOf (setting : RouteSettings) (port : UInt16) : (hostOf setting port).toList =
    withoutEnding ((trimWhile isBlankChar (publicHost (trim setting.source) port).toList).map
      Char.toLower) standardEndings := by
  rw [hostOf, canonicalHost, String.toList_ofList, trim, String.toList_ofList]
  rfl

/-- Where the port is one of the standard, none is written. -/
theorem portless_hostOf (portless : setting.IsPortless) (standard : port = 80 ∨ port = 443) :
    (cutPort false (hostOf setting port).toList).2 = none := by
  rw [toList_hostOf, publicHost, if_pos standard]
  apply cutPort_front (withoutEnding_front _ _)
  rw [cutPort_lower, cutPort_trimWhile portless]
  rfl

theorem toNat_of_repr {digits : List Char} {number : Nat} (read : numberIn? 10 digits = some number)
    (same : digits = (toString port.toNat).toList) : port.toNat = number := by
  have written : numberIn? 10 (Nat.toDigits 10 port.toNat) = some port.toNat :=
    numberIn?_toDigits (by decide) (by decide) port.toNat
  rw [same] at read
  change numberIn? 10 (Nat.repr port.toNat).toList = _ at read
  rw [Nat.toList_repr] at read
  exact Option.some.inj (written.symm.trans read)

/-- Any other port is written, and what ends in it ends in no standard port. -/
theorem bare_of_ends {text : List Char} (other : ¬ (port = 80 ∨ port = 443))
    (ends : ':' :: (toString port.toNat).toList <:+ text) :
    ∀ ending ∈ standardEndings, ¬ ending <:+ text := by
  have plain : ':' ∉ (toString port.toNat).toList := fun inside =>
    absurd (mem_decimal_of_repr inside).1 (by decide)
  have differs (digits : List Char) {number : UInt16} (absent : ':' ∉ digits)
      (read : numberIn? 10 digits = some number.toNat) (different : port ≠ number) :
      ¬ ':' :: digits <:+ text := by
    intro also
    have same := eq_of_suffixes absent plain also ends
    exact different (UInt16.toNat_inj.mp (toNat_of_repr read same))
  obtain ⟨not80, not443⟩ := not_or.mp other
  intro ending among
  rcases List.mem_cons.mp among with rfl | among
  · exact differs "80".toList (by decide) (by decide) not80
  · rw [List.mem_singleton.mp among]
    exact differs "443".toList (by decide) (by decide) not443

theorem ends_hostOf (other : ¬ (port = 80 ∨ port = 443)) :
    ':' :: (toString port.toNat).toList <:+ (hostOf setting port).toList := by
  obtain ⟨digits, last, same⟩ :
      ∃ digits last, ':' :: (toString port.toNat).toList = digits ++ [last] :=
    ⟨_, _, (List.dropLast_concat_getLast (List.cons_ne_nil _ _)).symm⟩
  have spelled : ∀ char ∈ digits ++ [last], isBlankChar char = false ∧ char.toLower = char := by
    rw [← same]
    have signs : ∀ char ∈ ':' :: decimal, isBlankChar char = false ∧ char.toLower = char :=
      List.all_iff_forall_prop.mp (by decide)
    intro char inside
    apply signs
    rcases List.mem_cons.mp inside with rfl | digit
    · exact List.mem_cons_self
    · exact List.mem_cons_of_mem _ (mem_decimal_of_repr digit).1
  have written : digits ++ [last] <:+ (publicHost (trim setting.source) port).toList := by
    rw [publicHost, if_neg other, String.toList_append, String.toList_append, List.append_assoc,
      ← same]
    exact List.suffix_append _ _
  have trimmed := suffix_trimWhile (fun char inside => (spelled char inside).1) written
  have lowered := trimmed.map Char.toLower
  rw [map_eq_self fun char inside => (spelled char inside).2, ← same] at lowered
  rw [toList_hostOf, withoutEnding_of_other (bare_of_ends other lowered)]
  exact lowered

theorem bare_hostOf {scheme : List Char} {server : Host × Option Nat}
    (portless : setting.IsPortless) (spells : Spells scheme (hostOf setting port).toList server) :
    ∀ ending ∈ standardEndings, ¬ ending <:+ (hostOf setting port).toList := by
  by_cases standard : port = 80 ∨ port = 443
  · have known := isRead_of_readServer spells.read
    have absent := portless_hostOf portless standard
    rw [spells.place_eq, cutPort_text known] at absent
    have none : server.2.map (fun port => (Nat.repr port).toList) = none := absent
    have alone : (hostOf setting port).toList = server.1.text := by
      rw [spells.place_eq, none]
      exact List.append_nil _
    intro ending among
    rw [alone]
    rcases List.mem_cons.mp among with rfl | among
    · exact known.not_ends (by decide)
    · rw [List.mem_singleton.mp among]
      exact known.not_ends (by decide)
  · exact bare_of_ends standard (ends_hostOf standard)

end RouteTable

namespace Gateway

variable {gateway : Gateway} {route : Route} {target : Target}

/-- Whatever is asked for, its address is read as the host of the route it was asked at. -/
theorem parse_stateOf {server : Host × Option Nat} (web : IsWeb gateway.scheme.toList)
    (spells : Spells gateway.scheme.toList route.host.toList server) {text : String}
    (read : Target.parse? text = some target) (path : target.rawPath ≠ "*") :
    ∃ back, Url.parse (gateway.stateOf route target).toList = .ok back ∧
      back.hostAndPort? = some route.host.toList := by
  rcases Target.cases_of_parse? read with rfl | ⟨authority, chars, starts, found⟩
  · exact absurd rfl path
  · have follows := Target.follows_pathAndQuery (Target.hasPath_of_readPath? starts found)
    have plain := fun char inside => isPlaceChar_of_isHostChar (spells.plain char inside)
    have whole := parse_place web plain spells.filled follows
    rw [spells.read] at whole
    rw [stateOf, toList_address]
    exact ⟨_, whole, spells.hostAndPort? _⟩

/-- The hub recognizes the state of every route that is set for a name without a port and
whose host stands unchanged in a URL: whatever path and query were asked for, the address
that the provider is told is read as a URL, and its host leads back to the route. -/
theorem state_recognized {settings : Settings} {environment : Environment} {key : SigningKey}
    {provider : Provider} {setting : RouteSettings}
    (valid : settings.validate environment = .ok ())
    (made : Gateway.ofSettings settings key provider = .ok gateway)
    (among : setting ∈ settings.routes) (portless : setting.IsPortless)
    (canonical : IsCanonicalHost settings.server.scheme
      (RouteTable.hostOf setting settings.server.port)) :
    ∃ route, gateway.routes.find? (RouteTable.hostOf setting settings.server.port) = some route ∧
      setting.Sets settings.server.port route ∧
      ∀ text target, Target.parse? text = some target → target.rawPath ≠ "*" →
        let state := gateway.stateOf route target
        let login := gateway.provider.loginUrl state gateway.domainHint
        gateway.toProvider route target = Response.found (String.ofList login.text) ∧
        ("state", state) ∈ login.queryPairs ∧
        ∃ back, Url.parse state.toList = .ok back ∧ gateway.stateRoute? back = some route := by
  obtain ⟨route, inside, sets⟩ :=
    (RouteTable.mem_of_addAll (routes_ofSettings made)).2 setting among
  have found := RouteTable.find?_of_mem inside
  have scheme := (names_ofSettings made).1
  have web := Settings.isWeb_of_validate valid
  obtain ⟨server, spells⟩ := exists_spells web canonical
  have compared : canonicalHost route.host = route.host := by
    rw [← sets.host]
    exact canonicalHost_of_spells spells (RouteTable.bare_hostOf portless spells)
  rw [← scheme] at web spells
  rw [sets.host] at spells
  refine ⟨route, by rw [sets.host]; exact found, sets, ?_⟩
  intro text target read path
  obtain ⟨back, parsed, host⟩ := parse_stateOf web spells read path
  refine ⟨rfl, state_of_loginUrl _ _ _, back, parsed, ?_⟩
  rw [stateRoute?, host, Option.bind_some, String.ofList_toList, compared, found]

end Gateway

namespace OneRoute
open Gateway

def capitals : RouteSettings := ⟨" App.ORG.com ", "backend:8080"⟩

def elsewhere : Settings := { settings with
  server := { settings.server with port := 8080, scheme := "https" }
  oauth := { settings.oauth with clientId := "id" }
  routes := [capitals] }

def elsewhereGateway : Gateway := { gateway with
  routes := ⟨[⟨"app.org.com:8080", backend⟩], .cons nofun .nil⟩
  hubHost := "sso.org.com:8080"
  scheme := "https" }

theorem hostOf_capitals : RouteTable.hostOf capitals 8080 = "app.org.com:8080" := by
  decide

theorem configured_elsewhere :
    Gateway.ofSettings elsewhere ⟨[]⟩ provider = .ok elsewhereGateway := by
  have hub : canonicalHost (publicHost elsewhere.host 8080) = "sso.org.com:8080" := by decide
  have suffix : elsewhere.oauth.emailSuffix = "@org.com" := by decide
  have hint : elsewhere.oauth.domainHint = "org.com" := by decide
  have port : elsewhere.server.port = 8080 := rfl
  have filled : "app.org.com:8080" ≠ "" := by decide
  have read : readBackend capitals.backend = .ok backend := by decide +kernel
  rw [Gateway.ofSettings, suffix, hint, port, hub]
  simp only [elsewhere, RouteTable.ofSettings, RouteTable.addAll, hostOf_capitals, if_neg filled,
    read, bind, Except.bind]
  rfl

def strayTarget : Target := ⟨some "other.org", "/..//\\é", some "x=\\"⟩

theorem state_recognized_elsewhere :
    elsewhere.validate [] = .ok () ∧
      Gateway.ofSettings elsewhere ⟨[]⟩ provider = .ok elsewhereGateway ∧
      capitals ∈ elsewhere.routes ∧ capitals.IsPortless ∧
      IsCanonicalHost "https" (RouteTable.hostOf capitals 8080) ∧
      Target.parse? "http://other.org/..//\\é?x=\\#y" = some strayTarget ∧
      ∃ back, Url.parse "https://app.org.com:8080/..//\\é?x=\\".toList = .ok back ∧
        elsewhereGateway.stateRoute? back = some ⟨"app.org.com:8080", backend⟩ := by
  have valid : elsewhere.validate [] = .ok () := by decide
  have among : capitals ∈ elsewhere.routes := List.mem_cons_self
  have portless : capitals.IsPortless := by decide
  have canonical : IsCanonicalHost "https" (RouteTable.hostOf capitals 8080) := by
    rw [hostOf_capitals]
    decide +kernel
  have read : Target.parse? "http://other.org/..//\\é?x=\\#y" = some strayTarget := by decide
  have state : elsewhereGateway.stateOf ⟨"app.org.com:8080", backend⟩ strayTarget =
      "https://app.org.com:8080/..//\\é?x=\\" := by decide
  obtain ⟨route, found, sets, recognized⟩ :=
    state_recognized valid configured_elsewhere among portless canonical
  have same : route = ⟨"app.org.com:8080", backend⟩ := by
    change elsewhereGateway.routes.find? (RouteTable.hostOf capitals 8080) = _ at found
    rw [hostOf_capitals] at found
    exact Option.some.inj found.symm
  obtain ⟨_, _, back, parsed, routed⟩ := recognized _ _ read (by decide)
  rw [same] at parsed routed
  rw [state] at parsed
  exact ⟨valid, configured_elsewhere, among, portless, canonical, read, back, parsed, routed⟩

end OneRoute

end LoginGateway
