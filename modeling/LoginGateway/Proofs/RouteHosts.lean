import LoginGateway.Gateway.Bridge
import LoginGateway.Proofs.FormPairs
import LoginGateway.Proofs.RouteTargets
import LoginGateway.Proofs.UrlTexts

/-! Hosts that are written as URLs write them. A URL that is put together from such a
host is read as it was written, so the place where a login is completed is on the host
of its route and brings its parameters along. -/

namespace LoginGateway

open Url

def decideOk {ε α : Type} {holds : α → Prop} [DecidablePred holds] :
    (result : Except ε α) → Decidable (∃ value, result = .ok value ∧ holds value)
  | .ok value => decidable_of_iff (holds value) (by simp)
  | .error _ => isFalse (by simp)

/-- A host that stands unchanged in a URL of a scheme. -/
def IsCanonicalHost (scheme host : String) : Prop :=
  ∃ url, Url.parse (scheme ++ "://" ++ host ++ "/").toList = .ok url ∧
    url.hostAndPort? = some host.toList

instance (scheme host : String) : Decidable (IsCanonicalHost scheme host) := decideOk _

/-- A text that a server is read from and written as. -/
structure Spells (scheme place : List Char) (server : Host × Option Nat) : Prop where
  read : readServer scheme place = .ok server
  named : server.1.text ≠ []
  written : (behind scheme [] server).place = place
  plain : ∀ char ∈ place, isHostChar char = true

theorem toList_address (scheme host rest : String) : (scheme ++ "://" ++ host ++ rest).toList =
    scheme.toList ++ ':' :: '/' :: '/' :: (host.toList ++ rest.toList) := by
  simp only [String.toList_append, List.append_assoc]
  rfl

theorem hostAndPort?_of_host {url : Url} {host : Host} (found : url.host = some host)
    (named : host.text ≠ []) : url.hostAndPort? = some url.place := by
  rw [hostAndPort?, hostText?, place, found]
  simp [named]

theorem place_of_hostAndPort? {url : Url} {text : List Char} (found : url.hostAndPort? = some text) :
    url.place = text ∧ ∀ host, url.host = some host → host.text ≠ [] := by
  obtain ⟨name, filtered, rfl⟩ := Option.map_eq_some_iff.mp found
  obtain ⟨same, filled⟩ := Option.filter_eq_some_iff.mp filtered
  refine ⟨by rw [place, same, Option.getD_some], fun host here => ?_⟩
  rw [here] at same
  cases same
  simpa using filled

theorem exists_spells {scheme host : String} (web : IsWeb scheme.toList)
    (canonical : IsCanonicalHost scheme host) :
    ∃ server, Spells scheme.toList host.toList server := by
  obtain ⟨url, made, found⟩ := canonical
  obtain ⟨written, named⟩ := place_of_hostAndPort? found
  rw [toList_address] at made
  have rooted := rooted_of_web web made
  have same := rooted.scheme
  have plain : ∀ char ∈ host.toList, isHostChar char = true := by
    rw [← written]
    exact isHostChar_place (by rw [same]; exact web) (by rw [same]; exact rooted)
  have filled : host.toList ≠ [] := by
    obtain ⟨name, filtered, _⟩ := Option.map_eq_some_iff.mp found
    rw [← written]
    exact place_ne_nil (by rw [filtered]; rfl)
  rw [parse_place web (fun char inside => isPlaceChar_of_isHostChar (plain char inside)) filled
    follows_slash] at made
  cases read : readServer scheme.toList host.toList with
  | error fault =>
    rw [read] at made
    cases made
  | ok server =>
    rw [read] at made
    cases made
    exact ⟨server, read, named server.1 rfl, written, plain⟩

namespace Spells

variable {scheme place tail : List Char} {server : Host × Option Nat}

theorem filled (spells : Spells scheme place server) : place ≠ [] := by
  intro empty
  have nothing := spells.written.trans empty
  exact spells.named (List.append_eq_nil_iff.mp nothing).1

theorem hostAndPort? (spells : Spells scheme place server) (tail : List Char) :
    (behind scheme tail server).hostAndPort? = some place := by
  rw [hostAndPort?_of_host rfl spells.named]
  exact congrArg some spells.written

theorem text_behind (spells : Spells scheme place server) (tail : List Char) :
    (behind scheme tail server).text = scheme ++ ':' :: '/' :: '/' :: (place ++
      ((behind scheme tail server).pathAndQuery ++
        Url.tail '#' (behind scheme tail server).fragment)) := by
  have authority : (behind scheme tail server).authority = '/' :: '/' :: place := by
    rw [← spells.written]
    rfl
  rw [text, authority, pathAndQuery]
  simp only [List.append_assoc, List.cons_append]
  rfl

/-- What is written behind the host is read there. -/
theorem parse_eq (spells : Spells scheme place server) (web : IsWeb scheme) (follows : Follows tail)
    (inner : ∀ char ∈ tail, isEdge char = false) :
    parse (scheme ++ ':' :: '/' :: '/' :: (place ++ tail)) = .ok (behind scheme tail server) := by
  have plain := fun char inside => isPlaceChar_of_isHostChar (spells.plain char inside)
  rw [parse_place web plain spells.filled follows, spells.read, cleanEnd_inner inner]
  rfl

end Spells

namespace Form

theorem mem_serialize {pairs : List (String × String)} {char : Char}
    (inside : char ∈ serialize pairs) : char ∈ '&' :: '=' :: alphabet := by
  rcases mem_of_mem_intersperse inside with rfl | ⟨part, among, here⟩
  · exact List.mem_cons_self
  · obtain ⟨pair, _, rfl⟩ := List.mem_map.mp among
    apply List.mem_cons_of_mem
    rcases List.mem_append.mp here with name | rest
    · exact List.mem_cons_of_mem _ (mem_alphabet char name)
    · rcases List.mem_cons.mp rest with rfl | value
      · exact List.mem_cons_self
      · exact List.mem_cons_of_mem _ (mem_alphabet char value)

theorem plain_of_mem : ∀ char ∈ '&' :: '=' :: alphabet, isEdge char = false ∧ char ≠ '#' ∧
    (0x20 ≤ char.toNat ∧ char.toNat ≠ 0x7F) ∧
    char.toNat < 0x80 ∧ querySet true (UInt8.ofNat char.toNat) = false :=
  List.all_iff_forall_prop.mp (by decide)

end Form

theorem plain_authPath : ∀ char ∈ authPath.toList, isEdge char = false ∧
    (char ≠ '#' ∧ char ≠ '?') ∧ 0x20 ≤ char.toNat ∧ char.toNat ≠ 0x7F :=
  List.all_iff_forall_prop.mp (by decide)

theorem follows_authPath (rest : List Char) : Follows (authPath.toList ++ rest) :=
  follows_of_head (.inl rfl)

def authUrl (scheme : List Char) (server : Host × Option Nat) (query : Option (List Char)) : Url where
  scheme := scheme
  username := []
  password := []
  host := some server.1
  port := server.2
  path := .segments ["__auth__".toList, []]
  query := query
  fragment := none

theorem behind_authPath (scheme : List Char) (server : Host × Option Nat) :
    behind scheme authPath.toList server = authUrl scheme server none :=
  rfl

theorem behind_form (scheme : List Char) (server : Host × Option Nat)
    (pairs : List (String × String)) :
    behind scheme (authPath.toList ++ '?' :: Form.serialize pairs) server =
      authUrl scheme server (some (Form.serialize pairs)) := by
  have whole : ∀ text, some (Form.serialize pairs) = some text → '#' ∉ text := by
    rintro text ⟨⟩ inside
    exact (Form.plain_of_mem '#' (Form.mem_serialize inside)).2.1 rfl
  have parts : cut (authPath.toList ++ '?' :: Form.serialize pairs) =
      ⟨authPath.toList, some (Form.serialize pairs), none⟩ :=
    cut_tail (fun char inside => (plain_authPath char inside).2.1) whole
  have kept : Percent.encodeText (querySet true) (Form.serialize pairs) = Form.serialize pairs :=
    Percent.encodeText_of_plain fun char inside =>
      (Form.plain_of_mem char (Form.mem_serialize inside)).2.2.2
  simp only [behind, parts, readQuery, Option.map_some, kept]
  rfl

theorem printable_address {scheme place tail : List Char} {server : Host × Option Nat}
    (web : IsWeb scheme) (spells : Spells scheme place server) (printable : Printable tail) :
    Printable (scheme ++ ':' :: '/' :: '/' :: (place ++ tail)) := by
  have front : Printable (scheme ++ "://".toList) := by
    rcases web with rfl | rfl
    · exact List.all_iff_forall_prop.mp (by decide)
    · exact List.all_iff_forall_prop.mp (by decide)
  have host : Printable place := fun char inside =>
    printable_of_isHostChar (spells.plain char inside)
  have whole := front.append (host.append printable)
  rw [List.append_assoc] at whole
  exact whole

namespace Gateway

/-- The URL of the place on a route's host where a visitor with a token goes on to
`resume`. -/
structure IsBridge (gateway : Gateway) (route : Route) (resume token : String) (leaf : Url) :
    Prop where
  scheme : leaf.scheme = gateway.scheme.toList
  username : leaf.username = []
  password : leaf.password = []
  host : leaf.hostAndPort? = some route.host.toList
  path : leaf.path.text = authPath.toList
  pairs : queryPairs (leaf.query.map String.ofList) = [("p", resume), ("c", token)]
  fragment : leaf.fragment = none

/-- Where the hub sends a visitor on to is a bridge, also when its text is read again. -/
theorem bridgeUrl_spec {gateway : Gateway} {route : Route} (web : IsWeb gateway.scheme.toList)
    (canonical : IsCanonicalHost gateway.scheme route.host) (resume token : String) :
    ∃ leaf, gateway.bridgeUrl route resume token = .ok leaf ∧ Url.parse leaf.text = .ok leaf ∧
      Printable leaf.text ∧ gateway.IsBridge route resume token leaf := by
  obtain ⟨server, spells⟩ := exists_spells web canonical
  have form := behind_form gateway.scheme.toList server [("p", resume), ("c", token)]
  generalize written : Form.serialize [("p", resume), ("c", token)] = query at form
  have plain : ∀ char ∈ authPath.toList ++ '?' :: query,
      isEdge char = false ∧ 0x20 ≤ char.toNat ∧ char.toNat ≠ 0x7F := by
    intro char inside
    rcases List.mem_append.mp inside with path | rest
    · obtain ⟨inner, _, printable⟩ := plain_authPath char path
      exact ⟨inner, printable⟩
    · rcases List.mem_cons.mp rest with rfl | among
      · decide
      · rw [← written] at among
        obtain ⟨inner, _, printable, _⟩ := Form.plain_of_mem char (Form.mem_serialize among)
        exact ⟨inner, printable⟩
  have ends : Follows authPath.toList := by
    rw [← List.append_nil authPath.toList]
    exact follows_authPath []
  have alone := spells.parse_eq web ends fun char inside => (plain_authPath char inside).1
  have whole := spells.parse_eq web (follows_authPath ('?' :: query)) fun char inside =>
    (plain char inside).1
  have made : gateway.bridgeUrl route resume token =
      .ok (authUrl gateway.scheme.toList server (some query)) := by
    rw [bridgeUrl, toList_address, alone, behind_authPath, ← written]
    rfl
  have text : (authUrl gateway.scheme.toList server (some query)).text =
      gateway.scheme.toList ++ ':' :: '/' :: '/' ::
        (route.host.toList ++ (authPath.toList ++ '?' :: query)) := by
    have rest : (authUrl gateway.scheme.toList server (some query)).pathAndQuery ++
        tail '#' (authUrl gateway.scheme.toList server (some query)).fragment =
          authPath.toList ++ '?' :: query :=
      List.append_nil _
    rw [← form, spells.text_behind, form, rest]
  refine ⟨_, made, by rw [text, whole, form], ?_, ⟨rfl, rfl, rfl, ?_, rfl, ?_, rfl⟩⟩
  · rw [text]
    exact printable_address web spells fun char inside => (plain char inside).2
  · rw [← form]
    exact spells.hostAndPort? _
  · change Form.parse (octets (String.ofList query)) = _
    rw [octets, String.toList_ofList, ← written, Form.parse_serialize]

end Gateway

end LoginGateway
