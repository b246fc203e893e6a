import LoginGateway.Http.TargetReader
import LoginGateway.Http.Transport
import LoginGateway.Proofs.UrlHosts
import LoginGateway.Route.Basic

/-! Where the requests of a route go. The place of a request is written behind the
origin of its backend and read again, and nothing in a path or query makes the
reader find another server. -/

namespace LoginGateway

open Url

theorem readBackend_spec {setting : String} {backend : Url}
    (read : readBackend setting = .ok backend) :
    IsWeb backend.scheme ∧ Rooted backend.scheme backend ∧ backend.hostText?.isSome := by
  simp only [readBackend] at read
  generalize (if holds _ _ then _ else _) = candidate at read
  cases parsed : Url.parse candidate with
  | error fault =>
    rw [parsed] at read
    cases read
  | ok url =>
    rw [parsed] at read
    simp only [] at read
    split at read
    next => cases read
    next fits =>
      split at read
      next => cases read
      next =>
        cases read
        obtain ⟨scheme, host⟩ := not_or.mp fits
        have web : IsWeb backend.scheme := by
          by_cases plain : backend.scheme = "http".toList
          · exact .inl plain
          · exact .inr (Decidable.byContradiction fun other => scheme ⟨plain, other⟩)
        exact ⟨web, rooted_of_parse parsed web, Option.isSome_iff_ne_none.mpr (by simpa using host)⟩

def Url.place (url : Url) : List Char := (url.host.map Host.text).getD [] ++ url.portText

theorem Url.isHostChar_place {url : Url} (web : IsWeb url.scheme) (rooted : Rooted url.scheme url) :
    ∀ char ∈ url.place, isHostChar char = true := by
  obtain ⟨host, found, text, read⟩ := rooted.host
  rw [(isSpecial_web web).1] at read
  intro char inside
  rw [place, found] at inside
  rcases List.mem_append.mp inside with named | numbered
  · exact isHostChar_of_readHost read char named
  · exact isHostChar_portText url char numbered

theorem Url.plain_place {url : Url} (web : IsWeb url.scheme) (rooted : Rooted url.scheme url) :
    ∀ char ∈ url.place, isPlaceChar char = true :=
  fun char inside => isPlaceChar_of_isHostChar (isHostChar_place web rooted char inside)

theorem Url.place_ne_nil {url : Url} (some : url.hostText?.isSome) : url.place ≠ [] := by
  obtain ⟨text, found⟩ := Option.isSome_iff_exists.mp some
  obtain ⟨named, filled⟩ := Option.filter_eq_some_iff.mp found
  rw [place, named]
  intro empty
  have nothing := (List.append_eq_nil_iff.mp empty).1
  rw [Option.getD_some] at nothing
  simp [nothing] at filled

/-- A target with a path, which is empty or begins with a slash. -/
def Target.HasPath (target : Target) : Prop :=
  ∀ first rest, target.rawPath.toList = first :: rest → first = '/'

theorem Target.follows_pathAndQuery {target : Target} (hasPath : target.HasPath) :
    Follows target.pathAndQuery.toList := by
  intro first rest same
  unfold pathAndQuery at same
  split at same
  next query _ =>
    rw [String.toList_append, String.toList_append, List.append_assoc] at same
    rcases List.append_eq_cons_iff.mp same with ⟨_, starts⟩ | ⟨others, starts, _⟩
    · cases starts
      rfl
    · rw [hasPath first others starts]
      rfl
  next =>
    unfold path at same
    split at same
    next =>
      cases same
      rfl
    next =>
      rw [hasPath first rest same]
      rfl

theorem Target.hasPath_of_readPath? {authority : Option String} {text : List Char} {target : Target}
    (starts : ∀ first rest, text = first :: rest → first = '/' ∨ first = '?' ∨ first = '#')
    (read : readPath? authority text = some target) : target.HasPath := by
  simp only [readPath?] at read
  split at read
  next =>
    cases read
    intro first rest same
    rw [String.toList_ofList] at same
    cases text with
    | nil => cases same
    | cons char others =>
      rcases starts char others rfl with rfl | rfl | rfl
      · rw [List.takeWhile_cons_of_pos (by decide), List.takeWhile_cons_of_pos (by decide)] at same
        exact (List.cons.inj same).1.symm
      · rw [List.takeWhile_cons_of_pos (by decide), List.takeWhile_cons_of_neg (by decide)] at same
        cases same
      · rw [List.takeWhile_cons_of_neg (by decide)] at same
        cases same
  next => cases read

/-- A text with a slash in front is read as a path and query that are the text itself, up
to a fragment. -/
theorem Target.pathAndQuery_of_slash {rest : List Char} {target : Target}
    (read : readPath? none ('/' :: rest) = some target) :
    target.pathAndQuery.toList = ('/' :: rest).takeWhile (· ≠ '#') := by
  have kept : ('/' :: rest).takeWhile (· ≠ '#') = '/' :: rest.takeWhile (· ≠ '#') :=
    List.takeWhile_cons_of_pos (by decide)
  rw [readPath?, kept] at read
  rw [kept]
  generalize rest.takeWhile (· ≠ '#') = others at read
  have front : ('/' :: others).takeWhile (· ≠ '?') = '/' :: others.takeWhile (· ≠ '?') :=
    List.takeWhile_cons_of_pos (by decide)
  have whole := List.takeWhile_append_dropWhile (p := (· ≠ '?')) (l := '/' :: others)
  have stops := List.head?_dropWhile_not (fun char : Char => decide (char ≠ '?')) ('/' :: others)
  split at read
  next =>
    cases read
    rw [front] at whole ⊢
    cases behind : ('/' :: others).dropWhile (· ≠ '?') with
    | nil =>
      rw [behind, List.append_nil] at whole
      rw [whole]
      simp [pathAndQuery, path]
    | cons sign query =>
      rw [behind] at whole stops
      have same : sign = '?' := by simpa using stops
      rw [same] at whole
      simp [pathAndQuery, ← whole]
  next => cases read

def Target.asterisk : Target := ⟨none, "*", none⟩

/-- Every target but the asterisk is read from a path and a query. -/
theorem Target.cases_of_parse? {text : String} {target : Target} (read : parse? text = some target) :
    target = .asterisk ∨ ∃ authority rest,
      (∀ first others, rest = first :: others → first = '/' ∨ first = '?' ∨ first = '#') ∧
        readPath? authority rest = some target := by
  unfold parse? at read
  split at read
  next =>
    cases read
    exact .inl rfl
  next => exact .inr ⟨_, _, fun _ _ same => .inl (List.cons.inj same).1.symm, read⟩
  next =>
    split at read
    next behind _ =>
      simp only [] at read
      split at read
      next =>
        refine .inr ⟨_, _, fun first rest same => ?_, read⟩
        have stops := List.head?_dropWhile_not
          (fun char : Char => char ≠ '/' && char ≠ '?' && char ≠ '#') behind
        rw [same] at stops
        simpa only [List.head?_cons, Bool.and_eq_false_iff, decide_eq_false_iff_not,
          Decidable.not_not, ne_eq, or_assoc] using stops
      next => cases read
    next => cases read

theorem Target.hasPath_of_parse? {text : String} {target : Target}
    (read : parse? text = some target) : target = .asterisk ∨ target.HasPath := by
  rcases cases_of_parse? read with asterisk | ⟨authority, rest, starts, found⟩
  · exact .inl asterisk
  · exact .inr (hasPath_of_readPath? starts found)

theorem Target.chars_of_readPath? {authority : Option String} {text : List Char} {target : Target}
    (read : readPath? authority text = some target) :
    (∀ char ∈ target.rawPath.toList, isPathChar char = true) ∧
      ∀ query, target.query = some query → ∀ char ∈ query.toList, isQueryChar char = true := by
  simp only [readPath?] at read
  split at read
  next fits =>
    cases read
    obtain ⟨paths, queries⟩ := fits
    refine ⟨fun char inside => ?_, fun query same char inside => ?_⟩
    · rw [String.toList_ofList] at inside
      exact List.all_eq_true.mp paths char inside
    · split at same
      next => cases same
      next =>
        cases same
        rw [String.toList_ofList] at inside
        exact List.all_eq_true.mp queries char inside
  next => cases read

theorem Target.readPath?_of_plain (authority : Option String) {path : List Char}
    {query : Option (List Char)} (paths : ∀ char ∈ path, isPathChar char = true)
    (queries : ∀ text, query = some text → ∀ char ∈ text, isQueryChar char = true) :
    readPath? authority (path ++ Url.tail '?' query) =
      some ⟨authority, String.ofList path, query.map String.ofList⟩ := by
  have inner : ∀ char ∈ path, decide (char = '?') = false := by
    intro char inside
    refine decide_eq_false ?_
    rintro rfl
    exact absurd (paths '?' inside) (by decide)
  have noFragment : ∀ char ∈ path ++ Url.tail '?' query, decide (char ≠ '#') = true := by
    intro char inside
    rw [decide_eq_true_eq]
    rintro rfl
    rcases List.mem_append.mp inside with before | behind
    · exact absurd (paths '#' before) (by decide)
    · cases query with
      | none => cases behind
      | some text =>
        rcases List.mem_cons.mp behind with sign | after
        · exact absurd sign (by decide)
        · exact absurd (queries text rfl '#' after) (by decide)
  have starts : ∀ first rest, Url.tail '?' query = first :: rest → decide (first = '?') = true := by
    intro first rest same
    cases query with
    | none => cases same
    | some text =>
      cases same
      rfl
  have whole : (path ++ Url.tail '?' query).takeWhile (· ≠ '#') = path ++ Url.tail '?' query := by
    rw [List.takeWhile_eq_self_iff]
    exact noFragment
  have front := takeWhile_until inner starts
  have behind := dropWhile_until inner starts
  simp only [← decide_not] at front behind
  rw [readPath?]
  simp only [whole, ne_eq, front, behind]
  cases query with
  | none =>
    rw [if_pos ⟨List.all_eq_true.mpr paths, rfl⟩]
    rfl
  | some text =>
    rw [if_pos ⟨List.all_eq_true.mpr paths, List.all_eq_true.mpr (queries text rfl)⟩]
    rfl

theorem Target.plain_of_readPath? {authority : Option String} {text : List Char} {target : Target}
    (read : readPath? authority text = some target) :
    ∀ char ∈ target.pathAndQuery.toList, isEdge char = false ∧ char ≠ '#' := by
  obtain ⟨paths, queries⟩ := chars_of_readPath? read
  have path {char : Char} (fits : isPathChar char = true) : isEdge char = false ∧ char ≠ '#' := by
    refine ⟨?_, by rintro rfl; exact absurd fits (by decide)⟩
    simp only [isPathChar, Bool.or_eq_true, Bool.and_eq_true, decide_eq_true_eq] at fits
    exact decide_eq_false (by omega)
  have query {char : Char} (fits : isQueryChar char = true) : isEdge char = false ∧ char ≠ '#' := by
    refine ⟨?_, by rintro rfl; exact absurd fits (by decide)⟩
    simp only [isQueryChar, Bool.or_eq_true, Bool.and_eq_true, decide_eq_true_eq] at fits
    exact decide_eq_false (by omega)
  intro char inside
  unfold pathAndQuery at inside
  split at inside
  next written same =>
    simp only [String.toList_append, List.mem_append] at inside
    rcases inside with (before | sign) | after
    · exact path (paths char before)
    · have mark : ∀ char ∈ "?".toList, isEdge char = false ∧ char ≠ '#' :=
        List.all_iff_forall_prop.mp (by decide)
      exact mark char sign
    · exact query (queries written same char after)
  next =>
    unfold Target.path at inside
    split at inside
    next =>
      have slash : ∀ char ∈ "/".toList, isEdge char = false ∧ char ≠ '#' :=
        List.all_iff_forall_prop.mp (by decide)
      exact slash char inside
    next => exact path (paths char inside)

theorem follows_dropRightWhile {text tail : List Char} (drop : Char → Bool)
    (here : Follows text) (behind : Follows tail) : Follows (dropRightWhile drop text ++ tail) := by
  intro first rest same
  rcases List.append_eq_cons_iff.mp same with ⟨_, starts⟩ | ⟨others, starts, _⟩
  · exact behind first rest starts
  · obtain ⟨last, whole⟩ := dropRightWhile_front drop text
    rw [starts] at whole
    exact here first (others ++ last) whole.symm

theorem follows_path {kind : List Char} {url : Url} (rooted : Rooted kind url) :
    Follows url.path.text := by
  obtain ⟨parts, segments⟩ := rooted.path
  rw [segments]
  intro first rest same
  cases parts with
  | nil => cases same
  | cons part others =>
    cases same
    rfl

theorem parse_of_requestUrl {text : String} {url : Url} (made : requestUrl text = .ok url) :
    Url.parse text.toList = .ok url := by
  unfold requestUrl at made
  split at made
  next => cases made
  next parsed =>
    split at made
    next =>
      cases made
      exact parsed
    next => cases made

namespace Route

/-- The path that is set for a backend, without the slashes at its end. -/
def pathPrefix (route : Route) : List Char := dropRightWhile (· = '/') route.backend.path.text

theorem toList_targetUrl (route : Route) (pathAndQuery : String) :
    (route.targetUrl pathAndQuery).toList = route.backend.scheme ++ ':' :: '/' :: '/' ::
      (route.backend.place ++ (route.pathPrefix ++ pathAndQuery.toList)) := by
  rw [targetUrl, String.toList_ofList, origin]
  simp only [place, pathPrefix, List.append_assoc, List.cons_append]

variable {setting : String} {route : Route}

theorem follows_pathPrefix (read : readBackend setting = .ok route.backend) {tail : List Char}
    (follows : Follows tail) : Follows (route.pathPrefix ++ tail) :=
  follows_dropRightWhile (· = '/') (follows_path (readBackend_spec read).2.1) follows

/-- Behind a path anything goes on with the path. -/
theorem follows_of_pathPrefix (read : readBackend setting = .ok route.backend)
    (some : route.pathPrefix ≠ []) (tail : List Char) : Follows (route.pathPrefix ++ tail) := by
  have alone := follows_pathPrefix read follows_nil
  rw [List.append_nil] at alone
  obtain ⟨first, rest, starts⟩ := List.exists_cons_of_ne_nil some
  intro head others same
  rw [starts, List.cons_append] at same
  cases same
  exact alone first rest starts

/-- The place of a request is read as the server of the backend with the path and query
behind it. -/
theorem parse_targetUrl (read : readBackend setting = .ok route.backend) {pathAndQuery : String}
    (follows : Follows (route.pathPrefix ++ pathAndQuery.toList)) :
    Url.parse (route.targetUrl pathAndQuery).toList =
      (readServer route.backend.scheme route.backend.place).map
        (behind route.backend.scheme (cleanEnd (route.pathPrefix ++ pathAndQuery.toList))) := by
  obtain ⟨web, rooted, named⟩ := readBackend_spec read
  rw [toList_targetUrl, parse_place web (plain_place web rooted) (place_ne_nil named) follows]

theorem exists_behind (read : readBackend setting = .ok route.backend) {pathAndQuery : String}
    (follows : Follows (route.pathPrefix ++ pathAndQuery.toList)) {url : Url}
    (made : Url.parse (route.targetUrl pathAndQuery).toList = .ok url) :
    ∃ server, url =
      behind route.backend.scheme (cleanEnd (route.pathPrefix ++ pathAndQuery.toList)) server := by
  rw [parse_targetUrl read follows] at made
  cases served : readServer route.backend.scheme route.backend.place with
  | error fault =>
    rw [served] at made
    cases made
  | ok server =>
    rw [served] at made
    cases made
    exact ⟨server, rfl⟩

end Route

end LoginGateway
