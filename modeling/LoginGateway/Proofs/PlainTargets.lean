import LoginGateway.Proofs.RelayedFields
import LoginGateway.Proofs.UrlParts

/-! Targets that a backend hears of as they were asked for. A path of plain characters is
read segment by segment, and a segment that is no dot and no two dots is kept as it is
written, whether it is empty or has escapes. So all that changes on the way is what stands
in front of the path. -/

namespace LoginGateway

open Url Percent

namespace Target

def isPlainPathChar (char : Char) : Bool :=
  char.isAlphanum || "-._~!$&'()*+,;=:@%/".toList.contains char

/-- Characters that stand for themselves in a query. -/
def isPlainQueryChar (char : Char) : Bool :=
  (isPlainPathChar char && char ≠ '\x27') || char = '?'

def dots : List (List Char) := [".", "%2e", "%2E"].map String.toList

/-- The spellings of the segments that mean this place and the place above. -/
def dotSegments : List (List Char) := dots ++ dots.flatMap fun first => dots.map (first ++ ·)

def written (path : List Char) (query : Option (List Char)) : String :=
  String.ofList (path ++ Url.tail '?' query)

/-- A path and query that nothing has to be changed in. -/
structure IsPlain (path : List Char) (query : Option (List Char)) : Prop where
  begins : path.head? = some '/'
  paths : ∀ char ∈ path, isPlainPathChar char = true
  queries : ∀ text, query = some text → ∀ char ∈ text, isPlainQueryChar char = true
  noDots : ∀ segment ∈ pieces '/' path, segment ∉ dotSegments

section Characters

variable {char : Char}

theorem ascii_of_path (plain : isPlainPathChar char = true) : char.toNat < 0x80 := by
  have symbols : ∀ symbol ∈ "-._~!$&'()*+,;=:@%/".toList, symbol.toNat < 0x80 :=
    List.all_iff_forall_prop.mp (by decide)
  rw [isPlainPathChar, Bool.or_eq_true] at plain
  rcases plain with alphanumeric | symbol
  · exact ascii_of_isAlphanum alphanumeric
  · exact symbols char (List.contains_iff_mem.mp symbol)

theorem ascii_of_query (plain : isPlainQueryChar char = true) : char.toNat < 0x80 := by
  rw [isPlainQueryChar, Bool.or_eq_true, Bool.and_eq_true] at plain
  rcases plain with ⟨path, _⟩ | mark
  · exact ascii_of_path path
  · rw [of_decide_eq_true mark]
    decide

theorem path_spec (plain : isPlainPathChar char = true) : isPathChar char = true ∧
    (char.toNat < 0x80 ∧ pathSet (UInt8.ofNat char.toNat) = false) ∧ char ≠ '\\' :=
  of_ascii (ascii_of_path plain) (by decide +kernel) plain

theorem query_spec (plain : isPlainQueryChar char = true) : isQueryChar char = true ∧
    char.toNat < 0x80 ∧ querySet true (UInt8.ofNat char.toNat) = false :=
  of_ascii (ascii_of_query plain) (by decide +kernel) plain

end Characters

section Dots

variable {segment : List Char}

theorem cases_of_lower_e {char : Char} (lower : char.toLower = 'e') : char = 'e' ∨ char = 'E' := by
  by_cases ascii : char.toNat < 0x80
  · exact of_ascii ascii (by decide) lower
  · rw [toLower_of_high (Nat.le_of_not_lt ascii)] at lower
    exact .inl lower

/-- What is read as one dot is one of its spellings. -/
theorem mem_dots (lower : segment.map Char.toLower ∈ [".", "%2e"].map String.toList) :
    segment ∈ dots := by
  rcases List.mem_cons.mp lower with dot | escape
  · obtain ⟨char, rest, rfl, here, nothing⟩ := List.map_eq_cons_iff.mp dot
    rw [(toLower_eq_iff (by decide) char).mp here, List.map_eq_nil_iff.mp nothing]
    decide
  · obtain ⟨sign, rest, rfl, first, later⟩ := List.map_eq_cons_iff.mp (List.mem_singleton.mp escape)
    obtain ⟨digit, rest, rfl, second, later⟩ := List.map_eq_cons_iff.mp later
    obtain ⟨letter, rest, rfl, third, nothing⟩ := List.map_eq_cons_iff.mp later
    rw [(toLower_eq_iff (by decide) sign).mp first, (toLower_eq_iff (by decide) digit).mp second,
      List.map_eq_nil_iff.mp nothing]
    rcases cases_of_lower_e third with rfl | rfl <;> decide

theorem not_single (plain : segment ∉ dotSegments) : isSingle segment = false := by
  rw [← Bool.not_eq_true, isSingle, List.any_eq_true]
  rintro ⟨spelling, among, same⟩
  rw [decide_eq_true_eq] at same
  refine plain (List.mem_append_left _ (mem_dots ?_))
  rw [← same]
  exact List.mem_map_of_mem among

theorem not_double (plain : segment ∉ dotSegments) : isDouble segment = false := by
  have halves : ∀ spelling ∈ ["..", ".%2e", "%2e.", "%2e%2e"],
      ∃ first ∈ [".", "%2e"].map String.toList, ∃ second ∈ [".", "%2e"].map String.toList,
        spelling.toList = first ++ second := by
    decide
  rw [← Bool.not_eq_true, isDouble, List.any_eq_true]
  rintro ⟨spelling, among, same⟩
  rw [decide_eq_true_eq] at same
  obtain ⟨first, one, second, two, halved⟩ := halves spelling among
  obtain ⟨front, back, rfl, before, behind⟩ := List.map_eq_append_iff.mp (same.symm.trans halved)
  refine plain (List.mem_append_right _ (List.mem_flatMap.mpr ⟨front, mem_dots ?_, ?_⟩))
  · rwa [before]
  · exact List.mem_map_of_mem (mem_dots (by rwa [behind]))

end Dots

namespace IsPlain

variable {path : List Char} {query : Option (List Char)}

theorem exists_segments (plain : IsPlain path query) : ∃ first parts,
    path = (first :: parts).flatMap ('/' :: ·) ∧
      ∀ segment ∈ first :: parts, IsSegment true segment := by
  obtain ⟨rest, rfl⟩ := List.head?_eq_some_iff.mp plain.begins
  -- The piece in front of the first slash is no segment.
  have whole : pieces '/' ('/' :: rest) = [] :: pieces '/' rest := by rw [pieces, if_pos rfl]
  have some : pieces '/' rest ≠ [] := pieces_ne_nil rest
  obtain ⟨first, parts, cut⟩ := List.exists_cons_of_ne_nil some
  refine ⟨first, parts, ?_, fun segment among => ?_⟩
  · rw [← cut, flatMap_pieces]
  · rw [← cut] at among
    obtain ⟨noSlash, inside⟩ := mem_pieces among
    have kept : segment ∉ dotSegments :=
      plain.noDots segment (by rw [whole]; exact List.mem_cons_of_mem [] among)
    have spec (char : Char) (here : char ∈ segment) :=
      path_spec (plain.paths char (List.mem_cons_of_mem '/' (inside char here)))
    exact {
      plain := fun char here => (spec char here).2.1
      noSlash := fun char here => by
        have slash : char ≠ '/' := fun same => noSlash (same ▸ here)
        rw [isSlash, decide_eq_false slash, decide_eq_false (spec char here).2.2]
        rfl
      notDouble := not_double kept
      notSingle := not_single kept }

theorem encoded (plain : IsPlain path query) :
    ∀ text, query = some text → IsEncoded (querySet true) text :=
  fun text asked char inside => (query_spec (plain.queries text asked char inside)).2

theorem head?_written (plain : IsPlain path query) :
    (written path query).toList.head? = some '/' := by
  rw [written, String.toList_ofList, List.head?_append, plain.begins]
  rfl

/-- A plain path and query arrive as they are written. -/
theorem parse?_written (plain : IsPlain path query) :
    ∃ target, parse? (written path query) = some target ∧
      target.pathAndQuery = written path query := by
  refine ⟨⟨none, String.ofList path, query.map String.ofList⟩, ?_, ?_⟩
  · have read := readPath?_of_plain none (fun char inside => (path_spec (plain.paths char inside)).1)
      fun text asked char inside => (query_spec (plain.queries text asked char inside)).1
    obtain ⟨rest, rfl⟩ := List.head?_eq_some_iff.mp plain.begins
    rw [parse?, written, String.toList_ofList]
    exact read
  · obtain ⟨rest, rfl⟩ := List.head?_eq_some_iff.mp plain.begins
    rw [pathAndQuery, ← String.toList_inj, written, String.toList_ofList]
    cases query with
    | none => simp [Target.path, Url.tail]
    | some text => simp [Url.tail]

end IsPlain

end Target

namespace Url

variable {parts : List (List Char)} {query : Option (List Char)}

theorem pathAndQuery_of_segments (some : parts ≠ [])
    (segments : ∀ segment ∈ parts, IsSegment true segment)
    (encoded : ∀ text, query = .some text → IsEncoded (querySet true) text)
    (scheme : List Char) (server : Host × Option Nat) :
    (behind scheme (parts.flatMap ('/' :: ·) ++ tail '?' query) server).pathAndQuery =
      parts.flatMap ('/' :: ·) ++ tail '?' query := by
  have parsed : cut (parts.flatMap ('/' :: ·) ++ tail '?' query) =
      ⟨parts.flatMap ('/' :: ·), query, none⟩ :=
    cut_tail (fun char inside => (inner_path segments char inside).2)
      fun text asked inside => (inner_of_query (encoded text asked) '#' inside).2 rfl
  have path : readPath true (parts.flatMap ('/' :: ·)) = .segments parts := by
    obtain ⟨first, others, rfl⟩ := List.exists_cons_of_ne_nil some
    exact readPath_written segments
  simp only [behind, pathAndQuery, parsed, path, readQuery_encoded encoded, UrlPath.text]

end Url

namespace Route
open Target

variable {setting : String} {route : Route} {path : List Char} {query : Option (List Char)} {url : Url}

/-- Behind the path that is set for a backend, a plain path and query are read as they are. -/
theorem pathAndQuery_of_plain (read : readBackend setting = .ok route.backend)
    (plain : IsPlain path query)
    (made : Url.parse (route.targetUrl (written path query)).toList = .ok url) :
    url.pathAndQuery = route.pathPrefix ++ (path ++ Url.tail '?' query) := by
  obtain ⟨before, known, front⟩ := exists_segments read
  obtain ⟨first, parts, same, segments⟩ := plain.exists_segments
  have all : ∀ segment ∈ before ++ first :: parts, IsSegment true segment :=
    List.forall_mem_append.mpr ⟨known, segments⟩
  have whole : route.pathPrefix ++ (path ++ Url.tail '?' query) =
      (before ++ first :: parts).flatMap ('/' :: ·) ++ Url.tail '?' query := by
    rw [List.flatMap_append, ← front, ← same, List.append_assoc]
  have inner : ∀ char ∈ route.pathPrefix ++ (path ++ Url.tail '?' query), isEdge char = false := by
    rw [whole]
    exact List.forall_mem_append.mpr
      ⟨fun char inside => (inner_path all char inside).1, inner_tail plain.encoded⟩
  have follows : Follows (written path query).toList := follows_of_head (.inl plain.head?_written)
  obtain ⟨server, rfl⟩ := exists_behind read (follows_pathPrefix read follows) made
  rw [written, String.toList_ofList, cleanEnd_inner inner, whole]
  exact pathAndQuery_of_segments (by simp) all plain.encoded _ server

end Route

open Domain Target in
/-- A plain path and query arrive as they are asked for, and whoever asks, the backend hears
of them as they are, behind its own path without the slashes at its end. Only a backend
whose name is too long to be read again hears of nothing. -/
theorem plain_targets {setting : String} {route : Route}
    (read : readBackend setting = .ok route.backend) {path : List Char}
    {query : Option (List Char)} (plain : IsPlain path query) :
    (∃ target, parse? (written path query) = some target ∧
      target.pathAndQuery = written path query) ∧
    ∀ outside identity request cache, request.target.pathAndQuery = written path query →
      let calls := (Relay.forward outside route identity request cache).calls
      (HasReadableLabels (route.backend.hostText?.getD []) →
        ∃ sent, calls = [.backend sent] ∧ sent.url.SamePlace route.backend ∧
          sent.url.pathAndQuery = route.pathPrefix ++ (path ++ Url.tail '?' query)) ∧
      (¬ HasReadableLabels (route.backend.hostText?.getD []) → calls = []) := by
  refine ⟨plain.parse?_written, fun outside identity request cache asked => ?_⟩
  have follows := Route.follows_pathPrefix read (follows_of_head (.inl plain.head?_written))
  obtain ⟨readable, unreadable⟩ := Route.parse_targetUrl_cases read follows
  rw [Relay.calls_forward, asked, requestUrl]
  refine ⟨fun known => ?_, fun unknown => ?_⟩
  · obtain ⟨host, _, parsed⟩ := readable known
    have web : route.backend.scheme = "http".toList ∨ route.backend.scheme = "https".toList :=
      (readBackend_spec read).1
    simp only [parsed, behind, web, if_true]
    exact ⟨_, rfl, Route.samePlace_of_targetUrl read follows parsed,
      Route.pathAndQuery_of_plain read plain parsed⟩
  · simp only [unreadable unknown]

namespace OneRoute
open Domain Target

def slashesBackend : Url :=
  { backend with path := .segments (["a", "", "b", "", "", ""].map String.toList) }

/-- Slashes that stand together, three dots, an escape that is none, an escaped slash and a
query without a text are all kept. -/
theorem plain_targets_of_slashes :
    readBackend "http://backend:8080/a//b///" = .ok slashesBackend ∧
      IsPlain "//x/.../.%2/%2Fy/".toList (some []) ∧
      HasReadableLabels (slashesBackend.hostText?.getD []) ∧
      ∃ target sent, parse? "//x/.../.%2/%2Fy/?" = some target ∧
        (Relay.forward outside ⟨"app.org.com", slashesBackend⟩ alice { visit with target }
          (.empty 0)).calls = [.backend sent] ∧
        sent.url.SamePlace slashesBackend ∧
        sent.url.pathAndQuery = "/a//b//x/.../.%2/%2Fy/?".toList := by
  have read : readBackend "http://backend:8080/a//b///" = .ok slashesBackend := by
    decide +kernel
  have plain : IsPlain "//x/.../.%2/%2Fy/".toList (some []) :=
    { begins := by decide
      paths := List.all_iff_forall_prop.mp (by decide)
      queries := by
        rintro text ⟨⟩
        exact nofun
      noDots := by decide }
  have readable : HasReadableLabels (slashesBackend.hostText?.getD []) := by decide
  obtain ⟨⟨target, arrives, whole⟩, others⟩ :=
    @plain_targets _ ⟨"app.org.com", slashesBackend⟩ read _ _ plain
  obtain ⟨sent, calls, place, asked⟩ :=
    (others outside alice { visit with target } (.empty 0) whole).1 readable
  exact ⟨read, plain, readable, target, sent, arrives, calls, place, asked.trans (by decide)⟩

end OneRoute

end LoginGateway
