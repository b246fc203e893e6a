import LoginGateway.Proofs.BackendAccess
import LoginGateway.Proofs.RouteHosts
import LoginGateway.Proofs.UrlPaths

/-! Where on its server a backend hears of a request. The path of the request is written
behind the path that is set for the backend, and the whole is read again. Segments that
lead to the place above are worked off then, so a request stays below the path that is
set if its own path never leads above its beginning. -/

namespace LoginGateway

open Url

/-- A path that is `front` or goes on from it behind a slash. -/
def IsBelow (front path : List Char) : Prop := path = front ∨ front ++ ['/'] <+: path

instance (front path : List Char) : Decidable (IsBelow front path) := instDecidableOr

/-- A target with a path that never leads above its own beginning. -/
structure Target.StaysWithin (target : Target) : Prop where
  read : ∃ text, Target.parse? text = some target
  hasPath : target.rawPath ≠ "*"
  within : Url.staysWithin 0 (cutSegments true (target.rawPath.toList.drop 1)) = true

theorem cut_behind {front : List Char} (plain : ∀ char ∈ front, char ≠ '#' ∧ char ≠ '?')
    (tail : List Char) : (cut (front ++ tail)).path = front ++ (cut tail).path := by
  have noFragment : '#' ∉ front := fun inside => (plain '#' inside).1 rfl
  have noQuery : '?' ∉ front := fun inside => (plain '?' inside).2 rfl
  rw [cut, cutFirst_behind noFragment]
  simp only [cutFirst_behind noQuery]
  rfl

theorem text_readPath (text : List Char) : ∃ rest, (readPath true text).text = '/' :: rest := by
  obtain ⟨first, parts, same, _⟩ := readPath_spec text
  exact ⟨first ++ parts.flatMap ('/' :: ·), by rw [same]; rfl⟩

namespace Target

variable {target : Target}

theorem path_of_cut (read : ∃ text, parse? text = some target) (hasPath : target.rawPath ≠ "*") :
    (cut target.pathAndQuery.toList).path = [] ∨
      (cut target.pathAndQuery.toList).path = '/' :: target.rawPath.toList.drop 1 := by
  obtain ⟨text, read⟩ := read
  rcases cases_of_parse? read with rfl | ⟨authority, chars, starts, found⟩
  · exact absurd rfl hasPath
  · have begins := hasPath_of_readPath? starts found
    obtain ⟨paths, queries⟩ := chars_of_readPath? found
    have plain : ∀ char ∈ target.rawPath.toList, char ≠ '#' ∧ char ≠ '?' := by
      intro char inside
      refine ⟨?_, ?_⟩ <;> rintro rfl
      · exact absurd (paths '#' inside) (by decide)
      · exact absurd (paths '?' inside) (by decide)
    have raw : target.rawPath.toList = [] ∨
        target.rawPath.toList = '/' :: target.rawPath.toList.drop 1 := by
      cases same : target.rawPath.toList with
      | nil => exact .inl rfl
      | cons first rest =>
        rw [begins first rest same]
        exact .inr rfl
    cases asked : target.query with
    | some query =>
      have whole : ∀ text, some query.toList = some text → '#' ∉ text := by
        rintro text ⟨⟩ inside
        exact absurd (queries query asked '#' inside) (by decide)
      have parts : (cut target.pathAndQuery.toList).path = target.rawPath.toList := by
        rw [pathAndQuery, asked]
        simp only [String.toList_append, List.append_assoc]
        exact congrArg Cut.path (cut_tail plain whole)
      rw [parts]
      exact raw
    | none =>
      have alone := cut_behind plain []
      rw [List.append_nil] at alone
      have same : target.pathAndQuery = target.path := by rw [pathAndQuery, asked]
      rw [same, path]
      split
      next empty =>
        rw [empty]
        exact .inr rfl
      next =>
        rw [alone]
        simpa [cut, cutFirst] using raw

end Target

namespace Route

variable {setting : String} {route : Route} {target : Target} {url : Url}

theorem exists_segments (read : readBackend setting = .ok route.backend) :
    ∃ parts : List (List Char), (∀ segment ∈ parts, IsSegment true segment) ∧
      route.pathPrefix = parts.flatMap ('/' :: ·) := by
  obtain ⟨web, rooted, _⟩ := readBackend_spec read
  obtain ⟨text, same⟩ := rooted.pathRead
  rw [(isSpecial_web web).1] at same
  obtain ⟨first, rest, segments, written⟩ := readPath_spec text
  refine ⟨dropRightWhile (· = []) (first :: rest), ?_, ?_⟩
  · exact fun segment inside => written segment ((dropRightWhile_front _ _).subset inside)
  · rw [pathPrefix, same, segments]
    exact dropRightWhile_path fun segment inside => (written segment inside).noSlash

theorem inner_pathPrefix (read : readBackend setting = .ok route.backend) :
    ∀ char ∈ route.pathPrefix, isEdge char = false ∧ char ≠ '#' ∧ char ≠ '?' := by
  obtain ⟨parts, written, front⟩ := exists_segments read
  rw [front]
  exact inner_path written

/-- A request that never leads above its own beginning comes out below the path that is
set for its backend. -/
theorem isBelow_of_targetUrl (read : readBackend setting = .ok route.backend)
    (stays : target.StaysWithin)
    (made : Url.parse (route.targetUrl target.pathAndQuery).toList = .ok url) :
    IsBelow route.pathPrefix url.path.text := by
  obtain ⟨text, asked⟩ := stays.read
  rcases Target.cases_of_parse? asked with rfl | ⟨authority, chars, starts, found⟩
  · exact absurd rfl stays.hasPath
  · have follows := Target.follows_pathAndQuery (Target.hasPath_of_readPath? starts found)
    obtain ⟨parts, written, front⟩ := exists_segments read
    have plain := inner_pathPrefix read
    have inner : ∀ char ∈ route.pathPrefix ++ target.pathAndQuery.toList, isEdge char = false :=
      List.forall_mem_append.mpr ⟨fun char inside => (plain char inside).1,
        fun char inside => (Target.plain_of_readPath? found char inside).1⟩
    obtain ⟨server, rfl⟩ := exists_behind read (follows_pathPrefix read follows) made
    simp only [cleanEnd_inner inner, behind, cut_behind fun char inside => (plain char inside).2]
    rw [front]
    cases parts with
    | nil =>
      obtain ⟨rest, same⟩ := text_readPath (cut target.pathAndQuery.toList).path
      exact .inr ⟨rest, by rw [List.flatMap_nil, List.nil_append, List.nil_append, same]; rfl⟩
    | cons first parts =>
      rcases Target.path_of_cut stays.read stays.hasPath with empty | path
      · rw [empty, List.append_nil, readPath_written written]
        exact .inl rfl
      · obtain ⟨rest, same⟩ := text_readPath ('/' :: target.rawPath.toList.drop 1)
        rw [path, readPath_behind written (by decide) stays.within, same]
        exact .inr ⟨rest, by simp⟩

end Route

/-- Calls of which those to a backend go below the path that is set for it. -/
def KeepsPrefix (gateway : Gateway) (request : Request) (calls : List Call) : Prop :=
  ∀ sent, .backend sent ∈ calls →
    ∃ route, gateway.routes.find? (Gateway.requestHost request) = some route ∧
      IsBelow route.pathPrefix sent.url.path.text

theorem keepsPrefix_of_guarded {settings : Settings} {gateway : Gateway} {request : Request}
    {calls : List Call} (guarded : Guarded settings gateway request calls)
    (stays : request.target.StaysWithin) : KeepsPrefix gateway request calls := by
  intro sent inside
  obtain ⟨_, setting, _, route, identity, sets, admitted, sends⟩ := guarded sent inside
  exact ⟨route, admitted.host,
    Route.isBelow_of_targetUrl sets.backend stays (parse_of_requestUrl sends.url)⟩

open Interleaving in
/-- Whatever requests came before or are served at the same time, a backend hears of a
request whose path never leads above its own beginning only below the path that is set
for that backend. -/
theorem backend_paths {settings : Settings} {key : SigningKey} {provider : Provider}
    {gateway : Gateway} (configured : Gateway.ofSettings settings key provider = .ok gateway)
    {capacity : Nat} {state : State} (reached : Reachable gateway capacity state) :
    (∀ serving ∈ state.servings, serving.request.target.StaysWithin →
        KeepsPrefix gateway serving.request serving.calls) ∧
      ∀ outside request, request.target.StaysWithin →
        KeepsPrefix gateway request (gateway.serve outside state.cache request).2.2 := by
  obtain ⟨sound, servings⟩ := reached.sound
  constructor
  · intro serving inside stays
    have empty := Cache.sound_empty gateway.key capacity
    have alone := guarded_handle configured empty serving.outside serving.request
    exact keepsPrefix_of_guarded (alone.first ((servings serving inside).alone capacity).1) stays
  · intro outside request stays
    exact keepsPrefix_of_guarded (guarded_handle configured sound outside request) stays

namespace OneRoute
open Gateway Interleaving

def appBackend : Url := { backend with path := .segments ["app".toList, []] }

def appGateway : Gateway :=
  { gateway with routes := ⟨[⟨"app.org.com", appBackend⟩], .cons nofun .nil⟩ }

theorem configured_app : Gateway.ofSettings
    { settings with routes := [⟨"app.org.com", "backend:8080/app/"⟩] } ⟨[]⟩ provider =
      .ok appGateway :=
  configured_with (by decide) (by decide) (by decide +kernel)

def visitOf (path : String) : Request := { visit with target := ⟨none, path, none⟩ }

theorem admits_visitOf {path : String} (notLogout : path ≠ logoutPath)
    (notAuth : isAuthPath path = false) (filled : path ≠ "") :
    appGateway.Admits (visitOf path) ⟨"app.org.com", appBackend⟩ alice := by
  have same : (visitOf path).target.path = path := if_neg filled
  refine ⟨?_, by rw [same]; exact notLogout, by rw [same]; exact notAuth, token, token_visit, ?_⟩
  · change appGateway.routes.find? (requestHost visit) = _
    decide
  · have accepted := Token.decode_of_encode alice gateway.key
    rw [encode_alice] at accepted
    exact accepted

def sentTo (parts : List (List Char)) : Outgoing := { sent with
  url := { appBackend with path := .segments parts } }

theorem calls_visitOf {path : String} {parts : List (List Char)} (notLogout : path ≠ logoutPath)
    (notAuth : isAuthPath path = false) (filled : path ≠ "")
    (read : requestUrl (Route.targetUrl ⟨"app.org.com", appBackend⟩ path) =
      .ok { appBackend with path := .segments parts }) :
    (appGateway.serve outside (.empty 0) (visitOf path)).2.2 = [.backend (sentTo parts)] := by
  have whole : (visitOf path).target.pathAndQuery = path := if_neg filled
  have made : Relay.outgoing ⟨"app.org.com", appBackend⟩ alice (visitOf path) =
      .ok (sentTo parts) := by
    rw [Relay.outgoing, whole, read]
    rfl
  rw [serve_calls]
  exact handle_of_admits (Cache.sound_empty _ 0) (admits_visitOf notLogout notAuth filled) made

theorem backend_paths_of_visit :
    Gateway.ofSettings { settings with routes := [⟨"app.org.com", "backend:8080/app/"⟩] } ⟨[]⟩
        provider = .ok appGateway ∧
      (visitOf "/a/b/%2E./..\\c").target.StaysWithin ∧
      (appGateway.serve outside (.empty 0) (visitOf "/a/b/%2E./..\\c")).2.2 =
        [.backend (sentTo ["app".toList, "c".toList])] ∧
      KeepsPrefix appGateway (visitOf "/a/b/%2E./..\\c")
        [.backend (sentTo ["app".toList, "c".toList])] := by
  have stays : (visitOf "/a/b/%2E./..\\c").target.StaysWithin :=
    ⟨⟨"/a/b/%2E./..\\c", by decide⟩, by decide, by decide⟩
  have calls : (appGateway.serve outside (.empty 0) (visitOf "/a/b/%2E./..\\c")).2.2 =
      [.backend (sentTo ["app".toList, "c".toList])] :=
    calls_visitOf (by decide) (by decide) (by decide) (by decide +kernel)
  have start : Reachable appGateway 0 (State.initial 0) := .refl
  have kept := (backend_paths configured_app start).2 outside _ stays
  have empty : (State.initial 0).cache = .empty 0 := rfl
  rw [empty, calls] at kept
  exact ⟨configured_app, stays, calls, kept⟩

/-- A path that begins with the place above leaves the path that is set for the backend. -/
theorem leaves_path :
    Gateway.ofSettings { settings with routes := [⟨"app.org.com", "backend:8080/app/"⟩] } ⟨[]⟩
        provider = .ok appGateway ∧
      Target.parse? "/../secret" = some (visitOf "/../secret").target ∧
      (appGateway.serve outside (.empty 0) (visitOf "/../secret")).2.2 =
        [.backend (sentTo ["secret".toList])] ∧
      ¬ KeepsPrefix appGateway (visitOf "/../secret") [.backend (sentTo ["secret".toList])] := by
  have calls : (appGateway.serve outside (.empty 0) (visitOf "/../secret")).2.2 =
      [.backend (sentTo ["secret".toList])] :=
    calls_visitOf (by decide) (by decide) (by decide) (by decide +kernel)
  refine ⟨configured_app, by decide, calls, fun kept => ?_⟩
  obtain ⟨route, found, below⟩ := kept _ List.mem_cons_self
  have host : appGateway.routes.find? (requestHost (visitOf "/../secret")) =
      some ⟨"app.org.com", appBackend⟩ := by
    change appGateway.routes.find? (requestHost visit) = _
    decide
  cases found.symm.trans host
  exact absurd below (by decide)

end OneRoute

end LoginGateway
