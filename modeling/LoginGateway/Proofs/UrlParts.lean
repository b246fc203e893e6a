import LoginGateway.Proofs.BackendServers
import LoginGateway.Proofs.WrittenUrls

/-! The parts of a URL are read again from where they are written. Each part stands between the
signs that end it and holds none of them, and what was escaped once is not escaped again. -/

namespace LoginGateway

open Url Percent Domain

namespace Host

variable {special : Bool} {host : Host} {text : List Char}

/-- Where names have no meaning a host is an address in brackets, or any name without the
signs that end it. -/
theorem cases_of_readHost (read : readHost false text = .ok host) :
    (∃ pieces, host = .ipv6 pieces ∧ Ipv6.IsAddress pieces) ∨
      ∃ name, host = .domain name ∧ IsEncoded isControl name ∧
        ∀ char ∈ name, isForbiddenHostChar char = false := by
  unfold readHost at read
  split at read
  next =>
    unfold readIpv6 at read
    split at read
    next =>
      split at read
      next found =>
        cases read
        exact .inl ⟨_, rfl, Ipv6.isAddress_of_parse? found⟩
      next => cases read
    next => cases read
  next =>
    rw [if_neg (by decide), readName] at read
    split at read
    next => cases read
    next allowed =>
      cases read
      refine .inr ⟨_, rfl, isEncoded_control _, ?_⟩
      intro char inside
      rcases mem_encodeText inside with sign | ⟨old, _⟩
      · have signs : ∀ char ∈ signs, isForbiddenHostChar char = false :=
          List.all_iff_forall_prop.mp (by decide)
        exact signs char sign
      · rw [← Bool.not_eq_true]
        intro forbidden
        exact allowed (List.any_eq_true.mpr ⟨char, old, forbidden⟩)

theorem allowed_spec {name : List Char} (encoded : IsEncoded isControl name)
    (allowed : ∀ char ∈ name, isForbiddenHostChar char = false) :
    ∀ char ∈ name, isPlaceChar char = true ∧ char ≠ ':' ∧ char ≠ '[' := by
  intro char inside
  obtain ⟨ascii, kept⟩ := encoded char inside
  exact of_ascii ascii (by decide) (allowed char inside) kept

theorem isPlaceChar_of_readHost (read : readHost special text = .ok host) :
    ∀ char ∈ host.text, isPlaceChar char = true := by
  intro char inside
  cases special with
  | true => exact isPlaceChar_of_isHostChar (isHostChar_of_readHost read char inside)
  | false =>
    rcases cases_of_readHost read with ⟨pieces, rfl, address⟩ | ⟨name, rfl, encoded, allowed⟩
    · exact isPlaceChar_of_isHostChar (isHostChar_text (.ipv6 address) char inside)
    · exact (allowed_spec encoded allowed char inside).1

theorem cutPort_of_readHost (read : readHost special text = .ok host) (port : Option (List Char)) :
    cutPort false (host.text ++ Url.tail ':' port) = (host.text, port) := by
  cases special with
  | true => exact cutPort_text (isRead_of_readHost read) port
  | false =>
    rcases cases_of_readHost read with ⟨pieces, rfl, address⟩ | ⟨name, rfl, encoded, allowed⟩
    · exact cutPort_text (.ipv6 address) port
    · have whole := cutPort_behind
        (fun char inside => (allowed_spec encoded allowed char inside).2) (Url.tail ':' port)
      rw [cutPort_tail, List.append_nil] at whole
      exact whole

theorem readHost_again (read : readHost special text = .ok host)
    (readable : special = true → HasReadableLabels host.text) :
    readHost special host.text = .ok host := by
  cases special with
  | true => exact (isRead_of_readHost read).readHost_text (readable rfl)
  | false =>
    rcases cases_of_readHost read with ⟨pieces, rfl, address⟩ | ⟨name, rfl, encoded, allowed⟩
    · exact readIpv6_text address
    · have spec := allowed_spec encoded allowed
      change readHost false name = _
      rw [readHost]
      · rw [if_neg (by decide), readName, if_neg, encodeText_of_plain encoded]
        rw [List.any_eq_true]
        rintro ⟨char, inside, forbidden⟩
        rw [allowed char inside] at forbidden
        cases forbidden
      · rintro rest rfl
        exact (spec '[' List.mem_cons_self).2.2 rfl

/-- Whatever is read again from the text of a host is the host. -/
theorem eq_of_readHost_again (read : readHost special text = .ok host) {other : Host}
    (again : readHost special host.text = .ok other) : other = host := by
  cases special with
  | true => exact (isRead_of_readHost read).eq_of_readHost again
  | false => exact Except.ok.inj (again.symm.trans (readHost_again read nofun))

theorem printable_of_readHost (read : readHost special text = .ok host) : Printable host.text := by
  cases special with
  | true => exact fun char inside => printable_of_isHostChar (isHostChar_of_readHost read char inside)
  | false =>
    rcases cases_of_readHost read with ⟨pieces, rfl, address⟩ | ⟨name, rfl, encoded, _⟩
    · exact fun char inside => printable_of_isHostChar (isHostChar_text (.ipv6 address) char inside)
    · exact encoded.printable fun _ control => control

end Host

namespace Url

section Queries

variable {special : Bool} {query : Option (List Char)}

theorem readQuery_encoded (encoded : ∀ text, query = some text → IsEncoded (querySet special) text) :
    readQuery special query = query := by
  cases query with
  | none => rfl
  | some text => exact congrArg some (encodeText_of_plain (encoded text rfl))

theorem inner_tail (encoded : ∀ text, query = some text → IsEncoded (querySet special) text) :
    ∀ char ∈ tail '?' query, isEdge char = false := by
  intro char inside
  cases query with
  | none => cases inside
  | some text =>
    rcases List.mem_cons.mp inside with rfl | later
    · decide
    · exact (inner_of_query (encoded text rfl) char later).1

end Queries

variable {url : Url}

/-- All that is written behind the host, or behind the scheme if there is none. -/
def afterHost (url : Url) : List Char := url.path.text ++ behindPath url.query url.fragment

theorem text_eq (url : Url) : url.text = url.scheme ++ ':' :: (url.authority ++ url.afterHost) := by
  rw [text, afterHost, behindPath]
  simp only [List.append_assoc, List.cons_append]

namespace IsWritten

theorem readTail (written : url.IsWritten) :
    readQuery (isSpecial url.scheme) url.query = url.query ∧
      readFragment url.fragment = url.fragment := by
  refine ⟨readQuery_encoded written.query, ?_⟩
  rw [readFragment]
  cases found : url.fragment with
  | none => rfl
  | some text => rw [Option.map_some, encodeText_of_plain (written.fragment text found)]

theorem noFragment (written : url.IsWritten) : ∀ text, url.query = some text → '#' ∉ text :=
  fun text found inside => (inner_of_query (written.query text found) '#' inside).2 rfl

end IsWritten

section Paths

variable {special : Bool} {parts : List (List Char)}

theorem ends_afterHost (path : url.path = .segments parts) {first : Char} {rest : List Char}
    (begins : url.afterHost = first :: rest) : endsAuthority special first = true := by
  have signs : first = '/' ∨ first = '?' ∨ first = '#' := by
    rw [afterHost, path] at begins
    cases parts with
    | nil => exact .inr (begins_behindPath begins)
    | cons segment parts =>
      cases begins
      exact .inl rfl
  rcases signs with rfl | rfl | rfl <;> simp [endsAuthority, isSlash]

theorem split_afterHost (path : url.path = .segments parts) {front : List Char}
    (inner : ∀ char ∈ front, endsAuthority special char = false) :
    (front ++ url.afterHost).takeWhile (!endsAuthority special ·) = front ∧
      (front ++ url.afterHost).dropWhile (!endsAuthority special ·) = url.afterHost := by
  have follows : ∀ first rest, url.afterHost = first :: rest → endsAuthority special first = true :=
    fun _ _ begins => ends_afterHost path begins
  exact ⟨takeWhile_until inner follows, dropWhile_until inner follows⟩

theorem IsWritten.cut_afterHost (written : url.IsWritten) (path : url.path = .segments parts)
    (segments : ∀ segment ∈ parts, IsSegment special segment) :
    cut url.afterHost = ⟨url.path.text, url.query, url.fragment⟩ := by
  apply cut_written _ written.noFragment
  rw [path]
  exact fun char inside => (inner_path segments char inside).2

end Paths

section Named

variable {place : List Char}

theorem cutLast_credentials (named : url.IsNamed) (plain : '@' ∉ place) :
    ∃ user, cutLast '@' (url.credentials ++ place) = (user, place) ∧ user ≠ some [] ∧
      cutFirst ':' (user.getD []) =
        (url.username, if url.password = [] then none else some url.password) := by
  have absent : '@' ∉ place.reverse := fun inside => plain (List.mem_reverse.mp inside)
  have colon : ':' ∉ url.username := fun inside =>
    (inner_of_user named.username ':' inside).2.2 rfl
  by_cases bare : url.username = [] ∧ url.password = []
  · refine ⟨none, ?_, nofun, ?_⟩
    · rw [credentials, if_pos bare, List.nil_append, cutLast, cutFirst_of_not_mem absent]
    · rw [bare.1, bare.2, if_pos rfl]
      rfl
  · refine ⟨some (url.username ++ if url.password = [] then [] else ':' :: url.password), ?_, ?_, ?_⟩
    · rw [credentials, if_neg bare, List.append_assoc, List.singleton_append, cutLast,
        List.reverse_append, List.reverse_cons, List.append_assoc, List.singleton_append,
        cutFirst_append absent]
      simp only [List.reverse_reverse]
    · intro empty
      obtain ⟨noName, noPassword⟩ := List.append_eq_nil_iff.mp (Option.some.inj empty)
      apply bare
      refine ⟨noName, ?_⟩
      split at noPassword
      next same => exact same
      next => cases noPassword
    · rw [Option.getD_some]
      split
      next =>
        rw [List.append_nil]
        exact cutFirst_of_not_mem colon
      next => exact cutFirst_append colon url.password

theorem inner_credentials (named : url.IsNamed) :
    ∀ char ∈ url.credentials, endsAuthority true char = false := by
  intro char inside
  rw [credentials] at inside
  split at inside
  next => cases inside
  next =>
    rcases List.mem_append.mp inside with user | sign
    · rcases List.mem_append.mp user with name | rest
      · exact (inner_of_user named.username char name).1
      · split at rest
        next => cases rest
        next =>
          rcases List.mem_cons.mp rest with rfl | password
          · decide
          · exact (inner_of_user named.password char password).1
    · rw [List.mem_singleton.mp sign]
      decide

theorem isPlaceChar_written {host : Host} (found : url.host = some host)
    (plain : ∀ char ∈ host.text, isPlaceChar char = true) :
    ∀ char ∈ url.place, isPlaceChar char = true := by
  intro char inside
  rw [Url.place, found] at inside
  rcases List.mem_append.mp inside with named | numbered
  · exact plain char named
  · exact isPlaceChar_of_isHostChar (isHostChar_portText url char numbered)

theorem inner_place (named : url.IsNamed) {host : Host} (found : url.host = some host)
    (plain : ∀ char ∈ host.text, isPlaceChar char = true) :
    ∀ char ∈ url.credentials ++ url.place, endsAuthority true char = false := by
  intro char inside
  rcases List.mem_append.mp inside with user | placed
  · exact inner_credentials named char user
  · exact (isPlaceChar_spec (isPlaceChar_written found plain char placed)).2.1

theorem IsNamed.exists_readHost (named : url.IsNamed) {host : Host}
    (found : url.host = some host) : ∃ text, readHost (isSpecial url.scheme) text = .ok host := by
  obtain ⟨other, here, read⟩ := named.rooted.host
  cases found.symm.trans here
  exact read

theorem IsNamed.exists_segments (named : url.IsNamed) : ∃ parts, url.path = .segments parts ∧
    ∀ segment ∈ parts, IsSegment (isSpecial url.scheme) segment := by
  obtain ⟨text, read⟩ := named.rooted.pathRead
  rw [read]
  exact isSegment_of_readPath (isSpecial url.scheme) text

theorem IsNamed.readPath_text (named : url.IsNamed) :
    readPath (isSpecial url.scheme) url.path.text = url.path := by
  obtain ⟨text, read⟩ := named.rooted.pathRead
  rw [read]
  exact readPath_again _ _

theorem authority_of_host {host : Host} (found : url.host = some host) :
    url.authority = '/' :: '/' :: (url.credentials ++ url.place) := by
  rw [authority, Url.place, found]
  simp only [List.cons_append, List.append_assoc]
  rfl

theorem ends_of_special {special : Bool} {char : Char} (inner : endsAuthority true char = false) :
    endsAuthority special char = false := by
  cases special with
  | true => exact inner
  | false =>
    simp only [endsAuthority, Bool.or_eq_false_iff] at inner ⊢
    exact ⟨⟨not_slash_of_special inner.1.1, inner.1.2⟩, inner.2⟩

/-- The host decides whether a URL is read again from what is written behind its slashes. -/
theorem readAuthority_text (written : url.IsWritten) (named : url.IsNamed) {host : Host}
    (found : url.host = some host)
    (same : ∀ other, readHost (isSpecial url.scheme) host.text = .ok other → other = host) :
    readAuthority url.scheme (url.credentials ++ (url.place ++ url.afterHost)) =
      (readHost (isSpecial url.scheme) host.text).map fun _ => url := by
  obtain ⟨text, read⟩ := named.exists_readHost found
  obtain ⟨parts, path, segments⟩ := named.exists_segments
  have plain := isPlaceChar_written found (Host.isPlaceChar_of_readHost read)
  have inner : ∀ char ∈ url.credentials ++ url.place,
      endsAuthority (isSpecial url.scheme) char = false :=
    fun char inside => ends_of_special
      (inner_place named found (Host.isPlaceChar_of_readHost read) char inside)
  obtain ⟨taken, dropped⟩ := split_afterHost path inner
  rw [List.append_assoc] at taken dropped
  obtain ⟨user, last, guarded, names⟩ := cutLast_credentials named fun inside =>
    (isPlaceChar_spec (plain '@' inside)).2.2 rfl
  have port : cutPort false url.place =
      (host.text, url.port.map fun port => (Nat.repr port).toList) := by
    rw [Url.place, found, portText_tail]
    exact Host.cutPort_of_readHost read _
  have numbered := readPort_written named.rooted.port
  have cut := written.cut_afterHost path segments
  have again := named.readPath_text
  have tail := written.readTail
  have filled : ¬ (isSpecial url.scheme = true ∧ host.text = []) := by
    rintro ⟨special, empty⟩
    rw [special] at read
    exact (Host.isRead_of_readHost read).text_ne_nil empty
  have name := encodeText_of_plain named.username
  have password : encodeText userSet
      ((if url.password = [] then none else some url.password).getD []) = url.password := by
    split
    next empty => rw [empty]; rfl
    next => exact encodeText_of_plain named.password
  simp only [readAuthority, taken, dropped, last, names, port, bind, Except.bind]
  rw [if_neg fun both => guarded both.1, if_neg filled]
  cases reading : readHost (isSpecial url.scheme) host.text with
  | error fault => rfl
  | ok other =>
    obtain rfl := same other reading
    have alone (empty : other = .empty) := named.alone (found.trans (congrArg some empty))
    simp only [numbered, List.nil_append, cut, again, tail.1, tail.2, name, password]
    rw [if_neg, if_neg]
    · rw [← found]
      rfl
    · rintro ⟨empty, name | password⟩
      · exact name (alone empty).2.1
      · exact password (alone empty).2.2
    · rintro ⟨empty, some⟩
      rw [(alone empty).1] at some
      cases some

end Named

section Files

variable {host : Host} {first : List Char} {rest : List (List Char)}

theorem not_drive_of_isRead (known : host.IsRead) : isDrive host.text = false := by
  rw [← Bool.not_eq_true]
  intro drive
  unfold isDrive at drive
  split at drive
  next letter sign same =>
    simp only [Bool.and_eq_true, Bool.or_eq_true, decide_eq_true_eq] at drive
    obtain ⟨alpha, signs⟩ := drive
    have inside : sign ∈ host.text := by
      rw [same]
      exact List.mem_cons_of_mem letter List.mem_cons_self
    cases known with
    | domain read _ _ =>
      have allowed := not_forbidden_of_toAscii? read sign inside
      rcases signs with rfl | rfl
      · exact absurd allowed (by decide)
      · exact absurd allowed (by decide)
    | ipv4 _ =>
      have digit := Ipv4.mem_text inside
      rcases signs with rfl | rfl
      · exact absurd digit (by decide)
      · exact absurd digit (by decide)
    | ipv6 _ =>
      cases (List.cons.inj same).1
      exact absurd alpha (by decide)
  next => cases drive

theorem readFilePath_written (written : ∀ segment ∈ first :: rest, IsSegment true segment)
    (leads : first = [] → rest = []) :
    readFilePath (UrlPath.segments (first :: rest)).text = first :: rest := by
  have cut := cutSegments_path fun segment among => (written segment among).noSlash
  have settled : settle true [] (first :: rest) = first :: rest := settle_written written []
  rw [UrlPath.text, List.flatMap_cons, List.cons_append, readFilePath]
  simp only [isSlash_slash, if_true, cut, encode_written written]
  rw [settled]
  by_cases empty : first = []
  · rw [empty, leads empty]
    rfl
  · rw [List.dropWhile_cons_of_neg (by simpa using empty)]

theorem eq_of_bare {path : UrlPath}
    (bare : url.username = [] ∧ url.password = [] ∧ url.port = none)
    (found : url.host = some host) (same : url.path = path) :
    ⟨url.scheme, [], [], some host, none, path, url.query, url.fragment⟩ = url := by
  cases url
  obtain ⟨rfl, rfl, rfl⟩ := bare
  cases found
  cases same
  rfl

theorem IsFile.cases_host (file : url.IsFile) (found : url.host = some host) :
    host = .empty ∨ host ≠ .domain "localhost".toList ∧ host.IsRead := by
  obtain ⟨other, here, known⟩ := file.host
  cases found.symm.trans here
  rcases known with empty | ⟨foreign, text, read⟩
  · exact .inl empty
  · exact .inr ⟨foreign, Host.isRead_of_readHost read⟩

/-- The host of a file is found again behind the slashes, and not taken for a drive. -/
theorem IsFile.inner_host (file : url.IsFile) (found : url.host = some host) :
    (∀ char ∈ host.text, endsAuthority true char = false) ∧ isDrive host.text = false := by
  rcases file.cases_host found with rfl | ⟨_, read⟩
  · exact ⟨nofun, rfl⟩
  · refine ⟨fun char inside => ?_, not_drive_of_isRead read⟩
    exact (isPlaceChar_spec (isPlaceChar_of_isHostChar (isHostChar_text read char inside))).2.1

theorem IsFile.authority_eq (file : url.IsFile) (found : url.host = some host) :
    url.authority = '/' :: '/' :: host.text := by
  obtain ⟨noName, noPassword, noPort⟩ := file.bare
  rw [authority_of_host found, credentials, if_pos ⟨noName, noPassword⟩, Url.place, found,
    portText, noPort]
  simp

/-- The host of a file, if it has one, decides whether its URL is read again. -/
theorem readFile_text (written : url.IsWritten) (file : url.IsFile) (found : url.host = some host)
    (same : host.text ≠ [] → ∀ other, readHost true host.text = .ok other → other = host)
    (scheme : url.scheme = "file".toList) :
    readFile url.scheme (url.authority ++ url.afterHost) =
      if host.text = [] then .ok url else (readHost true host.text).map fun _ => url := by
  obtain ⟨first, rest, path, segments, leads, drive⟩ := file.path
  have known := file.cases_host found
  obtain ⟨inner, notDrive⟩ := file.inner_host found
  obtain ⟨taken, dropped⟩ := split_afterHost path inner
  have cut := written.cut_afterHost path segments
  have again : readFilePath url.path.text = first :: rest := by
    rw [path]
    exact readFilePath_written segments leads
  have tail := written.readTail
  rw [scheme, show isSpecial "file".toList = true by decide] at tail
  have placed : (if isDrive first then .empty else host) = host := by
    split
    next here => exact (Option.some.inj (found.symm.trans (drive here))).symm
    next => rfl
  have built := eq_of_bare file.bare found path
  rw [file.authority_eq found]
  simp only [readFile, List.cons_append, isSlash_slash, and_self, if_true, taken, dropped, notDrive,
    Bool.false_eq_true, if_false, cut, again, tail.1, tail.2, List.head?_cons, Option.any_some, bind,
    Except.bind]
  split
  next empty =>
    have nameless : host = .empty := by
      rcases known with nameless | ⟨_, read⟩
      · exact nameless
      · exact absurd empty read.text_ne_nil
    rw [nameless] at built placed
    rw [placed, built]
  next filled =>
    cases reading : readHost true host.text with
    | error fault => rfl
    | ok other =>
      obtain rfl := same filled other reading
      have foreign : other ≠ .domain "localhost".toList := by
        rcases known with rfl | ⟨foreign, _⟩
        · exact absurd rfl filled
        · exact foreign
      simp only [if_neg foreign, placed, built]
      rfl

end Files

section Rootless

variable {first : List Char} {rest : List (List Char)} {scheme text : List Char}

/-- A path without a host that would be taken for one is told by a dot in front. -/
theorem authority_of_empty (bare : url.host = none) {next : List Char}
    (path : url.path = .segments ([] :: next :: rest)) : url.authority = ['/', '.'] := by
  rw [authority, bare, path]

theorem authority_of_filled (bare : url.host = none) (path : url.path = .segments (first :: rest))
    (leads : first = [] → rest = []) : url.authority = [] := by
  rw [authority, bare, path]
  cases first with
  | nil => rw [leads rfl]
  | cons char chars => rfl

theorem authority_of_plain (bare : url.host = none) (path : url.path = .plain text) :
    url.authority = [] := by
  rw [authority, bare, path]

theorem readSegments_written (written : ∀ segment ∈ first :: rest, IsSegment false segment) :
    readSegments false (first ++ rest.flatMap ('/' :: ·)) = first :: rest := by
  have cut := cutSegments_path fun segment among => (written segment among).noSlash
  have settled : settle false [] (first :: rest) = first :: rest := settle_written written []
  rw [readSegments, cut, encode_written written, settled]

theorem readSegments_dot (written : ∀ segment ∈ first :: rest, IsSegment false segment) :
    readSegments false ('.' :: '/' :: (first ++ rest.flatMap ('/' :: ·))) = first :: rest := by
  have inner : ∀ char ∈ ['.'], isSlash false char = false :=
    List.forall_mem_singleton.mpr (by decide)
  have cut := cutSegments_path fun segment among => (written segment among).noSlash
  have front : cutSegments false ('.' :: '/' :: (first ++ rest.flatMap ('/' :: ·))) =
      ['.'] :: first :: rest := by
    rw [← cut]
    exact cutSegments_behind inner rfl _
  have dot : encodeText pathSet ['.'] = ['.'] := by decide
  have settled : settle false [] (first :: rest) = first :: rest := settle_written written []
  rw [readSegments, front, List.map_cons, encode_written written, dot, settle_cons,
    if_neg (by decide), if_pos (by decide), settled]

theorem eq_of_rootless {path : UrlPath}
    (bare : url.username = [] ∧ url.password = [] ∧ url.host = none ∧ url.port = none)
    (same : url.path = path) :
    ⟨url.scheme, [], [], none, none, path, url.query, url.fragment⟩ = url := by
  cases url
  obtain ⟨rfl, rfl, rfl, rfl⟩ := bare
  cases same
  rfl

/-- A URL that is read from what is written behind its scheme, which does not begin like a
host. -/
structure IsReadRootless (url : Url) : Prop where
  read : readRootless url.scheme (url.authority ++ url.afterHost) = url
  free : ∀ after, url.authority ++ url.afterHost ≠ '/' :: '/' :: after

theorem isReadRootless_filled (written : url.IsWritten) (plain : isSpecial url.scheme = false)
    (rootless : url.IsRootless) (path : url.path = .segments (first :: rest))
    (segments : ∀ segment ∈ first :: rest, IsSegment false segment)
    (leads : first = [] → rest = []) : url.IsReadRootless := by
  have tail := written.readTail
  rw [plain] at tail
  have cut := written.cut_afterHost path segments
  rw [path] at cut
  have empty := authority_of_filled rootless.bare.2.2.1 path leads
  constructor
  · rw [empty, List.nil_append]
    simp only [readRootless, cut, tail.1, tail.2]
    change (⟨_, [], [], none, none, .segments (readSegments false
      (first ++ rest.flatMap ('/' :: ·))), _, _⟩ : Url) = url
    rw [readSegments_written segments]
    exact eq_of_rootless rootless.bare path
  · intro after same
    rw [empty, List.nil_append, afterHost, path] at same
    have second := (List.cons.inj same).2
    cases first with
    | nil =>
      rw [leads rfl] at second
      rcases begins_behindPath second with sign | sign
      · exact absurd sign (by decide)
      · exact absurd sign (by decide)
    | cons char chars =>
      have slash := (segments _ List.mem_cons_self).noSlash char List.mem_cons_self
      cases (List.cons.inj second).1
      exact absurd slash (by decide)

/-- An empty segment in front stands behind a dot, which goes when it is read. -/
theorem isReadRootless_dotted (written : url.IsWritten) (plain : isSpecial url.scheme = false)
    (rootless : url.IsRootless) {next : List Char} (path : url.path = .segments ([] :: next :: rest))
    (segments : ∀ segment ∈ [] :: next :: rest, IsSegment false segment) :
    url.IsReadRootless := by
  have tail := written.readTail
  rw [plain] at tail
  have dot := authority_of_empty rootless.bare.2.2.1 path
  have signs : ∀ char ∈ ['/', '.'] ++ (UrlPath.segments ([] :: next :: rest)).text,
      char ≠ '#' ∧ char ≠ '?' :=
    List.forall_mem_append.mpr ⟨List.all_iff_forall_prop.mp (by decide),
      fun char inside => (inner_path segments char inside).2⟩
  constructor
  · rw [dot, afterHost, path, ← List.append_assoc]
    simp only [readRootless, cut_written signs written.noFragment, tail.1, tail.2]
    change (⟨_, [], [], none, none, .segments (readSegments false
      ('.' :: '/' :: ([] ++ (next :: rest).flatMap ('/' :: ·)))), _, _⟩ : Url) = url
    rw [readSegments_dot segments]
    exact eq_of_rootless rootless.bare path
  · intro after same
    rw [dot] at same
    have second := (List.cons.inj (List.cons.inj same).2).1
    exact absurd second (by decide)

theorem isReadRootless_plain (written : url.IsWritten) (plain : isSpecial url.scheme = false)
    (rootless : url.IsRootless) (path : url.path = .plain text) (encoded : IsEncoded isControl text)
    (signs : ∀ char ∈ text, char ≠ '#' ∧ char ≠ '?') (free : ∀ rest, text ≠ '/' :: rest) :
    url.IsReadRootless := by
  have tail := written.readTail
  rw [plain] at tail
  have empty := authority_of_plain rootless.bare.2.2.1 path
  have same : encodeText isControl text = text := encodeText_of_plain encoded
  constructor
  · rw [empty, List.nil_append, afterHost, path]
    change readRootless url.scheme (text ++ behindPath url.query url.fragment) = url
    simp only [readRootless, cut_written signs written.noFragment, tail.1, tail.2, same]
    exact eq_of_rootless rootless.bare path
  · intro after begins
    rw [empty, List.nil_append, afterHost, path] at begins
    cases text with
    | nil =>
      rcases begins_behindPath begins with sign | sign
      · exact absurd sign (by decide)
      · exact absurd sign (by decide)
    | cons char chars =>
      cases (List.cons.inj begins).1
      exact free chars rfl

theorem isReadRootless_of_written (written : url.IsWritten) (plain : isSpecial url.scheme = false)
    (rootless : url.IsRootless) : url.IsReadRootless := by
  rcases rootless.path with ⟨first, rest, path, segments⟩ | ⟨text, path, encoded, signs, free⟩
  · by_cases leads : first = [] → rest = []
    · exact isReadRootless_filled written plain rootless path segments leads
    · obtain ⟨rfl, some⟩ := Classical.not_imp.mp leads
      obtain ⟨next, others, rfl⟩ := List.exists_cons_of_ne_nil some
      exact isReadRootless_dotted written plain rootless path segments
  · exact isReadRootless_plain written plain rootless path encoded signs free

end Rootless

end Url

end LoginGateway
