import LoginGateway.Proofs.UrlParts

/-! URLs are read again from their own texts. Nothing of a text is cleaned off, and each of its
parts is found again but for the name of a host that has become too long to be read. -/

namespace LoginGateway

open Url Percent Domain

namespace Url

variable {url : Url}

section Cleaning

theorem isBreak_of_printable {text : List Char} (printable : Printable text) :
    ∀ char ∈ text, isBreak char = false := by
  intro char inside
  rw [← Bool.not_eq_true]
  intro breaks
  have visible := (printable char inside).1
  simp only [isBreak, Bool.or_eq_true, decide_eq_true_eq] at breaks
  rcases breaks with (rfl | rfl) | rfl
  all_goals exact absurd visible (by decide)

theorem cleanEnd_of_end {middle back : List Char} (kept : ∀ char ∈ middle, isBreak char = false)
    (inner : ∀ char ∈ back, isEdge char = false) (some : back ≠ []) :
    cleanEnd (middle ++ back) = middle ++ back := by
  have stays : (middle ++ back).reverse.dropWhile isEdge = (middle ++ back).reverse := by
    apply dropWhile_inner
    intro first rest same
    rw [List.reverse_append] at same
    obtain ⟨last, others, ends⟩ := List.exists_cons_of_ne_nil (List.reverse_ne_nil_iff.mpr some)
    rw [ends] at same
    cases same
    apply inner
    rw [← List.mem_reverse, ends]
    exact List.mem_cons_self
  rw [cleanEnd, stays, List.reverse_reverse, List.filter_append, filter_inner inner]
  congr 1
  exact List.filter_eq_self.mpr fun char inside => by rw [kept char inside]; rfl

namespace IsWritten

theorem inner_behindPath (written : url.IsWritten) :
    ∀ char ∈ behindPath url.query url.fragment, isEdge char = false := by
  intro char inside
  rcases List.mem_append.mp inside with query | fragment
  · exact inner_tail written.query char query
  · cases found : url.fragment with
    | none =>
      rw [found] at fragment
      cases fragment
    | some text =>
      rw [found] at fragment
      rcases List.mem_cons.mp fragment with rfl | later
      · decide
      · exact inner_of_fragment (written.fragment text found) char later

theorem printable_segments {special : Bool} {parts : List (List Char)}
    (segments : ∀ segment ∈ parts, IsSegment special segment) :
    Printable (UrlPath.segments parts).text := by
  intro char inside
  obtain ⟨segment, among, here⟩ := List.mem_flatMap.mp inside
  rcases List.mem_cons.mp here with rfl | within
  · decide
  · exact (segments segment among).printable char within

theorem printable_credentials (username : IsEncoded userSet url.username)
    (password : IsEncoded userSet url.password) : Printable url.credentials := by
  have sign : Printable ['@'] := .cons (by decide) .nil
  rw [credentials]
  split
  next => exact .nil
  next =>
    refine ((username.printable userSet_of_control).append ?_).append sign
    split
    next => exact .nil
    next => exact .cons (by decide) (password.printable userSet_of_control)

theorem printable_front (written : url.IsWritten) : Printable (url.authority ++ url.path.text) := by
  have authority {host : Host} (found : url.host = some host) (name : Printable host.text)
      (user : Printable url.credentials) : Printable url.authority := by
    have port : Printable url.portText := fun char inside =>
      printable_of_isHostChar (isHostChar_portText url char inside)
    rw [authority_of_host found, Url.place, found]
    exact .cons (by decide) (.cons (by decide) (user.append (name.append port)))
  cases written.kind with
  | named other named =>
    obtain ⟨host, found, text, read⟩ := named.rooted.host
    obtain ⟨parts, path, segments⟩ := named.exists_segments
    rw [path]
    exact (authority found (Host.printable_of_readHost read)
      (printable_credentials named.username named.password)).append (printable_segments segments)
  | file scheme file =>
    obtain ⟨noName, noPassword, noPort⟩ := file.bare
    obtain ⟨first, rest, path, segments, _⟩ := file.path
    obtain ⟨host, found, known⟩ := file.host
    have name : Printable host.text := by
      rcases known with rfl | ⟨_, text, read⟩
      · exact .nil
      · exact Host.printable_of_readHost read
    have user : Printable url.credentials := by
      rw [credentials, if_pos ⟨noName, noPassword⟩]
      exact .nil
    rw [path]
    exact (authority found name user).append (printable_segments segments)
  | rootless plain rootless =>
    have dot : Printable url.authority := by
      rw [Url.authority, rootless.bare.2.2.1]
      simp only []
      split
      next => exact .cons (by decide) (.cons (by decide) .nil)
      next => exact .nil
    rcases rootless.path with ⟨first, rest, path, segments⟩ | ⟨text, path, encoded, _⟩
    · rw [path]
      exact dot.append (printable_segments segments)
    · rw [path]
      exact dot.append (encoded.printable fun _ control => control)

/-- There are no controls in the text of a URL, so that it can stand in a field. -/
theorem printable_text (written : url.IsWritten) : Printable url.text := by
  have scheme : Printable (url.scheme ++ [':']) := by
    refine Printable.append (fun char inside => ?_) (.cons (by decide) .nil)
    obtain ⟨_, _, _, inner, _, visible⟩ := isSchemeChar_spec (written.scheme.inner char inside).1
    have above := of_decide_eq_false inner
    omega
  have query : Printable (tail '?' url.query) := by
    cases found : url.query with
    | none => exact .nil
    | some text =>
      exact .cons (by decide) ((written.query text found).printable querySet_of_special)
  have fragment : Printable (tail '#' url.fragment) := by
    cases found : url.fragment with
    | none => exact .nil
    | some text =>
      exact .cons (by decide) ((written.fragment text found).printable fragmentSet_of_control)
  have whole := scheme.append (written.printable_front.append (query.append fragment))
  have same : url.text = (url.scheme ++ [':']) ++ ((url.authority ++ url.path.text) ++
      (tail '?' url.query ++ tail '#' url.fragment)) := by
    simp [text]
  rwa [same]

theorem clean_text (written : url.IsWritten) (asked : url.query ≠ none) :
    clean url.text = url.text := by
  have scheme : ∀ char ∈ url.scheme ++ [':'], isEdge char = false := by
    refine List.forall_mem_append.mpr
      ⟨fun char inside => ?_, List.forall_mem_singleton.mpr (by decide)⟩
    exact (isSchemeChar_spec (written.scheme.inner char inside).1).2.2.2.1
  have some : behindPath url.query url.fragment ≠ [] := by
    intro empty
    obtain ⟨text, found⟩ := Option.ne_none_iff_exists'.mp asked
    rw [found] at empty
    cases empty
  have ends := cleanEnd_of_end (isBreak_of_printable written.printable_front)
    written.inner_behindPath some
  have same : url.text = (url.scheme ++ [':']) ++
      ((url.authority ++ url.path.text) ++ behindPath url.query url.fragment) := by
    simp [text, behindPath]
  rw [same, clean_append scheme (by simp), ends]

end IsWritten

end Cleaning

namespace IsWritten

variable {host : Host}

/-- With a host behind two slashes a URL is read again exactly if its host is. -/
theorem parse_named (written : url.IsWritten) (asked : url.query ≠ none)
    (other : url.scheme ≠ "file".toList) (named : url.IsNamed) (found : url.host = some host) :
    parse url.text = (readHost (isSpecial url.scheme) host.text).map fun _ => url := by
  obtain ⟨text, read⟩ := named.exists_readHost found
  have again := readAuthority_text written named found fun other => Host.eq_of_readHost_again read
  have authority : url.authority ++ url.afterHost =
      '/' :: '/' :: (url.credentials ++ (url.place ++ url.afterHost)) := by
    rw [authority_of_host found]
    simp
  rw [parse, written.clean_text asked, text_eq, written.scheme.splitScheme?_append, authority]
  simp only [if_neg other]
  split
  next special =>
    rw [special] at read
    have filled : url.credentials ++ url.place ≠ [] := by
      intro empty
      have nothing := (List.append_eq_nil_iff.mp empty).2
      rw [Url.place, found] at nothing
      exact (Host.isRead_of_readHost read).text_ne_nil (List.append_eq_nil_iff.mp nothing).1
    have inner : ∀ char ∈ url.credentials ++ url.place, isSlash true char = false := by
      intro char inside
      have ends := inner_place named found (Host.isPlaceChar_of_readHost read) char inside
      simp only [endsAuthority, Bool.or_eq_false_iff] at ends
      exact ends.1.1
    obtain ⟨first, rest, same⟩ := List.exists_cons_of_ne_nil filled
    have stops : isSlash true first = false := by
      apply inner
      rw [same]
      exact List.mem_cons_self
    rw [← List.append_assoc, same] at again ⊢
    rw [List.dropWhile_cons_of_pos (by decide), List.dropWhile_cons_of_pos (by decide),
      List.cons_append, List.dropWhile_cons_of_neg (by rw [stops]; decide)]
    exact again
  next => exact again

theorem parse_file (written : url.IsWritten) (asked : url.query ≠ none)
    (scheme : url.scheme = "file".toList) (file : url.IsFile) (found : url.host = some host) :
    parse url.text =
      if host.text = [] then .ok url else (readHost true host.text).map fun _ => url := by
  have same : host.text ≠ [] → ∀ other, readHost true host.text = .ok other → other = host := by
    intro filled other again
    obtain ⟨known, here, kinds⟩ := file.host
    cases found.symm.trans here
    rcases kinds with rfl | ⟨_, text, read⟩
    · exact absurd rfl filled
    · exact Host.eq_of_readHost_again read again
  rw [parse, written.clean_text asked, text_eq, written.scheme.splitScheme?_append]
  simp only [if_pos scheme]
  exact readFile_text written file found same scheme

theorem parse_rootless (written : url.IsWritten) (asked : url.query ≠ none)
    (plain : isSpecial url.scheme = false) (rootless : url.IsRootless) :
    parse url.text = .ok url := by
  have other : url.scheme ≠ "file".toList := by
    intro file
    rw [file] at plain
    exact absurd plain (by decide)
  obtain ⟨read, noHost⟩ := isReadRootless_of_written written plain rootless
  rw [parse, written.clean_text asked, text_eq, written.scheme.splitScheme?_append]
  simp only [if_neg other, plain, Bool.false_eq_true, if_false]
  rw [read]

end IsWritten

/-- A URL whose host is found again in its text: no label of its name has become too long. -/
def IsReadable (url : Url) : Prop :=
  isSpecial url.scheme = true → HasReadableLabels (url.hostText?.getD [])

instance (url : Url) : Decidable url.IsReadable :=
  inferInstanceAs (Decidable (_ → _))

theorem hostText?_getD {host : Host} (found : url.host = some host) :
    url.hostText?.getD [] = host.text := by
  rw [hostText?, found, Option.map_some]
  by_cases empty : host.text = []
  · rw [empty]
    rfl
  · rw [Option.filter_some, if_pos (decide_eq_true empty), Option.getD_some]

namespace IsWritten

/-- A URL that was read is read again from its own text, with whatever query it has. -/
theorem parse_text (written : url.IsWritten) (asked : url.query ≠ none)
    (readable : url.IsReadable) : parse url.text = .ok url := by
  have reads {host : Host} (found : url.host = some host) {text : List Char}
      (read : readHost (isSpecial url.scheme) text = .ok host) :
      readHost (isSpecial url.scheme) host.text = .ok host := by
    apply Host.readHost_again read
    intro special
    rw [← hostText?_getD found]
    exact readable special
  cases written.kind with
  | named other named =>
    obtain ⟨host, found, text, read⟩ := named.rooted.host
    rw [written.parse_named asked other named found, reads found read]
    rfl
  | file scheme file =>
    have special : isSpecial url.scheme = true := by
      rw [scheme]
      decide
    obtain ⟨host, found, known⟩ := file.host
    rw [written.parse_file asked scheme file found]
    split
    next => rfl
    next filled =>
      rcases known with rfl | ⟨_, text, read⟩
      · exact absurd rfl filled
      · rw [special] at reads
        rw [reads found read]
        rfl
  | rootless plain rootless => exact written.parse_rootless asked plain rootless

/-- With a label that is too long it is not. -/
theorem parse_text_unreadable (written : url.IsWritten) (asked : url.query ≠ none)
    (unreadable : ¬ url.IsReadable) : parse url.text = .error .domain := by
  obtain ⟨special, long⟩ := Classical.not_imp.mp unreadable
  cases written.kind with
  | named other named =>
    obtain ⟨host, found, text, read⟩ := named.rooted.host
    rw [special] at read
    rw [hostText?_getD found] at long
    rw [written.parse_named asked other named found, special,
      (Host.isRead_of_readHost read).readHost_unreadable long]
    rfl
  | file scheme file =>
    obtain ⟨host, found, known⟩ := file.host
    rw [hostText?_getD found] at long
    rcases known with rfl | ⟨_, text, read⟩
    · exact absurd (by decide) long
    · have known := Host.isRead_of_readHost read
      rw [written.parse_file asked scheme file found, if_neg known.text_ne_nil,
        known.readHost_unreadable long]
      rfl
  | rootless plain _ =>
    rw [plain] at special
    cases special

end IsWritten

section Pairs

theorem querySet_of_web {special : Bool} {octet : UInt8} (kept : querySet true octet = false) :
    querySet special octet = false := by
  cases special with
  | true => exact kept
  | false =>
    simp only [querySet, Bool.or_eq_false_iff] at kept ⊢
    exact ⟨kept.1, rfl⟩

theorem isEncoded_serialize (special : Bool) (pairs : List (String × String)) :
    IsEncoded (querySet special) (Form.serialize pairs) := by
  intro char inside
  obtain ⟨_, _, _, ascii, kept⟩ := Form.plain_of_mem char (Form.mem_serialize inside)
  exact ⟨ascii, querySet_of_web kept⟩

theorem appendPairs_spec (written : url.IsWritten) (pairs : List (String × String)) :
    ∃ query, url.appendPairs pairs = { url with query := some query } ∧
      IsEncoded (querySet (isSpecial url.scheme)) query := by
  have added := isEncoded_serialize (isSpecial url.scheme) pairs
  unfold appendPairs
  split
  next => exact ⟨_, rfl, added⟩
  next before _ found =>
    refine ⟨_, rfl, List.forall_mem_append.mpr ⟨written.query before found, ?_⟩⟩
    have sign : querySet (isSpecial url.scheme) (UInt8.ofNat '&'.toNat) = false :=
      querySet_of_web (by decide)
    exact List.forall_mem_cons.mpr ⟨⟨by decide, sign⟩, added⟩
  next => exact ⟨_, rfl, added⟩

theorem IsWritten.withQuery (written : url.IsWritten) {query : List Char}
    (encoded : IsEncoded (querySet (isSpecial url.scheme)) query) :
    IsWritten { url with query := some query } where
  scheme := written.scheme
  kind := by
    cases written.kind with
    | named other named =>
      obtain ⟨rooted, username, password, alone⟩ := named
      exact .named other ⟨⟨rooted.scheme, rooted.host, rooted.pathRead, rooted.port⟩, username,
        password, alone⟩
    | file scheme file => exact .file scheme ⟨file.bare, file.host, file.path⟩
    | rootless plain rootless => exact .rootless plain ⟨rootless.bare, rootless.path⟩
  query := by
    intro text found
    cases found
    exact encoded
  fragment := written.fragment

end Pairs

end Url

end LoginGateway
