import LoginGateway.Proofs.UrlTexts

/-! What a URL is once it was read. There are three kinds: with a host behind two slashes,
of a file, and without a host. Whatever text a URL of a kind was read from, each of its parts
is in the characters in which it is written. -/

namespace LoginGateway

namespace Percent

/-- A text as it is written where some octets are escaped. -/
def IsEncoded (escaped : UInt8 → Bool) (text : List Char) : Prop :=
  ∀ char ∈ text, char.toNat < 0x80 ∧ escaped (UInt8.ofNat char.toNat) = false

theorem isEncoded_encodeText {escaped : UInt8 → Bool}
    (kept : ∀ char ∈ signs, char.toNat < 0x80 ∧ escaped (UInt8.ofNat char.toNat) = false)
    (text : List Char) : IsEncoded escaped (encodeText escaped text) := by
  intro char inside
  rcases mem_encodeText inside with sign | ⟨_, plain⟩
  · exact kept char sign
  · exact plain

/-- A text begins as before, or with an escape. -/
theorem head_encodeText {escaped : UInt8 → Bool} {text rest : List Char} {first : Char}
    (same : encodeText escaped text = first :: rest) :
    first = '%' ∨ ∃ others, text = first :: others := by
  cases text with
  | nil => cases same
  | cons char others =>
    by_cases ascii : char.toNat < 0x80
    · have code := Utf8.toNat_ofNat char.toNat (by omega)
      rw [encodeText, encode, Utf8.encode_cons_ascii ascii, List.flatMap_cons] at same
      split at same
      next =>
        cases same
        exact .inl rfl
      next =>
        rw [code, Char.ofNat_toNat] at same
        cases same
        exact .inr ⟨others, rfl⟩
    · -- The octets of any other character are escaped.
      obtain ⟨lead, after, spelled, beyond⟩ := Utf8.exists_lead (Nat.le_of_not_lt ascii)
      rw [encodeText, encode, Utf8.encode_cons, spelled, List.cons_append, List.flatMap_cons,
        decide_eq_true beyond, Bool.or_true, if_pos rfl] at same
      cases same
      exact .inl rfl

theorem IsEncoded.printable {escaped : UInt8 → Bool} {text : List Char}
    (encoded : IsEncoded escaped text)
    (controls : ∀ octet, isControl octet = true → escaped octet = true) : Printable text := by
  rw [← encodeText_of_plain encoded]
  exact printable_encodeText controls text

end Percent

namespace Url

open Percent

section Sets

theorem fragmentSet_of_control (octet : UInt8) (control : isControl octet = true) :
    fragmentSet octet = true := by
  rw [fragmentSet, control, Bool.true_or]

theorem userSet_of_control (octet : UInt8) (control : isControl octet = true) :
    userSet octet = true := by
  rw [userSet, pathSet_of_control octet control, Bool.true_or]

theorem querySet_of_special {special : Bool} (octet : UInt8) (control : isControl octet = true) :
    querySet special octet = true := by
  simp [querySet, control]

theorem isEncoded_user (text : List Char) : IsEncoded userSet (encodeText userSet text) :=
  isEncoded_encodeText (List.all_iff_forall_prop.mp (by decide)) text

theorem isEncoded_fragment (text : List Char) :
    IsEncoded fragmentSet (encodeText fragmentSet text) :=
  isEncoded_encodeText (List.all_iff_forall_prop.mp (by decide)) text

theorem isEncoded_control (text : List Char) : IsEncoded isControl (encodeText isControl text) :=
  isEncoded_encodeText (List.all_iff_forall_prop.mp (by decide)) text

theorem isEncoded_query (special : Bool) (text : List Char) :
    IsEncoded (querySet special) (encodeText (querySet special) text) := by
  cases special with
  | true => exact isEncoded_encodeText (List.all_iff_forall_prop.mp (by decide)) text
  | false => exact isEncoded_encodeText (List.all_iff_forall_prop.mp (by decide)) text

theorem inner_of_user {text : List Char} (encoded : IsEncoded userSet text) :
    ∀ char ∈ text, endsAuthority true char = false ∧ char ≠ '@' ∧ char ≠ ':' := by
  intro char inside
  obtain ⟨ascii, kept⟩ := encoded char inside
  exact of_ascii ascii (by decide) kept

theorem inner_of_query {special : Bool} {text : List Char}
    (encoded : IsEncoded (querySet special) text) :
    ∀ char ∈ text, isEdge char = false ∧ char ≠ '#' := by
  intro char inside
  obtain ⟨ascii, kept⟩ := encoded char inside
  cases special with
  | true => exact of_ascii ascii (by decide) kept
  | false => exact of_ascii ascii (by decide) kept

theorem inner_of_fragment {text : List Char} (encoded : IsEncoded fragmentSet text) :
    ∀ char ∈ text, isEdge char = false := by
  intro char inside
  obtain ⟨ascii, kept⟩ := encoded char inside
  exact of_ascii ascii (by decide) kept

end Sets

section Schemes

structure IsScheme (scheme : List Char) : Prop where
  starts : ∃ first rest, scheme = first :: rest ∧ first.isAlpha = true
  inner : ∀ char ∈ scheme, isSchemeChar char = true ∧ char.toLower = char

theorem ascii_of_isSchemeChar {char : Char} (inner : isSchemeChar char = true) :
    char.toNat < 0x80 := by
  simp only [isSchemeChar, Bool.or_eq_true, decide_eq_true_eq] at inner
  rcases inner with ((letter | rfl) | rfl) | rfl
  · exact ascii_of_isAlphanum letter
  all_goals decide

theorem isSchemeChar_spec {char : Char} (inner : isSchemeChar char = true) :
    isSchemeChar char.toLower = true ∧ char.toLower.toLower = char.toLower ∧
      char.toLower.isAlpha = char.isAlpha ∧ isEdge char = false ∧ (char ≠ ':' ∧ char ≠ '/') ∧
      char.toNat ≠ 0x7F :=
  of_ascii (ascii_of_isSchemeChar inner) (by decide) inner

theorem isScheme_of_splitScheme? {text scheme rest : List Char}
    (read : splitScheme? text = some (scheme, rest)) : IsScheme scheme := by
  unfold splitScheme? at read
  split at read
  next first others =>
    split at read
    next letter =>
      split at read
      next =>
        cases read
        have inner : isSchemeChar first = true := by
          rw [isSchemeChar, Char.isAlphanum, letter]
          rfl
        refine ⟨⟨first.toLower, (others.takeWhile isSchemeChar).map Char.toLower, ?_, ?_⟩, ?_⟩
        · rw [List.takeWhile_cons_of_pos inner, List.map_cons]
        · rw [(isSchemeChar_spec inner).2.2.1, letter]
        · intro char inside
          obtain ⟨other, among, rfl⟩ := List.mem_map.mp inside
          obtain ⟨kept, lower, _⟩ :=
            isSchemeChar_spec (List.all_eq_true.mp List.all_takeWhile other among)
          exact ⟨kept, lower⟩
      next => cases read
    next => cases read
  next => cases read

theorem IsScheme.splitScheme?_append {scheme : List Char} (known : IsScheme scheme)
    (rest : List Char) : splitScheme? (scheme ++ ':' :: rest) = some (scheme, rest) := by
  have colon : isSchemeChar ':' = false := by decide
  have letters : ∀ char ∈ scheme, isSchemeChar char = true := fun char inside =>
    (known.inner char inside).1
  have small : scheme.map Char.toLower = scheme := map_eq_self fun char inside =>
    (known.inner char inside).2
  have front : (scheme ++ ':' :: rest).takeWhile isSchemeChar = scheme := by
    rw [List.takeWhile_append_of_pos letters, List.takeWhile_cons_of_neg (by rw [colon]; decide),
      List.append_nil]
  have back : (scheme ++ ':' :: rest).dropWhile isSchemeChar = ':' :: rest := by
    rw [List.dropWhile_append_of_pos letters, List.dropWhile_cons_of_neg (by rw [colon]; decide)]
  obtain ⟨first, others, rfl, letter⟩ := known.starts
  rw [List.cons_append] at front back ⊢
  simp only [splitScheme?, letter, if_true, front, back, small]

end Schemes

/-- A URL with a host behind two slashes. A host without a name has nothing around it. -/
structure IsNamed (url : Url) : Prop where
  rooted : Rooted url.scheme url
  username : IsEncoded userSet url.username
  password : IsEncoded userSet url.password
  alone : url.host = some .empty → url.port = none ∧ url.username = [] ∧ url.password = []

/-- A URL of a file. An empty segment comes first only if it is the only one, and a drive
only without a host. -/
structure IsFile (url : Url) : Prop where
  bare : url.username = [] ∧ url.password = [] ∧ url.port = none
  host : ∃ host, url.host = some host ∧ (host = .empty ∨
    host ≠ .domain "localhost".toList ∧ ∃ text, readHost true text = .ok host)
  path : ∃ first rest, url.path = .segments (first :: rest) ∧
    (∀ segment ∈ first :: rest, IsSegment true segment) ∧ (first = [] → rest = []) ∧
    (isDrive first = true → url.host = some .empty)

structure IsRootless (url : Url) : Prop where
  bare : url.username = [] ∧ url.password = [] ∧ url.host = none ∧ url.port = none
  path : (∃ first rest, url.path = .segments (first :: rest) ∧
      ∀ segment ∈ first :: rest, IsSegment false segment) ∨
    ∃ text, url.path = .plain text ∧ IsEncoded isControl text ∧
      (∀ char ∈ text, char ≠ '#' ∧ char ≠ '?') ∧ ∀ rest, text ≠ '/' :: rest

/-- A URL of one of the three kinds. -/
inductive IsOfKind (url : Url) : Prop
  | named (other : url.scheme ≠ "file".toList) (named : url.IsNamed)
  | file (scheme : url.scheme = "file".toList) (file : url.IsFile)
  | rootless (plain : isSpecial url.scheme = false) (rootless : url.IsRootless)

/-- A URL with all its parts in the characters in which they are written. -/
structure IsWritten (url : Url) : Prop where
  scheme : IsScheme url.scheme
  kind : url.IsOfKind
  query : ∀ text, url.query = some text → IsEncoded (querySet (isSpecial url.scheme)) text
  fragment : ∀ text, url.fragment = some text → IsEncoded fragmentSet text

section Reading

variable {scheme text : List Char} {url : Url}

structure HasTail (special : Bool) (url : Url) : Prop where
  query : ∃ text, url.query = readQuery special text
  fragment : ∃ text, url.fragment = readFragment text

theorem HasTail.isEncoded {special : Bool} (read : url.HasTail special) :
    (∀ text, url.query = some text → IsEncoded (querySet special) text) ∧
      ∀ text, url.fragment = some text → IsEncoded fragmentSet text := by
  obtain ⟨⟨query, same⟩, ⟨fragment, also⟩⟩ := read
  constructor
  · intro text found
    rw [same] at found
    obtain ⟨old, _, rfl⟩ := Option.map_eq_some_iff.mp found
    exact isEncoded_query special old
  · intro text found
    rw [also] at found
    obtain ⟨old, _, rfl⟩ := Option.map_eq_some_iff.mp found
    exact isEncoded_fragment old

theorem isNamed_of_readAuthority (made : readAuthority scheme text = .ok url) :
    url.scheme = scheme ∧ url.IsNamed ∧ url.HasTail (isSpecial scheme) := by
  have rooted := rooted_of_readAuthority made
  have same := rooted.scheme
  rw [← same] at rooted
  simp only [readAuthority, bind, Except.bind] at made
  split at made
  next => cases made
  next =>
    split at made
    next => cases made
    next =>
      split at made
      next => cases made
      next host read =>
        split at made
        next => cases made
        next unnumbered =>
          split at made
          next => cases made
          next found numbered =>
            split at made
            next => cases made
            next unguarded =>
              cases made
              refine ⟨rfl, ⟨rooted, isEncoded_user _, isEncoded_user _, ?_⟩, ⟨_, rfl⟩, ⟨_, rfl⟩⟩
              intro nameless
              have empty := Option.some.inj nameless
              obtain ⟨noName, noPassword⟩ := not_or.mp (not_and.mp unguarded empty)
              refine ⟨?_, Decidable.not_not.mp noName, Decidable.not_not.mp noPassword⟩
              have nothing := Option.not_isSome_iff_eq_none.mp (not_and.mp unnumbered empty)
              rw [nothing] at numbered
              cases numbered
              rfl

/-- The path of a file has a first segment, which is not left empty in front of others. -/
theorem readFilePath_spec (text : List Char) : ∃ first rest,
    readFilePath text = first :: rest ∧ (∀ segment ∈ first :: rest, IsSegment true segment) ∧
      (first = [] → rest = []) := by
  simp only [readFilePath]
  generalize cuts : cutSegments true _ = parts
  split
  next => exact ⟨[], [], rfl, List.forall_mem_singleton.mpr isSegment_nil, fun _ => rfl⟩
  next kept some =>
    obtain ⟨first, rest, starts⟩ := List.exists_cons_of_ne_nil some
    refine ⟨first, rest, starts, ?_, ?_⟩
    · intro segment inside
      rw [← starts] at inside
      rcases mem_of_mem_settle ((List.dropWhile_suffix _).subset inside) with
        rfl | nothing | ⟨among, notDouble, notSingle⟩
      · exact isSegment_nil
      · cases nothing
      · obtain ⟨old, cut, rfl⟩ := List.mem_map.mp among
        rw [← cuts] at cut
        exact isSegment_encodeText (not_slash_of_cutSegments cut) notDouble notSingle
    · rintro rfl
      have filled := List.head?_dropWhile_not (fun segment : List Char => decide (segment = []))
        (settle true [] (parts.map (encodeText pathSet)))
      rw [starts] at filled
      simp at filled

theorem isFile_of_parts {host : Host} {text : List Char}
    (bare : url.username = [] ∧ url.password = [] ∧ url.port = none)
    (known : host = .empty ∨
      host ≠ .domain "localhost".toList ∧ ∃ text, readHost true text = .ok host)
    (path : url.path = .segments (readFilePath text))
    (placed : url.host = some (if (readFilePath text).head?.any isDrive then .empty else host)) :
    url.IsFile := by
  obtain ⟨first, rest, same, written, leads⟩ := readFilePath_spec text
  rw [same] at path placed
  rw [List.head?_cons, Option.any_some] at placed
  refine ⟨bare, ⟨_, placed, ?_⟩, first, rest, path, written, leads, fun drive => ?_⟩
  · split
    · exact .inl rfl
    · exact known
  · rw [placed, if_pos drive]

theorem isFile_of_readFile (made : readFile scheme text = .ok url) :
    url.scheme = scheme ∧ url.IsFile ∧ url.HasTail true := by
  simp only [readFile, bind, Except.bind] at made
  split at made
  next =>
    split at made
    next =>
      split at made
      next =>
        cases made
        exact ⟨rfl, isFile_of_parts ⟨rfl, rfl, rfl⟩ (.inl rfl) rfl rfl, ⟨_, rfl⟩, ⟨_, rfl⟩⟩
      next =>
        split at made
        next =>
          cases made
          exact ⟨rfl, isFile_of_parts ⟨rfl, rfl, rfl⟩ (.inl rfl) rfl rfl, ⟨_, rfl⟩, ⟨_, rfl⟩⟩
        next =>
          split at made
          next => cases made
          next host read =>
            cases made
            refine ⟨rfl, isFile_of_parts ⟨rfl, rfl, rfl⟩ ?_ rfl rfl, ⟨_, rfl⟩, ⟨_, rfl⟩⟩
            split
            next => exact .inl rfl
            next foreign => exact .inr ⟨foreign, _, read⟩
    next =>
      cases made
      exact ⟨rfl, isFile_of_parts ⟨rfl, rfl, rfl⟩ (.inl rfl) rfl rfl, ⟨_, rfl⟩, ⟨_, rfl⟩⟩
  next =>
    cases made
    exact ⟨rfl, isFile_of_parts ⟨rfl, rfl, rfl⟩ (.inl rfl) rfl rfl, ⟨_, rfl⟩, ⟨_, rfl⟩⟩

theorem mem_cut {text : List Char} : ∀ char ∈ (cut text).path, char ≠ '#' ∧ char ≠ '?' := by
  intro char inside
  obtain ⟨notQuery, before⟩ := mem_cutFirst inside
  exact ⟨(mem_cutFirst before).1, notQuery⟩

theorem isRootless_readRootless (scheme text : List Char) :
    (readRootless scheme text).IsRootless ∧ (readRootless scheme text).HasTail false := by
  refine ⟨⟨⟨rfl, rfl, rfl, rfl⟩, ?_⟩, ⟨_, rfl⟩, ⟨_, rfl⟩⟩
  simp only [readRootless]
  split
  next rest _ =>
    obtain ⟨first, others, same, written⟩ := isSegment_of_settle false rest
    exact .inl ⟨first, others, congrArg UrlPath.segments same, written⟩
  next free =>
    refine .inr ⟨_, rfl, isEncoded_control _, ?_, ?_⟩
    · intro char inside
      rcases mem_encodeText inside with sign | ⟨old, _⟩
      · have signs : ∀ char ∈ signs, char ≠ '#' ∧ char ≠ '?' :=
          List.all_iff_forall_prop.mp (by decide)
        exact signs char sign
      · exact mem_cut char old
    · intro rest same
      rcases head_encodeText same with sign | ⟨others, begins⟩
      · exact absurd sign (by decide)
      · exact free others begins

/-- A text is read as a URL of one of the kinds, and its scheme says of which. -/
theorem cases_of_parse (made : parse text = .ok url) : ∃ scheme rest,
    splitScheme? (clean text) = some (scheme, rest) ∧
      ((scheme = "file".toList ∧ readFile scheme rest = .ok url) ∨
        (scheme ≠ "file".toList ∧ ∃ after, readAuthority scheme after = .ok url) ∨
        isSpecial scheme = false ∧ readRootless scheme rest = url) := by
  unfold parse at made
  split at made
  next => cases made
  next scheme rest split' =>
    refine ⟨scheme, rest, split', ?_⟩
    split at made
    next file => exact .inl ⟨file, made⟩
    next other =>
      split at made
      next => exact .inr (.inl ⟨other, _, made⟩)
      next plain =>
        split at made
        next => exact .inr (.inl ⟨other, _, made⟩)
        next =>
          cases made
          exact .inr (.inr ⟨Bool.eq_false_iff.mpr plain, rfl⟩)

/-- Whatever it was read from, a URL is written. -/
theorem isWritten_of_parse (made : parse text = .ok url) : url.IsWritten := by
  obtain ⟨scheme, rest, found, kinds⟩ := cases_of_parse made
  have known := isScheme_of_splitScheme? found
  rcases kinds with ⟨file, read⟩ | ⟨other, after, read⟩ | ⟨plain, read⟩
  · obtain ⟨same, isFile, tail⟩ := isFile_of_readFile read
    have special : isSpecial url.scheme = true := by
      rw [same, file]
      decide
    rw [← special] at tail
    rw [← same] at known file
    exact ⟨known, .file file isFile, tail.isEncoded.1, tail.isEncoded.2⟩
  · obtain ⟨same, named, tail⟩ := isNamed_of_readAuthority read
    rw [← same] at known other tail
    exact ⟨known, .named other named, tail.isEncoded.1, tail.isEncoded.2⟩
  · obtain ⟨rootless, tail⟩ := isRootless_readRootless scheme rest
    have same : url.scheme = scheme := by
      rw [← read]
      rfl
    rw [read] at rootless tail
    rw [← same] at known plain
    rw [← plain] at tail
    exact ⟨known, .rootless plain rootless, tail.isEncoded.1, tail.isEncoded.2⟩

end Reading

end Url

end LoginGateway
