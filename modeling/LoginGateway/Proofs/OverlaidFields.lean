import LoginGateway.Proofs.OrderedDocuments

/-! An entry laid over a map of settings. It sets its field and leaves the others as they
are, unless another key of the map names the same field: then the field is there twice, and
nothing is read. -/

namespace LoginGateway.Settings.Form

variable {α β : Type} {form : Form α} {name key : String} {read : Document → Reading β}
  {assign : β → α → α} {origin lower upper : Origin} {seen : List String} {start record : α}
  {entries front back : List (String × Document)} {document : Document}

theorem readEntries_append (origin : Origin) (seen : List String) (record : α)
    (front back : List (String × Document)) :
    form.readEntries origin seen record (front ++ back) =
      (form.readEntries origin seen record front).bind fun (record, seen) =>
        form.readEntries origin seen record back := by
  induction front generalizing seen record with
  | nil => rfl
  | cons entry rest ih =>
    rw [List.cons_append, readEntries, readEntries]
    split
    · exact ih seen record
    · split
      · rfl
      · cases (form.set record (form.field entry.1) entry.2).mapError (Mistake.below entry.1) with
        | error mistake => rfl
        | ok next => exact ih (form.field entry.1 :: seen) next

/-- The ways in which an entry is read: it is passed over, or it sets a field that was not
set before. -/
theorem readEntries_cons_iff {entry : String × Document} {result : α × List String} :
    form.readEntries origin seen record (entry :: entries) = .ok result ↔
      (form.field entry.1 ∉ form.fields ∧
        form.readEntries origin seen record entries = .ok result) ∨
      (form.field entry.1 ∈ form.fields ∧ form.field entry.1 ∉ seen ∧
        ∃ next, form.set record (form.field entry.1) entry.2 = .ok next ∧
          form.readEntries origin (form.field entry.1 :: seen) next entries = .ok result) := by
  rw [readEntries]
  by_cases known : form.field entry.1 ∈ form.fields
  · by_cases unseen : form.field entry.1 ∈ seen
    · simp [known, unseen]
    · have listed : form.fields.contains (form.field entry.1) = true := List.contains_iff_mem.mpr known
      have fresh : seen.contains (form.field entry.1) = false := by simpa using unseen
      simp only [listed, fresh]
      cases set : form.set record (form.field entry.1) entry.2 with
      | error mistake =>
        change Except.error (mistake.below entry.1) = .ok result ↔ _
        simp [known]
      | ok next =>
        change form.readEntries origin (form.field entry.1 :: seen) next entries = .ok result ↔ _
        simp [known, unseen]
  · simp [known]

theorem readEntries_of_field {value : Document} {rest : List (String × Document)}
    (named : form.field key = name) (known : name ∈ form.fields) (unseen : name ∉ seen) :
    form.readEntries origin seen record ((key, value) :: rest) =
      ((form.set record name value).mapError (.below key)).bind fun record =>
        form.readEntries origin (name :: seen) record rest := by
  subst named
  have listed : form.fields.contains (form.field key) = true := List.contains_iff_mem.mpr known
  have fresh : seen.contains (form.field key) = false := by simpa using unseen
  simp only [readEntries, listed, fresh]
  rfl

theorem readEntries_of_seen {value : Document} {rest : List (String × Document)}
    (named : form.field key = name) (known : name ∈ form.fields) (twice : name ∈ seen) :
    form.readEntries origin seen record ((key, value) :: rest) =
      .error ⟨.duplicate name, origin, []⟩ := by
  subst named
  simp [readEntries, known, twice]

/-- Where the entries come from matters for mistakes only. -/
theorem readEntries_origin (upper : Origin) {result : α × List String}
    (held : form.readEntries lower seen start entries = .ok result) :
    form.readEntries upper seen start entries = .ok result := by
  induction entries generalizing seen start with
  | nil => exact held
  | cons entry rest ih =>
    rw [readEntries_cons_iff] at held ⊢
    rcases held with ⟨unknown, later⟩ | ⟨known, unseen, next, set, later⟩
    · exact .inl ⟨unknown, ih later⟩
    · exact .inr ⟨known, unseen, next, set, ih later⟩

theorem mem_seen_iff {last : List String} (known : name ∈ form.fields)
    (held : form.readEntries origin seen start entries = .ok (record, last)) :
    name ∈ last ↔ name ∈ seen ∨ name ∈ entries.map (form.field ·.1) := by
  induction entries generalizing seen start with
  | nil =>
    cases held
    simp
  | cons entry rest ih =>
    rcases readEntries_cons_iff.mp held with ⟨unknown, later⟩ | ⟨_, _, next, _, later⟩
    · have other : name ≠ form.field entry.1 := by
        rintro rfl
        exact unknown known
      simp [ih later, other]
    · simp only [ih later, List.map_cons, List.mem_cons, or_assoc, or_left_comm]

/-- A field of a form: how it is read, and what it sets apart from all other fields. -/
structure IsField (form : Form α) (name : String) (read : Document → Reading β)
    (assign : β → α → α) : Prop where
  known : name ∈ form.fields
  set : ∀ record document, form.set record name document = (read document).map (assign · record)
  apart : ∀ record value other document, other ≠ name →
    form.set (assign value record) other document =
      (form.set record other document).map (assign value)
  again : ∀ record first second, assign second (assign first record) = assign second record

/-- A field that no entry names can be set before the entries are read as well as after. -/
theorem IsField.readEntries_assign (isField : form.IsField name read assign) (value : β)
    {other : List String} (same : ∀ field, field ≠ name → (field ∈ other ↔ field ∈ seen))
    (unnamed : name ∉ entries.map (form.field ·.1)) :
    (form.readEntries origin other (assign value start) entries).map (·.1) =
      (form.readEntries origin seen start entries).map (assign value ·.1) := by
  induction entries generalizing seen other start with
  | nil => rfl
  | cons entry rest ih =>
    rw [List.map_cons, List.mem_cons, not_or] at unnamed
    obtain ⟨here, later⟩ := unnamed
    rw [readEntries, readEntries]
    split
    next => exact ih same later
    next =>
      have seenSame : other.contains (form.field entry.1) = seen.contains (form.field entry.1) := by
        simp [same _ (Ne.symm here)]
      simp only [seenSame, isField.apart _ _ _ _ (Ne.symm here)]
      split
      next => rfl
      next =>
        cases form.set start (form.field entry.1) entry.2 with
        | error mistake => rfl
        | ok next =>
          -- The two readings go on to differ in whether the field itself was seen, and nothing asks.
          apply ih _ later
          intro field apart
          simp only [List.mem_cons, same field apart]

/-- What is read over an entry that sets a field differs from what is read without it in
this field only. -/
theorem IsField.readEntries_held (isField : form.IsField name read assign)
    (named : form.field key = name) (unseen : name ∉ seen) {held : Option Document}
    (found : (form.readEntries origin seen start ((held.map (key, ·)).toList ++ back)).map (·.1) =
      .ok record) :
    ∃ after between, (∀ field, field ≠ name → (field ∈ after ↔ field ∈ seen)) ∧
      (∀ value, assign value between = assign value start) ∧
      (form.readEntries origin after between back).map (·.1) = .ok record := by
  cases held with
  | none => exact ⟨seen, start, fun _ _ => Iff.rfl, fun _ => rfl, found⟩
  | some document =>
    rw [Option.map_some, Option.toList_some, List.singleton_append,
      readEntries_of_field named isField.known unseen, isField.set] at found
    cases first : read document with
    | error mistake =>
      rw [first] at found
      cases found
    | ok value =>
      rw [first] at found
      refine ⟨name :: seen, assign value start, ?_, fun other => isField.again start value other, found⟩
      intro field apart
      simp [apart]

theorem IsField.read_cut (isField : form.IsField name read assign) (named : form.field key = name)
    (unnamed : name ∉ (front ++ back).map (form.field ·.1)) {held : Option Document}
    (found : (form.readEntries lower [] start (front ++ (held.map (key, ·)).toList ++ back)).map (·.1) =
      .ok record) :
    (form.readEntries upper [] start (front ++ (key, document) :: back)).map (·.1) =
      ((read document).mapError (.below key)).map (assign · record) := by
  rw [List.map_append, List.mem_append, not_or] at unnamed
  obtain ⟨before, behind⟩ := unnamed
  rw [List.append_assoc, readEntries_append] at found
  cases first : form.readEntries lower [] start front with
  | error mistake =>
    rw [first] at found
    cases found
  | ok reached =>
    obtain ⟨between, seen⟩ := reached
    have unseen : name ∉ seen := by simp [mem_seen_iff isField.known first, before]
    rw [first] at found
    obtain ⟨after, last, same, like, rest⟩ := isField.readEntries_held named unseen found
    rw [readEntries_append, readEntries_origin upper first]
    simp only [Except.bind]
    rw [readEntries_of_field named isField.known unseen, isField.set]
    cases read document with
    | error mistake => rfl
    | ok value =>
      cases later : form.readEntries lower after last back with
      | error mistake =>
        rw [later] at rest
        cases rest
      | ok result =>
        rw [later] at rest
        cases rest
        -- What the old entry set is assigned anew, so only the entries behind it are left to compare.
        change (form.readEntries upper (name :: seen) (assign value between) back).map (·.1) = _
        have alike : ∀ field, field ≠ name → (field ∈ name :: seen ↔ field ∈ after) := by
          intro field apart
          simp [apart, same field apart]
        rw [← like value, isField.readEntries_assign value alike behind, readEntries_origin upper later]
        rfl

theorem IsField.read_overlaid (isField : form.IsField name read assign) (upper : Origin)
    (document : Document) (rising : Document.IsRising entries) (named : form.field key = name)
    (only : ∀ entry ∈ entries, form.field entry.1 = name → entry.1 = key)
    (found : (form.read start (.map lower entries)).map (·.1) = .ok record) :
    (form.read start (.map upper (Document.insertEntry key document entries))).map (·.1) =
      ((read document).mapError (.below key)).map (assign · record) := by
  obtain ⟨front, back, cut⟩ := Document.exists_cut rising key
  have unnamed : name ∉ (front ++ back).map (form.field ·.1) := by
    intro inside
    obtain ⟨entry, among, names⟩ := List.mem_map.mp inside
    rcases List.mem_append.mp among with before | behind
    · have same := only entry (cut.mem_iff.mpr (.inl before)) names
      exact String.lt_irrefl key (same ▸ cut.below entry before)
    · have same := only entry (cut.mem_iff.mpr (.inr (.inr behind))) names
      exact String.lt_irrefl key (same ▸ cut.above entry behind)
  rw [cut.inserted]
  apply isField.read_cut named unnamed
  rw [← cut.whole]
  exact found

theorem IsField.read_held (isField : form.IsField name read assign)
    (rising : Document.IsRising entries) (named : form.field key = name)
    (only : ∀ entry ∈ entries, form.field entry.1 = name → entry.1 = key)
    (inside : (key, document) ∈ entries)
    (found : (form.read start (.map lower entries)).map (·.1) = .ok record) :
    ∃ value, read document = .ok value ∧ assign value record = record := by
  have again := isField.read_overlaid lower document rising named only found
  rw [Document.insertEntry_of_mem rising inside, found] at again
  cases held : read document with
  | error mistake =>
    rw [held] at again
    cases again
  | ok value =>
    rw [held] at again
    exact ⟨value, rfl, (Except.ok.inj again).symm⟩

/-- A key that is laid over a map in which a smaller key names the same field makes the
field appear twice. -/
theorem IsField.read_duplicate (isField : form.IsField name read assign) (upper : Origin)
    (rising : Document.IsRising entries) (named : form.field key = name)
    {entry : String × Document} (inside : entry ∈ entries) (other : form.field entry.1 = name)
    (smaller : entry.1 < key)
    (found : (form.read start (.map lower entries)).map (·.1) = .ok record) :
    form.read start (.map upper (Document.insertEntry key document entries)) =
      .error ⟨.duplicate name, upper, []⟩ := by
  obtain ⟨front, back, cut⟩ := Document.exists_cut rising key
  -- The smaller key has set the field by the time the larger one is read.
  have before : entry ∈ front := by
    rcases cut.mem_iff.mp inside with front | here | back
    · exact front
    · exact (String.lt_irrefl key (here.1 ▸ smaller)).elim
    · exact (String.lt_irrefl key (String.lt_trans (cut.above entry back) smaller)).elim
  rw [Form.read, cut.whole, List.append_assoc, readEntries_append] at found
  rw [Form.read, cut.inserted, readEntries_append]
  cases first : form.readEntries lower [] start front with
  | error mistake =>
    rw [first] at found
    cases found
  | ok reached =>
    have seen : name ∈ reached.2 :=
      (mem_seen_iff isField.known first).mpr (.inr (List.mem_map.mpr ⟨entry, before, other⟩))
    rw [readEntries_origin upper first]
    exact readEntries_of_seen named isField.known seen

end LoginGateway.Settings.Form
