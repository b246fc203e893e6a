import LoginGateway.Settings.Load

/-! Documents are in order: the entries of every map that is read from a file rise by their
keys, so that no key stands in a map twice and an entry that is laid over a map has one place
in it. -/

namespace LoginGateway

theorem mapError_eq_ok {α ε δ : Type} {first : Except ε α} {told : ε → δ} {result : α} :
    first.mapError told = .ok result ↔ first = .ok result := by
  cases first with
  | error fault => constructor <;> nofun
  | ok value =>
    constructor <;> intro same <;> cases same <;> rfl

theorem map_eq_ok {ε α β : Type} {first : Except ε α} {make : α → β} {result : β} :
    first.map make = .ok result ↔ ∃ value, first = .ok value ∧ make value = result := by
  cases first with
  | error fault => simp [Except.map]
  | ok value => simp [Except.map]

namespace Document

variable {key : String} {value : Document} {entries front back : List (String × Document)}

/-- Entries that rise by their keys. -/
def IsRising (entries : List (String × Document)) : Prop :=
  entries.Pairwise fun first second => first.1 < second.1

/-- A list of entries cut at a key: what stands before the key and behind it, apart from the
entry of the key itself if there is one. -/
structure Cut (key : String) (entries front back : List (String × Document)) : Prop where
  whole : entries = front ++ ((entries.lookup key).map (key, ·)).toList ++ back
  inserted : ∀ value, insertEntry key value entries = front ++ (key, value) :: back
  below : ∀ entry ∈ front, entry.1 < key
  above : ∀ entry ∈ back, key < entry.1

theorem Cut.mem_iff (cut : Cut key entries front back) {entry : String × Document} :
    entry ∈ entries ↔
      entry ∈ front ∨ (entry.1 = key ∧ entries.lookup key = some entry.2) ∨ entry ∈ back := by
  have split : entry ∈ entries ↔
      entry ∈ front ++ ((entries.lookup key).map (key, ·)).toList ++ back := by rw [← cut.whole]
  have held : (entries.lookup key).map (key, ·) = some entry ↔
      entry.1 = key ∧ entries.lookup key = some entry.2 := by
    obtain ⟨other, value⟩ := entry
    constructor
    · intro here
      obtain ⟨held, found, same⟩ := Option.map_eq_some_iff.mp here
      cases same
      exact ⟨rfl, found⟩
    · rintro ⟨rfl, found⟩
      rw [found]
      rfl
  rw [split, List.append_assoc, List.mem_append, List.mem_append, Option.mem_toList, held]

theorem lookup_cons_self (key : String) (value : Document) (entries : List (String × Document)) :
    ((key, value) :: entries).lookup key = some value := by
  simp

theorem lookup_cons_other {entry : String × Document} (other : entry.1 ≠ key) :
    (entry :: entries).lookup key = entries.lookup key := by
  rw [List.lookup_cons, beq_false_of_ne (Ne.symm other)]

theorem lookup_of_above (above : ∀ entry ∈ entries, key < entry.1) : entries.lookup key = none := by
  rw [List.lookup_eq_none_iff]
  intro entry inside
  exact bne_iff_ne.mpr fun same => String.lt_irrefl key (same ▸ above entry inside)

theorem exists_cut (rising : IsRising entries) (key : String) :
    ∃ front back, Cut key entries front back := by
  induction entries with
  | nil => exact ⟨[], [], rfl, fun _ => rfl, nofun, nofun⟩
  | cons entry rest ih =>
    obtain ⟨above, tail⟩ := List.pairwise_cons.mp rising
    by_cases less : key < entry.1
    · have later : ∀ other ∈ entry :: rest, key < other.1 := List.forall_mem_cons.mpr
        ⟨less, fun other inside => String.lt_trans less (above other inside)⟩
      refine ⟨[], entry :: rest, ?_, ?_, nofun, later⟩
      · rw [lookup_of_above later]
        rfl
      · intro value
        rw [insertEntry, if_pos less]
        rfl
    · by_cases same : key = entry.1
      · subst same
        refine ⟨[], rest, ?_, ?_, nofun, above⟩
        · rw [lookup_cons_self]
          rfl
        · intro value
          rw [insertEntry, if_neg less, if_pos rfl]
          rfl
      · obtain ⟨front, back, cut⟩ := ih tail
        have smaller : entry.1 < key := Std.lt_of_le_of_ne (Std.not_lt.mp less) (Ne.symm same)
        refine ⟨entry :: front, back, ?_, ?_, List.forall_mem_cons.mpr ⟨smaller, cut.below⟩, cut.above⟩
        · rw [lookup_cons_other (Ne.symm same), List.cons_append, List.cons_append, ← cut.whole]
        · intro value
          rw [insertEntry, if_neg less, if_neg same, cut.inserted value]
          rfl

theorem rising_insertEntry (rising : IsRising entries) (key : String) (value : Document) :
    IsRising (insertEntry key value entries) := by
  obtain ⟨front, back, cut⟩ := exists_cut rising key
  rw [IsRising, cut.whole] at rising
  rw [IsRising, cut.inserted, List.pairwise_append, List.pairwise_cons]
  obtain ⟨first, last, _⟩ := List.pairwise_append.mp rising
  refine ⟨(List.pairwise_append.mp first).1, ⟨cut.above, last⟩, ?_⟩
  intro entry inside other among
  rcases List.mem_cons.mp among with rfl | later
  · exact cut.below entry inside
  · exact String.lt_trans (cut.below entry inside) (cut.above other later)

theorem mem_insertEntry {entry : String × Document} (rising : IsRising entries)
    (inside : entry ∈ insertEntry key value entries) : entry = (key, value) ∨ entry ∈ entries := by
  obtain ⟨front, back, cut⟩ := exists_cut rising key
  rw [cut.inserted, List.mem_append, List.mem_cons] at inside
  rw [cut.mem_iff]
  rcases inside with before | same | behind
  · exact .inr (.inl before)
  · exact .inl same
  · exact .inr (.inr (.inr behind))

theorem lookup_of_mem (rising : IsRising entries) (inside : (key, value) ∈ entries) :
    entries.lookup key = some value := by
  obtain ⟨front, back, cut⟩ := exists_cut rising key
  rcases cut.mem_iff.mp inside with before | here | behind
  · exact (String.lt_irrefl key (cut.below _ before)).elim
  · exact here.2
  · exact (String.lt_irrefl key (cut.above _ behind)).elim

/-- An entry that stands among others already changes nothing. -/
theorem insertEntry_of_mem (rising : IsRising entries) (inside : (key, value) ∈ entries) :
    insertEntry key value entries = entries := by
  obtain ⟨front, back, cut⟩ := exists_cut rising key
  have whole := cut.whole
  rw [lookup_of_mem rising inside, List.append_assoc] at whole
  rw [cut.inserted]
  exact whole.symm

/-- A document all of whose maps are in order. -/
inductive IsOrdered : Document → Prop where
  | scalar (origin : Origin) (value : Scalar) : IsOrdered (.scalar origin value)
  | list {origin : Origin} {items : List Document} (parts : ∀ item ∈ items, IsOrdered item) :
      IsOrdered (.list origin items)
  | map {origin : Origin} {entries : List (String × Document)} (rising : IsRising entries)
      (parts : ∀ entry ∈ entries, IsOrdered entry.2) : IsOrdered (.map origin entries)

theorem isOrdered_ofEntries {origin : Origin} (parts : ∀ entry ∈ entries, IsOrdered entry.2) :
    IsOrdered (ofEntries origin entries) := by
  -- The fold goes on from entries that are in order already, not from none.
  have placed : ∀ {sorted : List (String × Document)}, IsRising sorted →
      (∀ entry ∈ sorted, IsOrdered entry.2) → IsOrdered (.map origin
        (entries.foldl (fun sorted entry => insertEntry entry.1 entry.2 sorted) sorted)) := by
    induction entries with
    | nil => exact fun rising held => .map rising held
    | cons entry rest ih =>
      obtain ⟨here, later⟩ := List.forall_mem_cons.mp parts
      intro sorted rising held
      apply ih later (rising_insertEntry rising entry.1 entry.2)
      intro other inside
      rcases mem_insertEntry rising inside with rfl | among
      · exact here
      · exact held other among
  exact placed .nil nofun

mutual

theorem isOrdered_ofJson (origin : Origin) : (value : Json.Value) → IsOrdered (ofJson origin value)
  | .null => .scalar origin .unit
  | .bool value => .scalar origin (.bool value)
  | .number (.natural value) => .scalar origin (.natural value)
  | .number (.negative value) => .scalar origin (.negative value)
  | .number (.double value) => .scalar origin (.double value)
  | .string value => .scalar origin (.text value)
  | .list items => by
    rw [ofJson]
    exact .list (isOrdered_ofJsonList origin items)
  | .object members => by
    rw [ofJson]
    exact isOrdered_ofEntries (isOrdered_ofJsonMembers origin members)

theorem isOrdered_ofJsonList (origin : Origin) :
    (items : List Json.Value) → ∀ item ∈ ofJsonList origin items, IsOrdered item
  | [] => nofun
  | item :: rest => List.forall_mem_cons.mpr
    ⟨isOrdered_ofJson origin item, isOrdered_ofJsonList origin rest⟩

theorem isOrdered_ofJsonMembers (origin : Origin) :
    (members : List (String × Json.Value)) →
      ∀ entry ∈ ofJsonMembers origin members, IsOrdered entry.2
  | [] => nofun
  | (_, value) :: rest => List.forall_mem_cons.mpr
    ⟨isOrdered_ofJson origin value, isOrdered_ofJsonMembers origin rest⟩

end

end Document

namespace Yaml

open Document

/-- Whatever is read, if anything is, has a property. -/
structure Yields {α : Type} (holds : α → Prop) (reading : Following α) : Prop where
  of_ok : ∀ count result after, reading count = .ok (result, after) → holds result

theorem yields_pure {α : Type} {holds : α → Prop} {result : α} (here : holds result) :
    Yields holds (pure result) := by
  refine ⟨fun count other after read => ?_⟩
  cases read
  exact here

theorem yields_throw {α : Type} (holds : α → Prop) (fault : Fault) : Yields holds (throw fault) := by
  refine ⟨fun count other after read => ?_⟩
  cases read

theorem yields_bind_of {α β : Type} {between : α → Prop} {holds : β → Prop} {first : Following α}
    {next : α → Following β} (start : Yields between first)
    (each : ∀ result, between result → Yields holds (next result)) :
    Yields holds (first >>= next) := by
  refine ⟨fun count result after read => ?_⟩
  change (first count).bind (fun (value, after) => next value after) = _ at read
  cases taken : first count with
  | error fault =>
    rw [taken] at read
    cases read
  | ok pair =>
    rw [taken] at read
    exact (each pair.1 (start.of_ok count pair.1 pair.2 taken)).of_ok pair.2 result after read

theorem yields_bind {α β : Type} {holds : β → Prop} {first : Following α} {next : α → Following β}
    (each : ∀ result, Yields holds (next result)) : Yields holds (first >>= next) := by
  have anything : Yields (fun _ => True) first := ⟨fun _ _ _ _ => trivial⟩
  exact yields_bind_of anything fun result _ => each result

theorem yields_unless {α : Type} {holds : α → Prop} {refused : Prop} [Decidable refused] (fault : Fault)
    {next : PUnit → Following α} (rest : Yields holds (next ⟨⟩)) :
    Yields holds (if refused then throw fault >>= next else next ⟨⟩) := by
  split
  · exact yields_bind_of (yields_throw (fun _ => False) fault) fun _ never => never.elim
  · exact rest

variable {origin : Origin} {aliases : Aliases} {read : String → Node → Following Document}

theorem ordered_readItems (each : ∀ path node, Yields IsOrdered (read path node)) (path : String)
    (place : Nat) (items : List Node) :
    Yields (fun documents => ∀ item ∈ documents, IsOrdered item) (readItems read path place items) := by
  induction items generalizing place with
  | nil => exact yields_pure nofun
  | cons item rest ih =>
    rw [readItems]
    apply yields_bind_of (each _ item)
    intro value here
    apply yields_bind_of (ih (place + 1))
    intro values later
    apply yields_pure
    exact List.forall_mem_cons.mpr ⟨here, later⟩

theorem ordered_readEntries (each : ∀ path node, Yields IsOrdered (read path node)) (path : String)
    (entries : List (Node × Node)) :
    Yields (fun entries => ∀ entry ∈ entries, IsOrdered entry.2)
      (readEntries aliases read path entries) := by
  induction entries with
  | nil => exact yields_pure nofun
  | cons entry rest ih =>
    rw [readEntries]
    apply yields_bind
    intro key
    apply yields_bind
    intro name
    apply yields_bind_of (each _ entry.2)
    intro value here
    apply yields_bind_of ih
    intro values later
    apply yields_pure
    exact List.forall_mem_cons.mpr ⟨here, later⟩

theorem ordered_readScalar (tag : Option (List Char)) (text : List Char) (plain : Bool) (mark : Mark)
    (path : String) : Yields IsOrdered
      (match meaning tag text plain with
      | .ok value => pure (.scalar origin value)
      | .error problem => throw (.value problem mark path)) := by
  split
  · exact yields_pure (.scalar origin _)
  · exact yields_throw IsOrdered _

theorem ordered_readValue (depth : Nat) (path : String) (node : Node) :
    Yields IsOrdered (readValue origin aliases depth path node) := by
  induction depth generalizing path node with
  | zero =>
    rw [readValue]
    apply yields_bind
    intro found
    cases found with
    | cut fault => exact yields_throw IsOrdered fault
    | «alias» anchor => exact yields_throw IsOrdered .repetition
    | scalar mark tag text plain => exact yields_unless _ (ordered_readScalar tag text plain mark path)
    | list mark tag items => exact yields_unless _ (yields_throw IsOrdered _)
    | map mark tag entries => exact yields_unless _ (yields_throw IsOrdered _)
  | succ depth ih =>
    rw [readValue]
    apply yields_bind
    intro found
    cases found with
    | cut fault => exact yields_throw IsOrdered fault
    | «alias» anchor => exact yields_throw IsOrdered .repetition
    | scalar mark tag text plain => exact yields_unless _ (ordered_readScalar tag text plain mark path)
    | list mark tag items =>
      apply yields_unless
      apply yields_bind_of (ordered_readItems ih path 0 items)
      intro documents parts
      exact yields_pure (.list parts)
    | map mark tag entries =>
      apply yields_unless
      apply yields_bind_of (ordered_readEntries ih path entries)
      intro values parts
      exact yields_pure (isOrdered_ofEntries parts)

theorem ordered_readRoot (root : Node) : Yields IsOrdered (readRoot origin aliases root) := by
  cases root with
  | cut fault => exact yields_throw IsOrdered fault
  | «alias» anchor => exact yields_throw IsOrdered .repetition
  | list mark tag items => exact yields_throw IsOrdered _
  | scalar mark tag text plain =>
    rw [readRoot]
    split
    · exact yields_pure (.map .nil nofun)
    · exact yields_throw IsOrdered _
  | map mark tag entries =>
    rw [readRoot]
    apply yields_bind_of (ordered_readEntries (ordered_readValue _) "" entries)
    intro values parts
    exact yields_pure (isOrdered_ofEntries parts)

theorem Yields.of_run' {α : Type} {holds : α → Prop} {reading : Following α} {count : Nat} {result : α}
    (yields : Yields holds reading) (read : reading.run' count = .ok result) : holds result := by
  change (reading count).map (·.1) = _ at read
  cases taken : reading count with
  | error fault =>
    rw [taken] at read
    cases read
  | ok pair =>
    rw [taken] at read
    cases read
    exact yields.of_ok count pair.1 pair.2 taken

theorem ordered_parse {text : List Char} {document : Document}
    (read : parse origin text = .ok document) : IsOrdered document := by
  unfold parse at read
  split at read
  next =>
    cases read
    exact .map .nil nofun
  next tree _ =>
    split at read
    next => cases read
    next => cases read
    next found _ =>
      cases read
      exact (ordered_readRoot tree.root).of_run' found

end Yaml

namespace Settings

open Document

theorem ordered_sourceDocument {origin : Origin} {json : Bool} {source : Octets} {document : Document}
    (read : sourceDocument origin json source = .ok document) : IsOrdered document := by
  unfold sourceDocument at read
  split at read
  next => cases read
  next text _ =>
    split at read
    next =>
      simp only [jsonDocument] at read
      split at read
      next value _ =>
        cases read
        exact isOrdered_ofJson origin value
      next => cases read
    next => exact Yaml.ordered_parse (mapError_eq_ok.mp read)

theorem ordered_fileDocument {files : Files} {path : String} {document : Document}
    (found : fileDocument files path = .ok document) : IsOrdered document := by
  unfold fileDocument at found
  split at found
  next => cases found
  next =>
    cases found
    exact .map .nil nofun
  next => exact ordered_sourceDocument (mapError_eq_ok.mp found)

end Settings

end LoginGateway
