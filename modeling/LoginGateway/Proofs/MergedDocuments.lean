import LoginGateway.Proofs.OrderedDocuments
import LoginGateway.Proofs.VariableValues
import Mathlib.Data.List.Induction

/-! Documents laid over one another. Entries in order are known by what stands at each key,
and what stands at a key of two maps that are joined depends on what stands there in each of
them. So it does not matter whether an entry is put into the upper map before it is joined
with the lower one or afterwards. -/

namespace LoginGateway.Document

variable {key : String} {value : Document} {entries lower upper : List (String × Document)}

/-- What stands at a key when a value is laid over what may be there. -/
def overlay (below : Option Document) (value : Document) : Document :=
  match below with
  | some below => below.merge value
  | none => value

theorem find?_key (entries : List (String × Document)) (key : String) :
    entries.find? (·.1 = key) = (entries.lookup key).map (key, ·) := by
  induction entries with
  | nil => rfl
  | cons entry rest ih =>
    by_cases same : entry.1 = key
    · subst same
      rw [List.find?_cons_of_pos (by simp), lookup_cons_self]
      rfl
    · rw [List.find?_cons_of_neg (by simpa using same), lookup_cons_other same, ih]

theorem merge_map (bottom top : Origin) (lower upper : List (String × Document)) :
    (Document.map bottom lower).merge (.map top upper) = .map top (mergeEntries lower upper) := by
  rw [merge]

def isMap : Document → Bool
  | .map _ _ => true
  | _ => false

/-- Unless both are maps the upper document counts alone. -/
theorem merge_of_not_maps {bottom top : Document} (apart : bottom.isMap = false ∨ top.isMap = false) :
    bottom.merge top = top := by
  rw [merge]
  rintro origin lower other upper rfl rfl
  rcases apart with never | never <;> cases never

theorem overlay_of_not_map (below : Option Document) (apart : value.isMap = false) :
    overlay below value = value := by
  cases below with
  | none => rfl
  | some below => exact merge_of_not_maps (.inr apart)

theorem mergeEntries_nil (lower : List (String × Document)) : mergeEntries lower [] = lower := by
  rw [mergeEntries]

theorem mergeEntries_cons (lower rest : List (String × Document)) (entry : String × Document) :
    mergeEntries lower (entry :: rest) =
      mergeEntries (insertEntry entry.1 (overlay (lower.lookup entry.1) entry.2) lower) rest := by
  rw [mergeEntries, find?_key]
  cases lower.lookup entry.1 <;> rfl

theorem lookup_insertEntry (key : String) (value : Document) (entries : List (String × Document))
    (other : String) : (insertEntry key value entries).lookup other =
      if key = other then some value else entries.lookup other := by
  induction entries with
  | nil =>
    rw [insertEntry]
    split
    next same => rw [same, lookup_cons_self]
    next apart => rw [lookup_cons_other apart]
  | cons entry rest ih =>
    rw [insertEntry]
    split
    next =>
      split
      next same => rw [same, lookup_cons_self]
      next apart => rw [lookup_cons_other apart]
    next =>
      split
      next here =>
        split
        next same => rw [same, lookup_cons_self]
        next apart => rw [lookup_cons_other apart, lookup_cons_other (here ▸ apart)]
      next beyond =>
        by_cases first : entry.1 = other
        · subst first
          rw [lookup_cons_self, if_neg beyond, lookup_cons_self]
        · rw [lookup_cons_other first, lookup_cons_other first, ih]

theorem lookup_mergeEntries (rising : IsRising upper) (lower : List (String × Document))
    (key : String) : (mergeEntries lower upper).lookup key =
      (upper.lookup key).elim (lower.lookup key)
        (fun value => some (overlay (lower.lookup key) value)) := by
  induction upper generalizing lower with
  | nil => rw [mergeEntries_nil]; rfl
  | cons entry rest ih =>
    obtain ⟨above, tail⟩ := List.pairwise_cons.mp rising
    rw [mergeEntries_cons, ih tail, lookup_insertEntry]
    by_cases same : entry.1 = key
    · subst same
      rw [lookup_of_above above, lookup_cons_self, if_pos rfl]
      rfl
    · rw [lookup_cons_other same, if_neg same]

theorem rising_mergeEntries (rising : IsRising lower) (upper : List (String × Document)) :
    IsRising (mergeEntries lower upper) := by
  induction upper generalizing lower with
  | nil =>
    rw [mergeEntries_nil]
    exact rising
  | cons entry rest ih =>
    rw [mergeEntries_cons]
    exact ih (rising_insertEntry rising _ _)

theorem mem_iff_lookup (rising : IsRising entries) :
    (key, value) ∈ entries ↔ entries.lookup key = some value := by
  refine ⟨lookup_of_mem rising, fun found => ?_⟩
  obtain ⟨front, back, cut⟩ := exists_cut rising key
  exact cut.mem_iff.mpr (.inr (.inl ⟨rfl, found⟩))

theorem IsOrdered.rising {origin : Origin} (ordered : IsOrdered (.map origin entries)) :
    IsRising entries := by
  cases ordered with
  | map rising parts => exact rising

theorem IsOrdered.of_mem {origin : Origin} (ordered : IsOrdered (.map origin entries))
    (inside : (key, value) ∈ entries) : IsOrdered value := by
  cases ordered with
  | map rising parts => exact parts (key, value) inside

theorem IsOrdered.lookup {origin : Origin} (ordered : IsOrdered (.map origin entries)) (key : String) :
    ∀ held ∈ entries.lookup key, IsOrdered held := by
  exact fun held found => ordered.of_mem ((mem_iff_lookup ordered.rising).mpr found)

theorem eq_of_lookup (first : IsRising lower) (second : IsRising upper)
    (same : ∀ key, lower.lookup key = upper.lookup key) : lower = upper := by
  have distinct : ∀ {entries : List (String × Document)}, IsRising entries → entries.Nodup :=
    fun rising => rising.imp fun less => by
      rintro rfl
      exact String.lt_irrefl _ less
  have members : ∀ entry, entry ∈ lower ↔ entry ∈ upper := fun (key, value) => by
    rw [mem_iff_lookup first, mem_iff_lookup second, same]
  -- There is only one way to put the same entries in order.
  have perm := (List.perm_ext_iff_of_nodup (distinct first) (distinct second)).mpr members
  exact perm.eq_of_pairwise
    (fun _ _ _ _ less greater => absurd less (String.lt_asymm greater)) first second

theorem mergeEntries_insertEntry (first : IsRising lower) (second : IsRising upper) (key : String)
    (value : Document) : mergeEntries lower (insertEntry key value upper) =
      insertEntry key (overlay (lower.lookup key) value) (mergeEntries lower upper) := by
  have placed := rising_insertEntry second key value
  apply eq_of_lookup (rising_mergeEntries first _)
    (rising_insertEntry (rising_mergeEntries first upper) key _)
  intro other
  rw [lookup_mergeEntries placed, lookup_insertEntry, lookup_insertEntry, lookup_mergeEntries second]
  by_cases same : key = other
  · subst same
    rw [if_pos rfl, if_pos rfl]
    rfl
  · rw [if_neg same, if_neg same]

mutual

theorem IsOrdered.merge {lower : Document} :
    {upper : Document} → IsOrdered lower → IsOrdered upper → IsOrdered (lower.merge upper)
  | .scalar _ _, _, upper => by rwa [merge_of_not_maps (.inr rfl)]
  | .list _ _, _, upper => by rwa [merge_of_not_maps (.inr rfl)]
  | .map origin entries, first, .map rising parts => by
    cases first with
    | scalar =>
      rw [merge_of_not_maps (.inl rfl)]
      exact .map rising parts
    | list =>
      rw [merge_of_not_maps (.inl rfl)]
      exact .map rising parts
    | map below held =>
      rw [merge_map]
      exact .map (rising_mergeEntries below entries) (isOrdered_mergeEntries below held parts)

theorem isOrdered_mergeEntries {lower : List (String × Document)} (rising : IsRising lower)
    (held : ∀ entry ∈ lower, IsOrdered entry.2) : {upper : List (String × Document)} →
      (∀ entry ∈ upper, IsOrdered entry.2) → ∀ entry ∈ mergeEntries lower upper, IsOrdered entry.2
  | [], _ => by rwa [mergeEntries_nil]
  | (key, value) :: rest, parts => by
    obtain ⟨here, later⟩ := List.forall_mem_cons.mp parts
    rw [mergeEntries_cons]
    apply isOrdered_mergeEntries (rising_insertEntry rising _ _) _ later
    intro entry inside
    rcases mem_insertEntry rising inside with rfl | among
    · simp only [overlay]
      split
      next below found =>
        exact (held _ ((mem_iff_lookup rising).mpr found)).merge here
      next => exact here
    · exact held entry among

end

/-- An entry that is put into a map before it is laid over another document is put into the
outcome, over what that document has there. -/
theorem exists_overlay_insertEntry {below : Option Document} {fields : List (String × Document)}
    {under origin : Origin} (first : ∀ held ∈ below, IsOrdered held) (rising : IsRising fields)
    (together : overlay below (.map under fields) = .map origin entries) (top : Origin)
    (key : String) (value : Document) :
    ∃ deeper, overlay below (.map top (insertEntry key value fields)) =
      .map top (insertEntry key (overlay deeper value) entries) := by
  cases below with
  | none =>
    cases together
    exact ⟨none, rfl⟩
  | some lower =>
    cases kind : lower.isMap with
    | false =>
      simp only [overlay, merge_of_not_maps (.inl kind)] at together ⊢
      cases together
      exact ⟨none, rfl⟩
    | true =>
      cases first lower rfl with
      | scalar => cases kind
      | list => cases kind
      | map lowRising =>
        simp only [overlay, merge_map] at together ⊢
        cases together
        exact ⟨_, congrArg (Document.map top) (mergeEntries_insertEntry lowRising rising key value)⟩

/-- The same for two documents below, of which the upper one may be missing. -/
theorem exists_overlay_overlay {below above : Option Document} {origin : Origin}
    (first : ∀ held ∈ below, IsOrdered held) (second : ∀ held ∈ above, IsOrdered held)
    (together : above.elim below (fun value => some (overlay below value)) = some (.map origin entries))
    (top : Origin) (key : String) (value : Document) :
    ∃ deep deeper, overlay below (overlay above (.map top [(key, value)])) =
      .map top (insertEntry key (overlay deeper (overlay deep value)) entries) := by
  -- The entry alone is what it makes of an empty map.
  have alone : ∀ (held : Document) under fields, held = .map under fields →
      overlay (some held) (.map under []) = .map under fields := by
    rintro held under fields rfl
    simp only [overlay, merge_map, mergeEntries_nil]
  cases above with
  | none =>
    cases together
    obtain ⟨deeper, laid⟩ := exists_overlay_insertEntry first .nil (alone _ _ _ rfl) top key value
    exact ⟨none, deeper, laid⟩
  | some upper =>
    have same : overlay below upper = .map origin entries := Option.some.inj together
    cases kind : upper.isMap with
    | false =>
      rw [overlay_of_not_map below kind] at same
      rw [same] at kind
      cases kind
    | true =>
      cases second upper rfl with
      | scalar => cases kind
      | list => cases kind
      | map rising =>
        obtain ⟨deep, laid⟩ := exists_overlay_insertEntry second .nil (alone _ _ _ rfl) top key value
        obtain ⟨deeper, outer⟩ := exists_overlay_insertEntry first rising same top key (overlay deep value)
        exact ⟨deep, deeper, laid ▸ outer⟩

end LoginGateway.Document

namespace LoginGateway.Variables

open Document

mutual

theorem isOrdered_value? : (fuel : Nat) → {text after : List Char} → {document : Document} →
    value? fuel text = some (document, after) → IsOrdered document
  | 0, _, _, _, found => nomatch found
  | fuel + 1, text, after, document, found => by
    obtain ⟨rest, rfl, reads⟩ := reads_of_value? found
    generalize skipGap text = start at reads
    cases reads with
    | map inner => exact isOrdered_ofEntries (isOrdered_entries? fuel inner)
    | list inner => exact .list (isOrdered_items? fuel inner)
    | _ => exact .scalar _ _

theorem isOrdered_items? : (fuel : Nat) → {text after : List Char} → {items : List Document} →
    items? fuel text = some (items, after) → ∀ item ∈ items, IsOrdered item
  | 0, _, _, _, found => nomatch found
  | fuel + 1, text, after, items, found => by
    unfold items? at found
    split at found
    next => cases found; nofun
    next =>
      obtain ⟨⟨item, rest⟩, read, later⟩ := Option.bind_eq_some_iff.mp found
      have here := isOrdered_value? fuel read
      simp only at later
      split at later
      next =>
        obtain ⟨⟨others, left⟩, inner, made⟩ := Option.map_eq_some_iff.mp later
        cases made
        exact List.forall_mem_cons.mpr ⟨here, isOrdered_items? fuel inner⟩
      next =>
        cases later
        exact List.forall_mem_singleton.mpr here
      next => cases later

theorem isOrdered_entries? : (fuel : Nat) → {text after : List Char} →
    {entries : List (String × Document)} → entries? fuel text = some (entries, after) →
    ∀ entry ∈ entries, IsOrdered entry.2
  | 0, _, _, _, found => nomatch found
  | fuel + 1, text, after, entries, found => by
    unfold entries? at found
    split at found
    next => cases found; nofun
    next =>
      obtain ⟨⟨key, behind⟩, _, later⟩ := Option.bind_eq_some_iff.mp found
      simp only at later
      split at later
      next =>
        obtain ⟨⟨value, rest⟩, read, last⟩ := Option.bind_eq_some_iff.mp later
        have here := isOrdered_value? fuel read
        simp only at last
        split at last
        next =>
          obtain ⟨⟨others, left⟩, inner, made⟩ := Option.map_eq_some_iff.mp last
          cases made
          exact List.forall_mem_cons.mpr ⟨here, isOrdered_entries? fuel inner⟩
        next =>
          cases last
          exact List.forall_mem_singleton.mpr here
        next => cases last
      next => cases later

end

theorem isOrdered_value (text : String) : IsOrdered (value text) := by
  unfold value
  split
  next read => exact isOrdered_value? _ read
  next => exact .scalar _ _

theorem isOrdered_nest {inner : Document} (ordered : IsOrdered inner) (path : List String) :
    IsOrdered (nest path inner) := by
  induction path with
  | nil => exact ordered
  | cons key rest ih => exact .map (List.pairwise_singleton _ _) (List.forall_mem_singleton.mpr ih)

theorem path?_ne_nil (name : String) : path? name ≠ some [] := by
  simp only [path?]
  split
  · simp
  · split
    · simp
    · simp [pieces_ne_nil]

theorem document_append (environment : Environment) (name text : String) :
    document (environment ++ [(name, text)]) =
      match path? name with
      | some path => (document environment).merge (nest path (value text))
      | none => document environment := by
  cases named : path? name <;>
    simp only [document, List.foldl_append, List.foldl_cons, List.foldl_nil, named]

theorem exists_document (environment : Environment) :
    ∃ entries, document environment = .map .variables entries ∧ IsOrdered (.map .variables entries) := by
  induction environment using List.reverseRecOn with
  | nil => exact ⟨[], rfl, .map .nil nofun⟩
  | append_singleton earlier last ih =>
    obtain ⟨entries, same, ordered⟩ := ih
    rw [document_append, same]
    cases named : path? last.1 with
    | none => exact ⟨entries, rfl, ordered⟩
    | some path =>
      have merged := ordered.merge (isOrdered_nest (isOrdered_value last.2) path)
      cases path with
      | nil => exact (path?_ne_nil last.1 named).elim
      | cons key path =>
        simp only [nest, merge_map] at merged ⊢
        exact ⟨_, rfl, merged⟩

end LoginGateway.Variables
