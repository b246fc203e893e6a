import LoginGateway.Text.Blank
import LoginGateway.Text.Split

/-! What is joined at a sign comes apart there, if the sign stands nowhere else. -/

namespace LoginGateway

theorem mem_of_mem_intersperse {α : Type} {sign item : α} : ∀ {parts : List (List α)},
    item ∈ (parts.intersperse [sign]).flatten → item = sign ∨ ∃ part ∈ parts, item ∈ part
  | [], inside => by cases inside
  | [part], inside => by
    rw [List.intersperse_singleton, List.flatten_singleton] at inside
    exact .inr ⟨part, List.mem_cons_self, inside⟩
  | part :: next :: rest, inside => by
    rw [List.intersperse_cons_cons, List.flatten_cons, List.flatten_cons] at inside
    rcases List.mem_append.mp inside with here | later
    · exact .inr ⟨part, List.mem_cons_self, here⟩
    · rcases List.mem_append.mp later with between | later
      · exact .inl (List.mem_singleton.mp between)
      · rcases mem_of_mem_intersperse later with same | ⟨other, among, here⟩
        · exact .inl same
        · exact .inr ⟨other, List.mem_cons_of_mem part among, here⟩

theorem map_eq_self {α : Type} {write : α → α} {items : List α}
    (kept : ∀ item ∈ items, write item = item) : items.map write = items :=
  (List.map_congr_left kept).trans (List.map_id' items)

section Cutting

variable {α : Type} [DecidableEq α] {sign : α} {before : List α}

theorem pieces_ne_nil (items : List α) : pieces sign items ≠ [] := by
  cases items with
  | nil => nofun
  | cons item items =>
    rw [pieces]
    split
    · nofun
    · split <;> nofun

theorem pieces_append (before after : List α) :
    pieces sign (before ++ sign :: after) = pieces sign before ++ pieces sign after := by
  induction before with
  | nil => simp only [List.nil_append, pieces, if_true, List.cons_append]
  | cons item before ih =>
    rw [List.cons_append, pieces, pieces, ih]
    split
    next => rfl
    next =>
      have some : pieces sign before ≠ [] := pieces_ne_nil before
      obtain ⟨piece, others, same⟩ := List.exists_cons_of_ne_nil some
      rw [same]
      rfl

theorem pieces_of_not_mem {items : List α} (absent : sign ∉ items) : pieces sign items = [items] := by
  induction items with
  | nil => rfl
  | cons item items ih =>
    obtain ⟨different, later⟩ := not_or.mp (mt List.mem_cons.mpr absent)
    rw [pieces, if_neg (Ne.symm different), ih later]

/-- What stands behind the last sign is determined by the whole. -/
theorem eq_of_suffixes {items first second : List α} (plain : sign ∉ first) (other : sign ∉ second)
    (ends : sign :: first <:+ items) (also : sign :: second <:+ items) : first = second := by
  have last {rest : List α} (absent : sign ∉ rest) (ends : sign :: rest <:+ items) :
      (pieces sign items).getLast? = some rest := by
    obtain ⟨before, rfl⟩ := ends
    rw [pieces_append, pieces_of_not_mem absent, List.getLast?_concat]
  exact Option.some.inj ((last plain ends).symm.trans (last other also))

theorem mem_pieces {items piece : List α} (among : piece ∈ pieces sign items) :
    sign ∉ piece ∧ ∀ item ∈ piece, item ∈ items := by
  induction items generalizing piece with
  | nil =>
    rw [List.mem_singleton.mp among]
    exact ⟨nofun, nofun⟩
  | cons item items ih =>
    have later {piece : List α} (among : piece ∈ pieces sign items) :
        sign ∉ piece ∧ ∀ other ∈ piece, other ∈ item :: items :=
      ⟨(ih among).1, fun other inside => List.mem_cons_of_mem item ((ih among).2 other inside)⟩
    rw [pieces] at among
    split at among
    next =>
      rcases List.mem_cons.mp among with rfl | among
      · exact ⟨nofun, nofun⟩
      · exact later among
    next different =>
      have some : pieces sign items ≠ [] := pieces_ne_nil items
      obtain ⟨first, others, same⟩ := List.exists_cons_of_ne_nil some
      rw [same] at among later
      rcases List.mem_cons.mp among with rfl | among
      · obtain ⟨absent, inside⟩ := later List.mem_cons_self
        refine ⟨?_, List.forall_mem_cons.mpr ⟨List.mem_cons_self, inside⟩⟩
        exact fun here => (List.mem_cons.mp here).elim (Ne.symm different) absent
      · exact later (List.mem_cons_of_mem first among)

theorem exists_of_mem_pieces {items piece : List α} (among : piece ∈ pieces sign items) :
    ∃ before after, items = before ++ piece ++ after ∧
      (before = [] ∨ ∃ others, before = others ++ [sign]) ∧
      (after = [] ∨ ∃ others, after = sign :: others) := by
  by_cases here : sign ∈ items
  · obtain ⟨head, tail, cut, absent⟩ := List.eq_append_cons_of_mem here
    rw [cut, pieces_append, pieces_of_not_mem absent, List.singleton_append] at among
    rcases List.mem_cons.mp among with rfl | later
    · exact ⟨[], sign :: tail, cut, .inl rfl, .inr ⟨tail, rfl⟩⟩
    · obtain ⟨before, after, same, starts, ends⟩ := exists_of_mem_pieces later
      refine ⟨head ++ sign :: before, after, by rw [cut, same]; simp, .inr ?_, ends⟩
      rcases starts with rfl | ⟨others, rfl⟩
      · exact ⟨head, rfl⟩
      · exact ⟨head ++ sign :: others, by simp⟩
  · rw [pieces_of_not_mem here] at among
    rw [List.mem_singleton.mp among]
    exact ⟨[], [], by simp, .inl rfl, .inl rfl⟩
termination_by items.length
decreasing_by
  rw [cut, List.length_append, List.length_cons]
  omega

theorem mem_pieces_of_between {before piece after : List α} (absent : sign ∉ piece)
    (starts : before = [] ∨ ∃ others, before = others ++ [sign])
    (ends : after = [] ∨ ∃ others, after = sign :: others) :
    piece ∈ pieces sign (before ++ piece ++ after) := by
  have front : piece ∈ pieces sign (piece ++ after) := by
    rcases ends with rfl | ⟨others, rfl⟩
    · rw [List.append_nil, pieces_of_not_mem absent]
      exact List.mem_singleton_self piece
    · rw [pieces_append, pieces_of_not_mem absent]
      exact List.mem_cons_self
  rcases starts with rfl | ⟨others, rfl⟩
  · exact front
  · rw [List.append_assoc, List.append_assoc, List.singleton_append, pieces_append]
    exact List.mem_append_right _ front

theorem pieces_intersperse {parts : List (List α)} (some : parts ≠ [])
    (absent : ∀ part ∈ parts, sign ∉ part) :
    pieces sign (parts.intersperse [sign]).flatten = parts := by
  induction parts with
  | nil => exact absurd rfl some
  | cons part rest ih =>
    obtain ⟨here, later⟩ := List.forall_mem_cons.mp absent
    cases rest with
    | nil =>
      rw [List.intersperse_singleton, List.flatten_singleton]
      exact pieces_of_not_mem here
    | cons next rest =>
      rw [List.intersperse_cons_cons, List.flatten_cons, List.flatten_cons, List.singleton_append,
        pieces_append, pieces_of_not_mem here, ih (List.cons_ne_nil _ _) later]
      rfl

theorem intersperse_pieces (sign : α) (items : List α) :
    ((pieces sign items).intersperse [sign]).flatten = items := by
  induction items with
  | nil => rfl
  | cons item items ih =>
    have some : pieces sign items ≠ [] := pieces_ne_nil items
    obtain ⟨piece, others, cut⟩ := List.exists_cons_of_ne_nil some
    rw [cut] at ih
    rw [pieces, cut]
    split
    next same =>
      rw [List.intersperse_cons_cons, List.flatten_cons, List.flatten_cons, ih, same]
      rfl
    next =>
      cases others with
      | nil => rw [← ih]; rfl
      | cons next others =>
        rw [List.intersperse_cons_cons, List.flatten_cons] at ih ⊢
        rw [List.cons_append, ih]

theorem pieces_concat (items : List α) {item : α} (other : item ≠ sign) : ∃ front last,
    pieces sign items = front ++ [last] ∧
      pieces sign (items ++ [item]) = front ++ [last ++ [item]] := by
  induction items with
  | nil => exact ⟨[], [], rfl, by rw [List.nil_append, pieces, if_neg other]; rfl⟩
  | cons first items ih =>
    obtain ⟨front, last, before, after⟩ := ih
    rw [List.cons_append, pieces, pieces, before, after]
    split
    next => exact ⟨[] :: front, last, rfl, rfl⟩
    next =>
      cases front with
      | nil => exact ⟨[], first :: last, rfl, rfl⟩
      | cons piece front => exact ⟨(first :: piece) :: front, last, rfl, rfl⟩

theorem flatMap_pieces (sign : α) (items : List α) :
    (pieces sign items).flatMap (sign :: ·) = sign :: items := by
  induction items with
  | nil => rfl
  | cons item items ih =>
    rw [pieces]
    split
    next same => rw [List.flatMap_cons, ih, same, List.singleton_append]
    next =>
      have some : pieces sign items ≠ [] := pieces_ne_nil items
      obtain ⟨piece, others, cut⟩ := List.exists_cons_of_ne_nil some
      rw [cut, List.flatMap_cons, List.cons_append, List.cons.injEq] at ih
      rw [cut, List.flatMap_cons, List.cons_append, List.cons_append, ih.2]

theorem pieces_map {β : Type} [DecidableEq β] {write : α → β} (injective : write.Injective)
    (sign : α) (items : List α) : pieces (write sign) (items.map write) = (pieces sign items).map (·.map write) := by
  induction items with
  | nil => rfl
  | cons item items ih =>
    rw [List.map_cons, pieces, pieces, ih]
    by_cases same : item = sign
    · rw [if_pos same, if_pos (congrArg write same)]
      rfl
    · rw [if_neg same, if_neg (mt (@injective item sign) same)]
      cases pieces sign items <;> rfl

theorem cutFirst_of_not_mem {items : List α} (absent : sign ∉ items) :
    cutFirst sign items = (items, none) := by
  induction items with
  | nil => rfl
  | cons item items ih =>
    obtain ⟨different, later⟩ := not_or.mp (mt List.mem_cons.mpr absent)
    rw [cutFirst, if_neg (Ne.symm different), ih later]

theorem cutFirst_append (absent : sign ∉ before) (after : List α) :
    cutFirst sign (before ++ sign :: after) = (before, some after) := by
  induction before with
  | nil => rw [List.nil_append, cutFirst, if_pos rfl]
  | cons item before ih =>
    obtain ⟨different, later⟩ := not_or.mp (mt List.mem_cons.mpr absent)
    rw [List.cons_append, cutFirst, if_neg (Ne.symm different), ih later]

theorem cutFirst_behind (absent : sign ∉ before) (after : List α) :
    cutFirst sign (before ++ after) =
      (before ++ (cutFirst sign after).1, (cutFirst sign after).2) := by
  induction before with
  | nil => rfl
  | cons item before ih =>
    obtain ⟨different, later⟩ := not_or.mp (mt List.mem_cons.mpr absent)
    rw [List.cons_append, cutFirst, if_neg (Ne.symm different), ih later, List.cons_append]

theorem mem_cutFirst {items : List α} {item : α} (inside : item ∈ (cutFirst sign items).1) :
    item ≠ sign ∧ item ∈ items := by
  induction items with
  | nil => cases inside
  | cons first items ih =>
    rw [cutFirst] at inside
    split at inside
    next => cases inside
    next different =>
      rcases List.mem_cons.mp inside with rfl | later
      · exact ⟨different, List.mem_cons_self⟩
      · exact ⟨(ih later).1, List.mem_cons_of_mem first (ih later).2⟩

theorem length_cutFirst_le (sign : α) (items : List α) :
    (cutFirst sign items).1.length + ((cutFirst sign items).2.getD []).length ≤ items.length := by
  by_cases here : sign ∈ items
  · obtain ⟨before, after, cut, absent⟩ := List.eq_append_cons_of_mem here
    rw [cut, cutFirst_append absent, List.length_append, List.length_cons]
    exact Nat.add_le_add_left (Nat.le_succ after.length) _
  · rw [cutFirst_of_not_mem here]
    exact Nat.le_refl _

theorem split?_append (absent : sign ∉ before) (after : List α) :
    split? sign (before ++ sign :: after) = some (before, after) := by
  induction before with
  | nil => rw [List.nil_append, split?, if_pos rfl]
  | cons item before ih =>
    obtain ⟨different, later⟩ := not_or.mp (mt List.mem_cons.mpr absent)
    rw [List.cons_append, split?, if_neg (Ne.symm different), ih later]
    rfl

theorem mem_of_split? {items : List α} {parts : List α × List α}
    (found : split? sign items = some parts) : sign ∈ items := by
  induction items generalizing parts with
  | nil => cases found
  | cons item items ih =>
    by_cases same : item = sign
    · rw [same]
      exact List.mem_cons_self
    · rw [split?, if_neg same] at found
      obtain ⟨later, split, _⟩ := Option.map_eq_some_iff.mp found
      exact List.mem_cons_of_mem item (ih split)

end Cutting

theorem dropRightWhile_concat {α : Type} (drop : α → Bool) (items : List α) (item : α) :
    dropRightWhile drop (items ++ [item]) =
      if drop item then dropRightWhile drop items else items ++ [item] := by
  rw [dropRightWhile, List.reverse_concat, List.dropWhile_cons]
  split
  · rfl
  · rw [List.reverse_cons, List.reverse_reverse]

theorem dropRightWhile_front {α : Type} (drop : α → Bool) (items : List α) :
    dropRightWhile drop items <+: items := by
  rw [← List.reverse_suffix, dropRightWhile, List.reverse_reverse]
  exact List.dropWhile_suffix drop

theorem dropWhile_of_head {α : Type} {drop : α → Bool} {items : List α}
    (kept : ∀ item ∈ items.head?, drop item = false) : items.dropWhile drop = items := by
  cases items with
  | nil => rfl
  | cons first rest =>
    rw [List.dropWhile_cons_of_neg (by rw [kept first rfl]; decide)]

theorem dropWhile_of_kept {α : Type} {drop : α → Bool} {items : List α}
    (kept : ∀ item ∈ items, drop item = false) : items.dropWhile drop = items :=
  dropWhile_of_head fun item first => kept item (List.mem_of_mem_head? first)

theorem trimWhile_of_ends {α : Type} {drop : α → Bool} {items : List α}
    (front : ∀ item ∈ items.head?, drop item = false)
    (back : ∀ item ∈ items.getLast?, drop item = false) : trimWhile drop items = items := by
  have behind : ∀ item ∈ items.reverse.head?, drop item = false := by
    rw [List.head?_reverse]
    exact back
  rw [trimWhile, dropWhile_of_head front, dropRightWhile, dropWhile_of_head behind, List.reverse_reverse]

theorem dropRightWhile_append {α : Type} {drop : α → Bool} {items back : List α}
    (kept : ∀ item ∈ items, drop item = false) (dropped : ∀ item ∈ back, drop item = true) :
    dropRightWhile drop (items ++ back) = items := by
  rw [dropRightWhile, List.reverse_append, List.dropWhile_append_of_pos, dropWhile_of_kept,
    List.reverse_reverse]
  · intro item inside
    exact kept item (List.mem_reverse.mp inside)
  · intro item inside
    exact dropped item (List.mem_reverse.mp inside)

theorem trimWhile_between {α : Type} {drop : α → Bool} {front items back : List α}
    (before : ∀ item ∈ front, drop item = true) (kept : ∀ item ∈ items, drop item = false)
    (behind : ∀ item ∈ back, drop item = true) :
    trimWhile drop (front ++ items ++ back) = items := by
  rw [trimWhile, List.append_assoc, List.dropWhile_append_of_pos before]
  cases items with
  | nil =>
    have whole : (back ++ []).dropWhile drop = [].dropWhile drop :=
      List.dropWhile_append_of_pos behind
    rw [List.append_nil] at whole
    rw [List.nil_append, whole]
    rfl
  | cons first rest =>
    have other : ¬ drop first = true := by
      rw [kept first List.mem_cons_self]
      decide
    rw [List.cons_append, List.dropWhile_cons_of_neg other, ← List.cons_append]
    exact dropRightWhile_append kept behind

theorem trimWhile_append {α : Type} {drop : α → Bool} {front items : List α}
    (dropped : ∀ item ∈ front, drop item = true) (kept : ∀ item ∈ items, drop item = false) :
    trimWhile drop (front ++ items) = items := by
  have trimmed : trimWhile drop (front ++ items ++ []) = items :=
    trimWhile_between dropped kept nofun
  rwa [List.append_nil] at trimmed

theorem trimWhile_of_kept {α : Type} {drop : α → Bool} {items : List α}
    (kept : ∀ item ∈ items, drop item = false) : trimWhile drop items = items := by
  have nothing : ∀ item ∈ ([] : List α), drop item = true := nofun
  have trimmed := trimWhile_append nothing kept
  rwa [List.nil_append] at trimmed

theorem suffix_trimWhile {α : Type} {drop : α → Bool} {items ends : List α} {last : α}
    (kept : ∀ item ∈ ends ++ [last], drop item = false) (suffix : ends ++ [last] <:+ items) :
    ends ++ [last] <:+ trimWhile drop items := by
  obtain ⟨front, rfl⟩ := suffix
  obtain ⟨left, same⟩ : ∃ left, (front ++ (ends ++ [last])).dropWhile drop = left ++ (ends ++ [last]) := by
    rw [List.dropWhile_append]
    split
    · exact ⟨[], dropWhile_of_kept kept⟩
    · exact ⟨_, rfl⟩
  have stays := kept last (List.mem_append_right ends List.mem_cons_self)
  rw [trimWhile, same, ← List.append_assoc, dropRightWhile_concat, stays]
  exact ⟨left, (List.append_assoc left ends [last]).symm⟩

theorem exists_trimWhile {α : Type} (drop : α → Bool) (items : List α) :
    ∃ front back, items = front ++ trimWhile drop items ++ back ∧
      ∀ item ∈ front ++ back, drop item = true := by
  have rest := List.takeWhile_append_dropWhile (p := drop) (l := (items.dropWhile drop).reverse)
  refine ⟨items.takeWhile drop, ((items.dropWhile drop).reverse.takeWhile drop).reverse, ?_, ?_⟩
  · rw [trimWhile, dropRightWhile, List.append_assoc, ← List.reverse_append, rest,
      List.reverse_reverse, List.takeWhile_append_dropWhile]
  · intro item inside
    rcases List.mem_append.mp inside with before | behind
    · exact List.all_eq_true.mp List.all_takeWhile item before
    · exact List.all_eq_true.mp List.all_takeWhile item (List.mem_reverse.mp behind)

end LoginGateway
