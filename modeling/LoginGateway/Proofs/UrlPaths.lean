import LoginGateway.Proofs.UrlTexts
import Mathlib.Data.List.Induction

/-! Paths that are written one behind the other. The path in front is read as it was
written, and if the path behind it never leads above its own beginning, the segments in
front stay what they are. -/

namespace LoginGateway.Url

/-- Whether segments never lead above the place where they begin, from `depth` places
below it on. -/
def staysWithin : Nat → List (List Char) → Bool
  | _, [] => true
  | depth, segment :: rest =>
    if isDouble segment then 0 < depth && staysWithin (depth - 1) rest
    else if isSingle segment then staysWithin depth rest
    else staysWithin (depth + 1) rest

section Dots

def dotTexts : List (List Char) := [".", "%2e", "..", ".%2e", "%2e.", "%2e%2e"].map String.toList

theorem escape_not_infix : ∀ number < 256,
    (pathSet (UInt8.ofNat number) || decide (0x80 ≤ UInt8.ofNat number)) = true →
    ∀ text ∈ dotTexts, ¬ (Percent.escape (UInt8.ofNat number)).map Char.toLower <:+: text := by
  decide +kernel

theorem ascii_of_toLower : ∀ text ∈ dotTexts, text.all (·.toNat < 0x80) = true := by
  decide

/-- Whatever is read as a dot is written without escapes. -/
theorem plain_of_mem_dots {text : List Char} (among : text ∈ dotTexts) {char : Char}
    (inside : char.toLower ∈ text) :
    char.toNat < 0x80 ∧ pathSet (UInt8.ofNat char.toNat) = false := by
  have ascii : char.toNat < 0x80 := by
    apply Decidable.byContradiction
    intro high
    rw [toLower_of_high (Nat.le_of_not_lt high)] at inside
    exact high (of_decide_eq_true (List.all_eq_true.mp (ascii_of_toLower text among) char inside))
  have plain : ∀ text ∈ dotTexts, char.toLower ∈ text → pathSet (UInt8.ofNat char.toNat) = false :=
    of_ascii ascii (by decide +kernel)
  exact ⟨ascii, plain text among inside⟩

theorem exists_escape {text : List Char} {char : Char} (inside : char ∈ text)
    (special : ¬ (char.toNat < 0x80 ∧ pathSet (UInt8.ofNat char.toNat) = false)) :
    ∃ octet, (pathSet octet || decide (0x80 ≤ octet)) = true ∧
      Percent.escape octet <:+: Percent.encodeText pathSet text := by
  have some : ∃ octet ∈ Utf8.encode text, (pathSet octet || decide (0x80 ≤ octet)) = true := by
    obtain ⟨before, after, rfl⟩ := List.append_of_mem inside
    by_cases ascii : char.toNat < 0x80
    · refine ⟨UInt8.ofNat char.toNat, ?_, ?_⟩
      · rw [Utf8.encode_append, Utf8.encode_cons_ascii ascii]
        exact List.mem_append_right _ List.mem_cons_self
      · rw [(Bool.not_eq_false _).mp fun plain => special ⟨ascii, plain⟩, Bool.true_or]
    · obtain ⟨lead, rest, spelled, beyond⟩ := Utf8.exists_lead (Nat.le_of_not_lt ascii)
      refine ⟨lead, ?_, ?_⟩
      · rw [Utf8.encode_append, Utf8.encode_cons, spelled]
        exact List.mem_append_right _ List.mem_cons_self
      · rw [decide_eq_true beyond, Bool.or_true]
  obtain ⟨octet, among, escaped⟩ := some
  obtain ⟨before, after, same⟩ := List.append_of_mem among
  refine ⟨octet, escaped, ?_⟩
  rw [Percent.encodeText, Percent.encode, same, List.flatMap_append, List.flatMap_cons,
    if_pos escaped]
  exact ⟨_, _, List.append_assoc _ _ _⟩

theorem spells_encodeText {spellings : List String}
    (dots : ∀ spelling ∈ spellings, spelling.toList ∈ dotTexts) (text : List Char) :
    (spellings.any fun spelling =>
        decide (spelling.toList = (Percent.encodeText pathSet text).map Char.toLower)) =
      spellings.any fun spelling => decide (spelling.toList = text.map Char.toLower) := by
  by_cases plain : ∀ char ∈ text, char.toNat < 0x80 ∧ pathSet (UInt8.ofNat char.toNat) = false
  · rw [Percent.encodeText_of_plain plain]
  · -- Neither text is one of the spellings, since they have no escapes and need none.
    simp only [Classical.not_forall] at plain
    obtain ⟨char, inside, special⟩ := plain
    obtain ⟨octet, escaped, part⟩ := exists_escape inside special
    have left : ∀ spelling ∈ spellings,
        spelling.toList ≠ (Percent.encodeText pathSet text).map Char.toLower := by
      intro spelling among same
      have foreign := escape_not_infix octet.toNat octet.toNat_lt
      rw [UInt8.ofNat_toNat] at foreign
      exact foreign escaped _ (dots spelling among) (by rw [same]; exact part.map Char.toLower)
    have right : ∀ spelling ∈ spellings, spelling.toList ≠ text.map Char.toLower := by
      intro spelling among same
      refine special (plain_of_mem_dots (dots spelling among) ?_)
      rw [same]
      exact List.mem_map_of_mem inside
    rw [List.any_eq_false.mpr fun spelling among => by simpa using left spelling among,
      List.any_eq_false.mpr fun spelling among => by simpa using right spelling among]

theorem isDouble_encodeText (text : List Char) :
    isDouble (Percent.encodeText pathSet text) = isDouble text :=
  spells_encodeText (List.all_iff_forall_prop.mp (by decide)) text

theorem isSingle_encodeText (text : List Char) :
    isSingle (Percent.encodeText pathSet text) = isSingle text :=
  spells_encodeText (List.all_iff_forall_prop.mp (by decide)) text

theorem staysWithin_encodeText (depth : Nat) (segments : List (List Char)) :
    staysWithin depth (segments.map (Percent.encodeText pathSet)) = staysWithin depth segments := by
  induction segments generalizing depth with
  | nil => rfl
  | cons segment rest ih =>
    simp only [List.map_cons, staysWithin, isDouble_encodeText, isSingle_encodeText, ih]

end Dots

section Behind

variable {parts kept base others : List (List Char)} {first segment rest : List Char} {sign : Char}
  {special file : Bool}

theorem cutSegments_inner (inner : ∀ char ∈ segment, isSlash special char = false) :
    cutSegments special segment = [segment] := by
  induction segment with
  | nil => rfl
  | cons char segment ih =>
    obtain ⟨here, later⟩ := List.forall_mem_cons.mp inner
    rw [cutSegments, here, ih later]
    rfl

theorem cutSegments_behind (inner : ∀ char ∈ segment, isSlash special char = false)
    (slash : isSlash special sign = true) (rest : List Char) :
    cutSegments special (segment ++ sign :: rest) = segment :: cutSegments special rest := by
  induction segment with
  | nil => rw [List.nil_append, cutSegments, if_pos slash]
  | cons char segment ih =>
    obtain ⟨here, later⟩ := List.forall_mem_cons.mp inner
    rw [List.cons_append, cutSegments, here, ih later]
    rfl

/-- A path is cut at its own slashes. -/
theorem cutSegments_path (inner : ∀ segment ∈ first :: parts, ∀ char ∈ segment,
      isSlash special char = false) :
    cutSegments special (first ++ parts.flatMap ('/' :: ·)) = first :: parts := by
  induction parts generalizing first with
  | nil =>
    rw [List.flatMap_nil, List.append_nil]
    exact cutSegments_inner (inner first List.mem_cons_self)
  | cons next parts ih =>
    obtain ⟨here, later⟩ := List.forall_mem_cons.mp inner
    rw [List.flatMap_cons, List.cons_append, cutSegments_behind here (isSlash_slash special),
      ih later]

theorem cutSegments_path_behind (inner : ∀ segment ∈ first :: parts, ∀ char ∈ segment,
      isSlash special char = false) (slash : isSlash special sign = true) (rest : List Char) :
    cutSegments special (first ++ (parts.flatMap ('/' :: ·) ++ sign :: rest)) =
      first :: parts ++ cutSegments special rest := by
  induction parts generalizing first with
  | nil =>
    rw [List.flatMap_nil, List.nil_append]
    exact cutSegments_behind (inner first List.mem_cons_self) slash rest
  | cons next parts ih =>
    obtain ⟨here, later⟩ := List.forall_mem_cons.mp inner
    rw [List.flatMap_cons, List.cons_append, List.cons_append, List.append_assoc,
      cutSegments_behind here (isSlash_slash special), ih later]
    rfl

theorem goUp_cons (segment : List Char) (kept : List (List Char)) :
    goUp false (segment :: kept) = kept := by
  cases kept <;> rfl

theorem settle_cons (kept : List (List Char)) (first next : List Char) (rest : List (List Char)) :
    settle file kept (first :: next :: rest) =
      if isDouble first then settle file (goUp file kept) (next :: rest)
      else if isSingle first then settle file kept (next :: rest)
      else settle file (first :: kept) (next :: rest) := by
  rw [settle]
  simp

theorem settle_written (written : ∀ segment ∈ parts, IsSegment special segment)
    (kept : List (List Char)) : settle file kept parts = kept.reverse ++ parts := by
  induction parts generalizing kept with
  | nil => rw [settle, List.append_nil]
  | cons first rest ih =>
    obtain ⟨here, later⟩ := List.forall_mem_cons.mp written
    cases rest with
    | nil => simp [settle, here.notDouble, here.notSingle]
    | cons next rest =>
      have kept := ih later (first :: kept)
      rw [settle_cons, here.notDouble, here.notSingle]
      simpa using kept

theorem settle_written_behind (written : ∀ segment ∈ parts, IsSegment special segment)
    (some : others ≠ []) (kept : List (List Char)) :
    settle file kept (parts ++ others) = settle file (parts.reverse ++ kept) others := by
  induction parts generalizing kept with
  | nil => rfl
  | cons first rest ih =>
    obtain ⟨here, later⟩ := List.forall_mem_cons.mp written
    have kept := ih later (first :: kept)
    obtain ⟨next, after, same⟩ := List.exists_cons_of_ne_nil (List.append_ne_nil_of_right_ne_nil rest some)
    rw [List.cons_append, same, settle_cons, here.notDouble, here.notSingle, ← same]
    simpa using kept

/-- Segments that never lead above their beginning leave alone what was kept before. -/
theorem settle_behind (within : staysWithin kept.length others = true) (some : others ≠ [])
    (base : List (List Char)) :
    settle false (kept ++ base) others = base.reverse ++ settle false kept others := by
  induction others generalizing kept with
  | nil => exact absurd rfl some
  | cons first rest ih =>
    rw [staysWithin] at within
    split at within
    next double =>
      obtain ⟨deep, within⟩ := (Bool.and_eq_true _ _).mp within
      obtain ⟨last, kept, rfl⟩ := List.exists_cons_of_length_pos (of_decide_eq_true deep)
      cases rest with
      | nil => simp [settle, double, goUp_cons]
      | cons next rest =>
        rw [settle_cons, settle_cons, if_pos double, if_pos double, List.cons_append, goUp_cons,
          goUp_cons]
        exact ih within (List.cons_ne_nil _ _)
    next notDouble =>
      split at within
      next single =>
        cases rest with
        | nil => simp [settle, notDouble, single]
        | cons next rest =>
          rw [settle_cons, settle_cons, if_neg notDouble, if_neg notDouble, if_pos single,
            if_pos single]
          exact ih within (List.cons_ne_nil _ _)
      next notSingle =>
        cases rest with
        | nil => simp [settle, notDouble, notSingle]
        | cons next rest =>
          have deeper : staysWithin (first :: kept).length (next :: rest) = true := within
          rw [settle_cons, settle_cons, if_neg notDouble, if_neg notDouble, if_neg notSingle,
            if_neg notSingle]
          exact ih deeper (List.cons_ne_nil _ _)

theorem encode_written (written : ∀ segment ∈ parts, IsSegment special segment) :
    parts.map (Percent.encodeText pathSet) = parts :=
  map_eq_self fun segment among => Percent.encodeText_of_plain (written segment among).plain

theorem readPath_written (written : ∀ segment ∈ first :: parts, IsSegment special segment) :
    readPath special ((first :: parts).flatMap ('/' :: ·)) = .segments (first :: parts) := by
  have cut := cutSegments_path fun segment among => (written segment among).noSlash
  rw [List.flatMap_cons, List.cons_append, readPath, if_pos (isSlash_slash special), readSegments,
    cut,
    encode_written written, settle_written written]
  rfl

theorem readPath_again (special : Bool) (text : List Char) :
    readPath special (readPath special text).text = readPath special text := by
  cases text with
  | nil => cases special <;> rfl
  | cons char rest =>
    obtain ⟨first, parts, same, written⟩ :=
      isSegment_of_settle false (if isSlash special char then rest else char :: rest)
    have read : readPath special (char :: rest) = .segments (first :: parts) :=
      congrArg UrlPath.segments same
    rw [read]
    exact readPath_written written

/-- A path behind a written one is read behind it, if it never leads above its beginning. -/
theorem readPath_behind (written : ∀ segment ∈ first :: parts, IsSegment true segment)
    (slash : isSlash true sign = true)
    (within : staysWithin 0 (cutSegments true rest) = true) :
    (readPath true ((first :: parts).flatMap ('/' :: ·) ++ sign :: rest)).text =
      (first :: parts).flatMap ('/' :: ·) ++ (readPath true (sign :: rest)).text := by
  have some : (cutSegments true rest).map (Percent.encodeText pathSet) ≠ [] := by
    simpa using cutSegments_ne_nil true rest
  rw [← staysWithin_encodeText] at within
  have cut := cutSegments_path_behind (fun segment among => (written segment among).noSlash)
    slash rest
  have level : staysWithin ([] : List (List Char)).length
      ((cutSegments true rest).map (Percent.encodeText pathSet)) = true := within
  have settled := settle_behind level some (first :: parts).reverse
  have whole : readSegments true (first ++ (parts.flatMap ('/' :: ·) ++ sign :: rest)) =
      first :: parts ++ readSegments true rest := by
    rw [readSegments, cut, List.map_append, encode_written written,
      settle_written_behind written some, List.append_nil]
    rw [List.nil_append, List.reverse_reverse] at settled
    exact settled
  rw [List.flatMap_cons, List.cons_append, List.cons_append, List.append_assoc, readPath, readPath,
    if_pos (by decide), if_pos slash, whole]
  simp [UrlPath.text]

/-- The slashes at the end of a path are its empty segments there. -/
theorem dropRightWhile_path (inner : ∀ segment ∈ parts, ∀ char ∈ segment,
      isSlash true char = false) :
    dropRightWhile (· = '/') (parts.flatMap ('/' :: ·)) =
      (dropRightWhile (· = []) parts).flatMap ('/' :: ·) := by
  induction parts using List.reverseRecOn with
  | nil => rfl
  | append_singleton parts last ih =>
    have before := ih fun segment among => inner segment (List.mem_append_left _ among)
    rw [List.flatMap_append, List.flatMap_singleton, dropRightWhile_concat]
    rcases List.eq_nil_or_concat last with rfl | ⟨chars, char, rfl⟩
    · rw [dropRightWhile_concat, if_pos (by decide), if_pos (by decide)]
      exact before
    · have noSlash : char ≠ '/' := by
        rintro rfl
        exact absurd (inner _ (List.mem_append_right _ List.mem_cons_self) '/' (by simp)) (by decide)
      rw [if_neg (by simp), List.flatMap_append, List.flatMap_singleton, List.concat_eq_append,
        ← List.cons_append, ← List.append_assoc, dropRightWhile_concat,
        if_neg (by simpa using noSlash)]

end Behind

end LoginGateway.Url
