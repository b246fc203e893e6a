import LoginGateway.Domain.Punycode
import LoginGateway.Proofs.Cutting
import LoginGateway.Proofs.Utf8
import Mathlib.Data.List.TakeDrop
import Mathlib.Data.List.TakeWhile
import Mathlib.Tactic.Ring

/-! A label in ASCII stands for the label it was made from. While the encoder looks
through the label for one code point after the other, a decoder that has read what was
written so far holds the characters that were written, in their order, and the encoder
counts how far the decoder has to go on to the next of them. -/

namespace LoginGateway.Domain

def codeAlphabet : List Char := "abcdefghijklmnopqrstuvwxyz0123456789".toList

theorem digitChar_spec : ∀ digit < 36,
    digitOf? (digitChar digit) = some digit ∧ digitChar digit ∈ codeAlphabet := by
  decide

theorem threshold_bounds (k bias : Nat) : 1 ≤ threshold k bias ∧ threshold k bias ≤ 26 := by
  unfold threshold
  split
  · omega
  · split <;> omega

section Numbers

variable {number k bias : Nat}

/-- Above the threshold a number is a digit and a smaller number. -/
theorem number_parts (large : ¬ number < threshold k bias) :
    let t := threshold k bias
    t + (number - t) % (36 - t) < 36 ∧ (number - t) / (36 - t) < number ∧
      t + (number - t) % (36 - t) + (number - t) / (36 - t) * (36 - t) = number := by
  intro t
  have bounds : 1 ≤ t ∧ t ≤ 26 := threshold_bounds k bias
  have above : t ≤ number := Nat.le_of_not_lt large
  have room : 0 < 36 - t := by omega
  have digit := Nat.mod_lt (number - t) room
  have smaller := Nat.div_le_self (number - t) (36 - t)
  have whole := Nat.mod_add_div' (number - t) (36 - t)
  refine ⟨by omega, by omega, ?_⟩
  rw [Nat.add_assoc, whole]
  exact Nat.add_sub_cancel' above

theorem mem_digits {char : Char} (inside : char ∈ digits bias k number) : char ∈ codeAlphabet := by
  induction number using Nat.strongRecOn generalizing k with
  | ind number ih =>
    have bounds := threshold_bounds k bias
    rw [digits] at inside
    split at inside
    next small =>
      rw [List.mem_singleton.mp inside]
      exact (digitChar_spec number (by omega)).2
    next large =>
      obtain ⟨digit, smaller, _⟩ := number_parts large
      rcases List.mem_cons.mp inside with rfl | later
      · exact (digitChar_spec _ digit).2
      · exact ih _ smaller later

namespace Decoder

variable {state : Decoder} {char : Char} {digit : Nat}

/-- What a decoder holds behind the last digit of a number that led it to `place`. -/
def insert? (state : Decoder) (place : Nat) : Option Decoder :=
  let count := state.output.length + 1
  let code := state.code + place / count
  if 0x10FFFF < code ∨ (0xD800 ≤ code ∧ code ≤ 0xDFFF) then none
  else
    let spot := place % count
    some ⟨spot + 1, spot + 1, 1, 36, code, adapt (place - state.start) count (state.start = 0),
      state.output.take spot ++ code :: state.output.drop spot⟩

theorem take?_last (read : digitOf? char = some digit)
    (small : digit < threshold state.k state.bias) :
    state.take? char = state.insert? (state.place + digit * state.weight) := by
  rw [take?, read]
  exact if_pos small

theorem take?_more (read : digitOf? char = some digit)
    (large : ¬ digit < threshold state.k state.bias) :
    state.take? char = some { state with
      place := state.place + digit * state.weight
      weight := state.weight * (36 - threshold state.k state.bias)
      k := state.k + 36 } := by
  rw [take?, read]
  exact if_neg large

/-- The digits of a number lead as far as the number says. -/
theorem foldlM_digits (number : Nat) (state : Decoder) :
    (digits state.bias state.k number).foldlM take? state =
      state.insert? (state.place + number * state.weight) := by
  induction number using Nat.strongRecOn generalizing state with
  | ind number ih =>
    have bounds := threshold_bounds state.k state.bias
    rw [digits]
    split
    next small =>
      rw [List.foldlM_cons, take?_last (digitChar_spec number (by omega)).1 small]
      exact bind_pure _
    next large =>
      obtain ⟨digit, smaller, whole⟩ := number_parts large
      have more := take?_more (digitChar_spec _ digit).1 (Nat.not_lt.mpr (Nat.le_add_right _ _))
      rw [List.foldlM_cons, more]
      refine (ih _ smaller _).trans (congrArg state.insert? ?_)
      simp only []
      generalize threshold state.k state.bias = t at *
      calc state.place + (t + (number - t) % (36 - t)) * state.weight +
            (number - t) / (36 - t) * (state.weight * (36 - t))
          = state.place + (t + (number - t) % (36 - t) + (number - t) / (36 - t) * (36 - t)) *
              state.weight := by ring
        _ = state.place + number * state.weight := by rw [whole]

end Decoder

end Numbers

def IsScalar (code : Nat) : Prop := code ≤ 0x10FFFF ∧ ¬ (0xD800 ≤ code ∧ code ≤ 0xDFFF)

/-- A decoder that has just read a number for `code`, while the encoder looks for it
between the characters `before` and `after` of a label. -/
def Encoder.reader (encoder : Encoder) (code : Nat) (before after : List Nat) : Decoder where
  place := (before.filter (· ≤ code)).length + 1
  start := (before.filter (· ≤ code)).length + 1
  weight := 1
  k := 36
  code := code
  bias := adapt encoder.delta (encoder.handled + 1) (encoder.handled = encoder.basic)
  output := before.filter (· ≤ code) ++ code :: after.filter (· < code)

/-- A decoder that has read what an encoder wrote behind `plain`, while the encoder looks
for `code` between the characters `before` and `after` of a label. -/
structure Tracks (plain : List Char) (start : Decoder) (code : Nat) (before after : List Nat)
    (encoder : Encoder) (decoder : Decoder) : Prop where
  read : ∃ numbers, encoder.output = plain ++ numbers ∧ (∀ char ∈ numbers, char ∈ codeAlphabet) ∧
    numbers.foldlM Decoder.take? start = some decoder
  output : decoder.output = before.filter (· ≤ code) ++ after.filter (· < code)
  handled : encoder.handled = decoder.output.length
  basic : encoder.basic ≤ encoder.handled
  first : decoder.start = 0 ↔ encoder.handled = encoder.basic
  place : decoder.place = decoder.start
  weight : decoder.weight = 1
  k : decoder.k = 36
  bias : decoder.bias = encoder.bias
  reached : decoder.code ≤ code
  delta : decoder.start + encoder.delta =
    (code - decoder.code) * (decoder.output.length + 1) + (before.filter (· ≤ code)).length

namespace Tracks

variable {plain : List Char} {start : Decoder} {code next : Nat} {before after label : List Nat}
  {encoder : Encoder} {decoder : Decoder} {char : Nat}

theorem insert (tracks : Tracks plain start code before after encoder decoder)
    (scalar : IsScalar code) :
    (digits encoder.bias 36 encoder.delta).foldlM Decoder.take? decoder =
      some (encoder.reader code before after) := by
  let spot := (before.filter (· ≤ code)).length
  have inside : spot < decoder.output.length + 1 := by
    rw [tracks.output, List.length_append]
    omega
  have place : decoder.place + encoder.delta * decoder.weight =
      (code - decoder.code) * (decoder.output.length + 1) + spot := by
    rw [tracks.place, tracks.weight, Nat.mul_one]
    exact tracks.delta
  have quotient : ((code - decoder.code) * (decoder.output.length + 1) + spot) /
      (decoder.output.length + 1) = code - decoder.code := by
    rw [Nat.add_comm, Nat.add_mul_div_right _ _ (Nat.succ_pos _), Nat.div_eq_of_lt inside,
      Nat.zero_add]
  have remainder : ((code - decoder.code) * (decoder.output.length + 1) + spot) %
      (decoder.output.length + 1) = spot := by
    rw [Nat.mul_add_mod_self_right, Nat.mod_eq_of_lt inside]
  have whole : decoder.code + (code - decoder.code) = code := Nat.add_sub_cancel' tracks.reached
  have run := Decoder.foldlM_digits encoder.delta decoder
  rw [tracks.bias, tracks.k] at run
  rw [run, place, Decoder.insert?]
  have moved : (code - decoder.code) * (decoder.output.length + 1) + spot - decoder.start =
      encoder.delta := by
    rw [← tracks.delta, Nat.add_sub_cancel_left]
  have first : decide (decoder.start = 0) = decide (encoder.handled = encoder.basic) :=
    decide_eq_decide.mpr tracks.first
  have front : decoder.output.take spot = before.filter (· ≤ code) := by
    rw [tracks.output, List.take_left' rfl]
  have back : decoder.output.drop spot = after.filter (· < code) := by
    rw [tracks.output, List.drop_left' rfl]
  simp only [quotient, remainder, whole, moved, first, front, back]
  rw [← tracks.handled]
  exact if_neg (not_or.mpr ⟨Nat.not_lt.mpr scalar.1, scalar.2⟩)

/-- A character that was written in an earlier round: the decoder goes past it. -/
theorem look_less (tracks : Tracks plain start code before (char :: after) encoder decoder)
    (less : char < code) :
    Tracks plain start code (before ++ [char]) after { encoder with delta := encoder.delta + 1 }
      decoder := by
  have kept : [char].filter (· ≤ code) = [char] := by simp [Nat.le_of_lt less]
  have written : (char :: after).filter (· < code) = char :: after.filter (· < code) := by
    simp [less]
  exact { tracks with
    output := by
      rw [tracks.output, written, List.filter_append, kept, List.append_assoc]
      rfl
    delta := by
      rw [List.filter_append, kept, List.length_append, ← Nat.add_assoc, ← Nat.add_assoc,
        tracks.delta]
      rfl }

/-- A character that the encoder looks for: a number for it is written. -/
theorem look_same (tracks : Tracks plain start char before (char :: after) encoder decoder)
    (scalar : IsScalar char) :
    Tracks plain start char (before ++ [char]) after
      { encoder with
        delta := 0
        bias := adapt encoder.delta (encoder.handled + 1) (encoder.handled = encoder.basic)
        handled := encoder.handled + 1
        output := encoder.output ++ digits encoder.bias 36 encoder.delta }
      (encoder.reader char before (char :: after)) := by
  have skipped : (char :: after).filter (· < char) = after.filter (· < char) := by simp
  have kept : [char].filter (· ≤ char) = [char] := by simp
  obtain ⟨numbers, written, alphabet, read⟩ := tracks.read
  refine ⟨⟨numbers ++ digits encoder.bias 36 encoder.delta, ?_, ?_, ?_⟩, ?_, ?_, ?_, ?_, rfl, rfl,
    rfl, rfl, Nat.le_refl char, ?_⟩
  · rw [written, List.append_assoc]
  · exact List.forall_mem_append.mpr ⟨alphabet, fun other inside => mem_digits inside⟩
  · rw [List.foldlM_append, read]
    exact tracks.insert scalar
  · rw [Encoder.reader, skipped, List.filter_append, kept, List.append_assoc]
    rfl
  · have length := congrArg List.length tracks.output
    rw [skipped, List.length_append] at length
    rw [Encoder.reader, skipped, tracks.handled, length, List.length_append, List.length_cons]
    rfl
  · exact Nat.le_succ_of_le tracks.basic
  · have basic := tracks.basic
    exact ⟨nofun, fun (same : encoder.handled + 1 = encoder.basic) => by omega⟩
  · rw [List.filter_append, kept, List.length_append, Encoder.reader, Nat.sub_self, Nat.zero_mul,
      Nat.zero_add]
    rfl

theorem look_more (tracks : Tracks plain start code before (char :: after) encoder decoder)
    (more : code < char) : Tracks plain start code (before ++ [char]) after encoder decoder := by
  have dropped : [char].filter (· ≤ code) = [] := by simp [more]
  have unwritten : (char :: after).filter (· < code) = after.filter (· < code) := by
    simp [Nat.le_of_lt more]
  exact { tracks with
    output := by rw [tracks.output, unwritten, List.filter_append, dropped, List.append_nil]
    delta := by rw [List.filter_append, dropped, List.append_nil, tracks.delta] }

theorem look (tracks : Tracks plain start code before (char :: after) encoder decoder)
    (scalar : IsScalar code) :
    ∃ decoder', Tracks plain start code (before ++ [char]) after (encoder.look code char)
      decoder' := by
  rcases Nat.lt_trichotomy char code with less | rfl | more
  · rw [Encoder.look, if_pos less]
    exact ⟨decoder, tracks.look_less less⟩
  · rw [Encoder.look, if_neg (Nat.lt_irrefl char), if_pos rfl]
    exact ⟨_, tracks.look_same scalar⟩
  · rw [Encoder.look, if_neg (Nat.lt_asymm more), if_neg (Nat.ne_of_gt more)]
    exact ⟨decoder, tracks.look_more more⟩

theorem scan (tracks : Tracks plain start code before after encoder decoder)
    (scalar : IsScalar code) :
    ∃ decoder', Tracks plain start code (before ++ after) []
      (after.foldl (Encoder.look code) encoder) decoder' := by
  induction after generalizing before encoder decoder with
  | nil => exact ⟨decoder, by rw [List.append_nil]; exact tracks⟩
  | cons char after ih =>
    obtain ⟨decoder', looked⟩ := tracks.look scalar
    have rest := ih looked
    rwa [List.append_assoc] at rest

/-- Between two rounds the encoder skips the code points that the label does not have. -/
theorem skip (tracks : Tracks plain start code [] label encoder decoder) (ahead : code ≤ next)
    (none : ∀ char ∈ label, code ≤ char → next ≤ char) :
    Tracks plain start next [] label
      { encoder with delta := encoder.delta + (next - code) * (encoder.handled + 1) } decoder where
  read := tracks.read
  output := by
    have same : label.filter (· < code) = label.filter (· < next) := by
      apply List.filter_congr
      intro char inside
      have later := none char inside
      exact decide_eq_decide.mpr ⟨fun less => by omega, fun less => by omega⟩
    rw [tracks.output, same]
    rfl
  handled := tracks.handled
  basic := tracks.basic
  first := tracks.first
  place := tracks.place
  weight := tracks.weight
  k := tracks.k
  bias := tracks.bias
  reached := Nat.le_trans tracks.reached ahead
  delta := by
    have steps : next - decoder.code = (code - decoder.code) + (next - code) := by
      have reached := tracks.reached
      omega
    have delta := tracks.delta
    simp only [List.filter_nil, List.length_nil, Nat.add_zero] at delta ⊢
    rw [← Nat.add_assoc, delta, tracks.handled, steps, Nat.add_mul]

theorem advance (tracks : Tracks plain start code label [] encoder decoder) :
    Tracks plain start (code + 1) [] label { encoder with delta := encoder.delta + 1 } decoder where
  read := tracks.read
  output := by
    rw [tracks.output, List.filter_nil, List.append_nil, List.filter_nil, List.nil_append]
    exact List.filter_congr fun char _ => decide_eq_decide.mpr Nat.lt_succ_iff.symm
  handled := tracks.handled
  basic := tracks.basic
  first := tracks.first
  place := tracks.place
  weight := tracks.weight
  k := tracks.k
  bias := tracks.bias
  reached := Nat.le_succ_of_le tracks.reached
  delta := by
    have delta := tracks.delta
    have length := congrArg List.length tracks.output
    rw [List.filter_nil, List.append_nil] at length
    have steps : code + 1 - decoder.code = code - decoder.code + 1 :=
      Nat.succ_sub tracks.reached
    rw [List.filter_nil, List.length_nil, Nat.add_zero, steps, Nat.succ_mul, ← Nat.add_assoc, delta,
      length, Nat.add_assoc]
    rfl

theorem encodeCodes {codes : List Nat}
    (tracks : Tracks plain start code [] label encoder decoder) (rising : codes.Pairwise (· < ·))
    (all : ∀ char, char ∈ codes ↔ char ∈ label ∧ code ≤ char)
    (scalars : ∀ char ∈ codes, IsScalar char) :
    ∃ last decoder', Tracks plain start last [] label (encodeCodes label code codes encoder)
      decoder' ∧ ∀ char ∈ label, char < last := by
  induction codes generalizing code encoder decoder with
  | nil =>
    refine ⟨code, decoder, tracks, fun char inside => ?_⟩
    apply Nat.lt_of_not_le
    intro above
    cases (all char).mpr ⟨inside, above⟩
  | cons next codes ih =>
    obtain ⟨below, rising⟩ := List.pairwise_cons.mp rising
    obtain ⟨scalar, scalars⟩ := List.forall_mem_cons.mp scalars
    obtain ⟨_, ahead⟩ := (all next).mp List.mem_cons_self
    have skipped := tracks.skip ahead fun char inside above => by
      rcases List.mem_cons.mp ((all char).mpr ⟨inside, above⟩) with rfl | later
      · exact Nat.le_refl char
      · exact Nat.le_of_lt (below char later)
    obtain ⟨decoder', scanned⟩ := skipped.scan scalar
    rw [List.nil_append] at scanned
    refine ih scanned.advance rising (fun char => ⟨fun later => ?_, fun ⟨inside, above⟩ => ?_⟩)
      scalars
    · exact ⟨((all char).mp (List.mem_cons_of_mem next later)).1, below char later⟩
    · rcases List.mem_cons.mp ((all char).mpr ⟨inside, by omega⟩) with rfl | later
      · omega
      · exact later

end Tracks

theorem pairwise_eraseDups {codes : List Nat} (sorted : codes.Pairwise (· ≤ ·)) :
    codes.eraseDups.Pairwise (· < ·) := by
  induction size : codes.length using Nat.strongRecOn generalizing codes with
  | ind size ih =>
    cases codes with
    | nil => exact .nil
    | cons first rest =>
      obtain ⟨below, sorted⟩ := List.pairwise_cons.mp sorted
      rw [List.eraseDups_cons]
      refine List.pairwise_cons.mpr ⟨fun code inside => ?_, ih _ ?_ (sorted.filter _) rfl⟩
      · obtain ⟨among, other⟩ := List.mem_filter.mp (List.mem_eraseDups.mp inside)
        have different : code ≠ first := by simpa using other
        exact Nat.lt_of_le_of_ne (below code among) (Ne.symm different)
      · have shorter := List.length_filter_le (fun code => !code == first) rest
        rw [List.length_cons] at size
        omega

theorem codes_spec (label : List Nat) :
    let codes := ((label.filter (0x80 ≤ ·)).mergeSort).eraseDups
    codes.Pairwise (· < ·) ∧ ∀ char, char ∈ codes ↔ char ∈ label ∧ 0x80 ≤ char := by
  refine ⟨pairwise_eraseDups ?_, fun char => ?_⟩
  · have sorted : ((label.filter (0x80 ≤ ·)).mergeSort fun first second =>
        decide (first ≤ second)).Pairwise fun first second => decide (first ≤ second) = true :=
      List.pairwise_mergeSort (fun _ _ _ => by simpa using Nat.le_trans)
        (fun first second => by simpa using Nat.le_total first second) _
    simpa using sorted
  · simp [List.mem_eraseDups, List.mem_mergeSort]

section Hyphens

variable {before after : List Char}

theorem other_of_not_mem (absent : '-' ∉ after) :
    ∀ char ∈ after.reverse, decide (char ≠ '-') = true := by
  intro char inside
  refine decide_eq_true ?_
  rintro rfl
  exact absent (List.mem_reverse.mp inside)

theorem splitLastHyphen_of_not_mem (absent : '-' ∉ after) :
    splitLastHyphen after = ([], after) := by
  have rest : after.reverse.dropWhile (· ≠ '-') = [] :=
    List.dropWhile_eq_nil_iff.mpr (other_of_not_mem absent)
  rw [splitLastHyphen, List.span_eq_takeWhile_dropWhile, rest]

theorem splitLastHyphen_append (before : List Char) (absent : '-' ∉ after) :
    splitLastHyphen (before ++ '-' :: after) = (before, after) := by
  have reversed : (before ++ '-' :: after).reverse = after.reverse ++ '-' :: before.reverse := by
    simp
  have behind : (after.reverse ++ '-' :: before.reverse).takeWhile (· ≠ '-') = after.reverse := by
    rw [List.takeWhile_append_of_pos (other_of_not_mem absent),
      List.takeWhile_cons_of_neg (by decide), List.append_nil]
  have rest : (after.reverse ++ '-' :: before.reverse).dropWhile (· ≠ '-') =
      '-' :: before.reverse := by
    rw [List.dropWhile_append_of_pos (other_of_not_mem absent),
      List.dropWhile_cons_of_neg (by decide)]
  rw [splitLastHyphen, List.span_eq_takeWhile_dropWhile, reversed, behind, rest]
  simp only [List.reverse_reverse]

end Hyphens

/-- What is written of a label: its plain characters, and the numbers of a decoder's way to
the whole label. -/
theorem toPunycode_spec {label : List Nat} (scalars : ∀ char ∈ label, IsScalar char) :
    ∃ numbers decoder, toPunycode label = (label.filter (· < 0x80)).map Char.ofNat ++
        (if label.filter (· < 0x80) = [] then [] else ['-']) ++ numbers ∧
      (∀ char ∈ numbers, char ∈ codeAlphabet) ∧
      numbers.foldlM Decoder.take? ⟨0, 0, 1, 36, 0x80, 72, label.filter (· < 0x80)⟩ = some decoder ∧
      decoder.k = 36 ∧ decoder.output = label := by
  obtain ⟨rising, all⟩ := codes_spec label
  have begins : Tracks ((label.filter (· < 0x80)).map Char.ofNat ++
      (if label.filter (· < 0x80) = [] then [] else ['-']))
      ⟨0, 0, 1, 36, 0x80, 72, label.filter (· < 0x80)⟩ 0x80 [] label
      ⟨0, 72, (label.filter (· < 0x80)).length, (label.filter (· < 0x80)).length,
        (label.filter (· < 0x80)).map Char.ofNat ++
          (if label.filter (· < 0x80) = [] then [] else ['-'])⟩
      ⟨0, 0, 1, 36, 0x80, 72, label.filter (· < 0x80)⟩ := {
    read := ⟨[], (List.append_nil _).symm, nofun, rfl⟩
    output := rfl
    handled := rfl
    basic := Nat.le_refl _
    first := ⟨fun _ => rfl, fun _ => rfl⟩
    place := rfl
    weight := rfl
    k := rfl
    bias := rfl
    reached := Nat.le_refl _
    delta := by simp }
  obtain ⟨last, decoder, tracks, whole⟩ := begins.encodeCodes rising all fun char inside =>
    scalars char ((all char).mp inside).1
  obtain ⟨numbers, written, alphabet, read⟩ := tracks.read
  refine ⟨numbers, decoder, written, alphabet, read, tracks.k, ?_⟩
  rw [tracks.output, List.filter_nil, List.nil_append]
  exact List.filter_eq_self.mpr fun char inside => decide_eq_true (whole char inside)

/-- A label is read back from its text. -/
theorem ofPunycode?_toPunycode {label : List Nat} (scalars : ∀ char ∈ label, IsScalar char) :
    ofPunycode? (toPunycode label) = some label := by
  obtain ⟨numbers, decoder, written, alphabet, read, finished, whole⟩ := toPunycode_spec scalars
  have noHyphen : '-' ∉ numbers := fun inside => absurd (alphabet '-' inside) (by decide)
  have parts : splitLastHyphen (toPunycode label) =
      ((label.filter (· < 0x80)).map Char.ofNat, numbers) := by
    rw [written]
    by_cases empty : label.filter (· < 0x80) = []
    · rw [if_pos empty, empty]
      exact splitLastHyphen_of_not_mem noHyphen
    · rw [if_neg empty, List.append_assoc]
      exact splitLastHyphen_append _ noHyphen
  have basic : ((label.filter (· < 0x80)).map Char.ofNat).map Char.toNat =
      label.filter (· < 0x80) := by
    rw [List.map_map]
    exact map_eq_self fun char inside =>
      Utf8.toNat_char (of_decide_eq_true (List.mem_filter.mp inside).2)
  rw [ofPunycode?, parts]
  simp only [basic, read, bind, Option.bind_some, finished, if_true, whole]

/-- A decoder that has put none but characters beyond ASCII between those it began with. -/
structure Decoder.Keeps (basic : List Nat) (state : Decoder) : Prop where
  code : 0x80 ≤ state.code
  output : ∀ code ∈ state.output, code ∈ basic ∨ 0x80 ≤ code

namespace Decoder.Keeps

variable {basic : List Nat} {state next : Decoder}

theorem insert {place : Nat} (keeps : state.Keeps basic) (inserted : state.insert? place = some next) :
    next.Keeps basic := by
  have above : 0x80 ≤ state.code + place / (state.output.length + 1) :=
    Nat.le_add_right_of_le keeps.code
  rw [insert?] at inserted
  split at inserted
  · cases inserted
  · cases inserted
    refine ⟨above, fun code inside => ?_⟩
    rcases List.mem_append.mp inside with before | rest
    · exact keeps.output code (List.mem_of_mem_take before)
    · rcases List.mem_cons.mp rest with rfl | after
      · exact .inr above
      · exact keeps.output code (List.mem_of_mem_drop after)

theorem take {char : Char} (keeps : state.Keeps basic) (taken : state.take? char = some next) :
    next.Keeps basic := by
  cases read : digitOf? char with
  | none =>
    rw [take?, read] at taken
    cases taken
  | some digit =>
    by_cases small : digit < threshold state.k state.bias
    · rw [take?_last read small] at taken
      exact keeps.insert taken
    · rw [take?_more read small] at taken
      cases taken
      exact ⟨keeps.code, keeps.output⟩

theorem foldlM {numbers : List Char} (keeps : state.Keeps basic)
    (taken : numbers.foldlM take? state = some next) : next.Keeps basic := by
  induction numbers generalizing state with
  | nil =>
    cases taken
    exact keeps
  | cons char numbers ih =>
    rw [List.foldlM_cons] at taken
    obtain ⟨middle, first, rest⟩ := Option.bind_eq_some_iff.mp taken
    exact ih (keeps.take first) rest

end Decoder.Keeps

theorem mem_of_splitLastHyphen {text : List Char} :
    ∀ char ∈ (splitLastHyphen text).1, char ∈ text := by
  intro char inside
  rw [splitLastHyphen, List.span_eq_takeWhile_dropWhile] at inside
  cases rest : text.reverse.dropWhile (· ≠ '-') with
  | nil =>
    rw [rest] at inside
    cases inside
  | cons hyphen before =>
    rw [rest] at inside
    have among : before ⊆ text.reverse := fun other here =>
      (List.dropWhile_suffix _).subset (by rw [rest]; exact List.mem_cons_of_mem hyphen here)
    exact List.mem_reverse.mp (among (List.mem_reverse.mp inside))

theorem mem_of_ofPunycode? {text : List Char} {label : List Nat}
    (read : ofPunycode? text = some label) :
    ∀ code ∈ label, code < 0x80 → ∃ char ∈ text, char.toNat = code := by
  intro code inside low
  rw [ofPunycode?] at read
  obtain ⟨last, taken, ended⟩ := Option.bind_eq_some_iff.mp read
  have begins : Decoder.Keeps ((splitLastHyphen text).1.map Char.toNat)
      ⟨0, 0, 1, 36, 0x80, 72, (splitLastHyphen text).1.map Char.toNat⟩ :=
    ⟨Nat.le_refl _, fun code inside => .inl inside⟩
  have keeps := begins.foldlM taken
  split at ended
  · cases ended
    rcases keeps.output code inside with basic | high
    · obtain ⟨char, among, rfl⟩ := List.mem_map.mp basic
      exact ⟨char, mem_of_splitLastHyphen char among, rfl⟩
    · omega
  · cases ended

end LoginGateway.Domain
