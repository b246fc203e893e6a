import LoginGateway.Proofs.DomainNames
import LoginGateway.Url.Address
import Mathlib.Data.List.Induction

/-! Addresses are read from the texts they are written as. Octets are written in decimal
and pieces in hexadecimal, and the run of zeros that is left out of a text is as long as
the pieces that are missing in it. -/

namespace LoginGateway

section Digits

theorem digit_of_mem_toDigits {base number : Nat} (large : 1 < base) {char : Char}
    (inside : char ∈ Nat.toDigits base number) : ∃ digit < base, char = Nat.digitChar digit := by
  induction number using Nat.strongRecOn with
  | ind number ih =>
    rw [Nat.toDigits_eq_if large] at inside
    split at inside
    next small => exact ⟨number, small, List.mem_singleton.mp inside⟩
    next =>
      rcases List.mem_append.mp inside with before | last
      · exact ih (number / base) (Nat.div_lt_self (by omega) large) before
      · exact ⟨number % base, Nat.mod_lt number (by omega), List.mem_singleton.mp last⟩

def decimal : List Char := ".0123456789".toList

/-- The characters of addresses that are made of pieces. -/
def hexadecimal : List Char := ":0123456789abcdef".toList

theorem mem_decimal_of_repr {number : Nat} {char : Char} (inside : char ∈ (Nat.repr number).toList) :
    char ∈ decimal ∧ char ≠ '.' := by
  have digits : ∀ digit < 10, Nat.digitChar digit ∈ decimal ∧ Nat.digitChar digit ≠ '.' := by decide
  rw [Nat.toList_repr] at inside
  obtain ⟨digit, small, rfl⟩ := digit_of_mem_toDigits (by decide) inside
  exact digits digit small

theorem isDigit_of_mem_repr (number : Nat) :
    ∀ char ∈ (Nat.repr number).toList, char.isDigit = true := by
  rw [Nat.toList_repr]
  exact fun char inside => Nat.isDigit_of_mem_toDigits (by decide) (by decide) inside

theorem digitNumber?_digitChar : ∀ digit < 16, digitNumber? (Nat.digitChar digit) = some digit := by
  decide

theorem numberIn?_concat (base : Nat) (digits : List Char) (char : Char) :
    numberIn? base (digits ++ [char]) = (numberIn? base digits).bind fun value =>
      (digitNumber? char).bind fun digit =>
        if digit < base then some (value * base + digit) else none := by
  rw [numberIn?, List.foldlM_append]
  refine congrArg _ (funext fun value => ?_)
  rw [List.foldlM_cons]
  exact bind_pure _

theorem numberIn?_toDigits {base : Nat} (large : 1 < base) (known : base ≤ 16) (number : Nat) :
    numberIn? base (Nat.toDigits base number) = some number := by
  have last (value digit : Nat) (small : digit < base) :
      ((digitNumber? (Nat.digitChar digit)).bind fun digit =>
        if digit < base then some (value * base + digit) else none) =
          some (value * base + digit) := by
    rw [digitNumber?_digitChar digit (by omega)]
    exact if_pos small
  induction number using Nat.strongRecOn with
  | ind number ih =>
    rw [Nat.toDigits_eq_if large]
    split
    next small =>
      have whole := numberIn?_concat base [] (Nat.digitChar number)
      have one := last 0 number small
      rw [List.nil_append] at whole
      rw [Nat.zero_mul, Nat.zero_add] at one
      rw [whole, numberIn?, List.foldlM_nil, Option.pure_def, Option.bind_some, Nat.zero_mul]
      simpa using one
    next =>
      have smaller := ih (number / base) (Nat.div_lt_self (by omega) large)
      rw [numberIn?_concat, smaller, Option.bind_some,
        last _ _ (Nat.mod_lt number (by omega)), Nat.mul_comm, Nat.div_add_mod]

theorem decimal_spec : ∀ char ∈ decimal, char.toLower = char ∧ char.toNat < 0x80 ∧
    Domain.isForbidden char = false ∧ char ≠ 'x' :=
  List.all_iff_forall_prop.mp (by decide)

theorem numberIn?_lt {base : Nat} {digits : List Char} : ∀ {number : Nat},
    numberIn? base digits = some number → number < base ^ digits.length := by
  induction digits using List.reverseRecOn with
  | nil =>
    intro number read
    cases read
    exact Nat.one_pos
  | append_singleton digits char ih =>
    intro number read
    rw [numberIn?_concat] at read
    obtain ⟨value, before, read⟩ := Option.bind_eq_some_iff.mp read
    obtain ⟨digit, _, read⟩ := Option.bind_eq_some_iff.mp read
    split at read
    next small =>
      cases read
      rw [List.length_append, List.length_singleton, Nat.pow_succ]
      calc value * base + digit < (value + 1) * base := by
            rw [Nat.succ_mul]
            exact Nat.add_lt_add_left small _
        _ ≤ base ^ digits.length * base := Nat.mul_le_mul_right base (ih before)
    next => cases read

end Digits

namespace Ipv4

theorem part?_repr : ∀ octet < 256, part? (Nat.repr octet).toList = some octet := by
  decide +kernel

def octetsOf (address : Nat) : List Nat :=
  [address >>> 24, (address >>> 16) % 256, (address >>> 8) % 256, address % 256]

variable {address : Nat}

theorem lt_of_mem_octetsOf (small : address < 2 ^ 32) : ∀ octet ∈ octetsOf address, octet < 256 := by
  simp only [octetsOf, Nat.shiftRight_eq_div_pow, List.forall_mem_cons]
  refine ⟨by omega, by omega, by omega, by omega, nofun⟩

theorem pieces_text (address : Nat) :
    pieces '.' (text address) = (octetsOf address).map fun octet => (Nat.repr octet).toList := by
  refine pieces_intersperse (List.cons_ne_nil _ _) fun part among sign => ?_
  obtain ⟨octet, _, rfl⟩ := List.mem_map.mp among
  exact (mem_decimal_of_repr sign).2 rfl

theorem partsOf_text (address : Nat) :
    partsOf (text address) = (octetsOf address).map fun octet => (Nat.repr octet).toList := by
  rw [partsOf, pieces_text address]
  refine if_neg fun ⟨_, empty⟩ => ?_
  have last : (Nat.repr (address % 256)).toList = [] := Option.some.inj empty
  rw [Nat.toList_repr] at last
  exact Nat.toDigits_ne_nil last

theorem mem_text {char : Char} (inside : char ∈ text address) :
    char ∈ decimal := by
  rcases mem_of_mem_intersperse inside with rfl | ⟨part, among, here⟩
  · decide
  · obtain ⟨octet, _, rfl⟩ := List.mem_map.mp among
    exact (mem_decimal_of_repr here).1

theorem text_ne_nil (address : Nat) : text address ≠ [] := by
  intro empty
  have four := congrArg List.length (pieces_text address)
  rw [empty] at four
  cases four

theorem toAscii?_text (address : Nat) :
    Domain.toAscii? (text address) = some (text address) := by
  have lower : (text address).map Char.toLower = text address :=
    map_eq_self fun char inside => (decimal_spec char (mem_text inside)).1
  have unmarked (octet : Nat) : "xn--".toList.isPrefixOf (Nat.repr octet).toList = false := by
    refine Bool.eq_false_iff.mpr fun marked => ?_
    have inside := (List.isPrefixOf_iff_prefix.mp marked).subset (show 'x' ∈ _ from List.mem_cons_self)
    exact (decimal_spec 'x' (mem_decimal_of_repr inside).1).2.2.2 rfl
  refine Domain.toAscii?_of_small lower ?_ ?_
  · rw [Domain.isPlain, lower, pieces_text address, Bool.and_eq_true, List.all_map]
    refine ⟨List.all_eq_true.mpr fun char inside => ?_, List.all_eq_true.mpr fun octet _ => ?_⟩
    · exact decide_eq_true (decimal_spec char (mem_text inside)).2.1
    · exact (Bool.not_eq_true' _).mpr (unmarked octet)
  · rw [List.any_eq_false]
    intro char inside
    rw [(decimal_spec char (mem_text inside)).2.2.1]
    decide

theorem isMeant_text (address : Nat) : isMeant (text address) = true := by
  have last := part?_repr (address % 256) (Nat.mod_lt _ (by decide))
  have found : ((octetsOf address).map fun octet => (Nat.repr octet).toList).getLast? =
      some (Nat.repr (address % 256)).toList := rfl
  rw [isMeant, partsOf_text address, found]
  simp only [last, Option.isSome_some, Bool.or_true]

theorem parse?_text (small : address < 2 ^ 32) : parse? (text address) = some address := by
  have numbers : ((octetsOf address).map fun octet => (Nat.repr octet).toList).mapM part? =
      some (octetsOf address) :=
    Domain.mapM_map fun octet inside => part?_repr octet (lt_of_mem_octetsOf small octet inside)
  have last : (octetsOf address).getLast? = some (address % 256) := rfl
  have front : (octetsOf address).dropLast =
      [address >>> 24, (address >>> 16) % 256, (address >>> 8) % 256] := rfl
  have inside : ((octetsOf address).dropLast.any (255 < ·)) = false := by
    refine List.any_eq_false.mpr fun octet among => ?_
    have octet := lt_of_mem_octetsOf small octet ((List.dropLast_sublist _).subset among)
    simpa using Nat.le_of_lt_succ octet
  have fits : ¬ (256 ≤ address % 256 ∨ ((octetsOf address).dropLast.any (255 < ·)) = true) :=
    not_or.mpr ⟨Nat.not_le.mpr (Nat.mod_lt address (by decide)), Bool.eq_false_iff.mp inside⟩
  have four : ¬ 4 < ((octetsOf address).map fun octet => (Nat.repr octet).toList).length := by
    rw [List.length_map]
    exact Nat.lt_irrefl 4
  rw [parse?, partsOf_text address]
  simp only [numbers, bind, Option.bind_some, if_neg four, last]
  refine (if_neg fits).trans (congrArg some ?_)
  rw [front]
  simp only [List.foldl_cons, List.foldl_nil, List.length_cons, List.length_nil,
    Nat.shiftRight_eq_div_pow, Nat.shiftLeft_eq]
  omega

theorem foldl_octets_lt {octets : List Nat} (small : octets.any (255 < ·) = false) :
    ∀ value bound, value < bound →
      octets.foldl (fun value octet => value * 256 + octet) value < bound * 256 ^ octets.length := by
  induction octets with
  | nil =>
    intro value bound less
    simpa using less
  | cons octet octets ih =>
    intro value bound less
    simp only [List.any_cons, Bool.or_eq_false_iff, decide_eq_false_iff_not, Nat.not_lt] at small
    have later := ih small.2 (value * 256 + octet) (bound * 256) (by omega)
    rw [List.foldl_cons, List.length_cons, Nat.pow_succ', ← Nat.mul_assoc]
    exact later

/-- A last part fills the octets that the parts before it leave. -/
theorem fill_lt {count value last : Nat} (short : count ≤ 3) (bound : value < 1 * 256 ^ count)
    (room : last < 1 <<< (8 * (4 - count))) : value * 1 <<< (8 * (4 - count)) + last < 2 ^ 32 := by
  simp only [Nat.shiftLeft_eq] at room ⊢
  obtain rfl | rfl | rfl | rfl : count = 0 ∨ count = 1 ∨ count = 2 ∨ count = 3 := by omega
  all_goals omega

theorem lt_of_parse? {name : List Char} (read : parse? name = some address) : address < 2 ^ 32 := by
  simp only [parse?, bind] at read
  split at read
  next => cases read
  next few =>
    obtain ⟨numbers, all, read⟩ := Option.bind_eq_some_iff.mp read
    obtain ⟨last, found, read⟩ := Option.bind_eq_some_iff.mp read
    split at read
    next => cases read
    next fits =>
      cases read
      obtain ⟨room, small⟩ := not_or.mp fits
      have length := (Domain.mem_of_mapM all).1
      have short : numbers.dropLast.length ≤ 3 := by
        rw [List.length_dropLast]
        omega
      exact fill_lt short (foldl_octets_lt (Bool.eq_false_iff.mpr small) 0 1 Nat.one_pos)
        (Nat.not_le.mp room)

end Ipv4

namespace Ipv6

/-- The pieces of an address. -/
structure IsAddress (pieces : List Nat) : Prop where
  eight : pieces.length = 8
  small : ∀ piece ∈ pieces, piece < 65536

section Reading

theorem lt_of_four {digits : List Char} {piece : Nat} (short : digits.length ≤ 4)
    (read : numberIn? 16 digits = some piece) : piece < 65536 :=
  calc piece < 16 ^ digits.length := numberIn?_lt read
    _ ≤ 16 ^ 4 := Nat.pow_le_pow_right (by decide) short

theorem lt_of_embedded? {digits : List Char} {found : List Nat}
    (read : embedded? digits = some found) : ∀ piece ∈ found, piece < 65536 := by
  simp only [embedded?, bind] at read
  split at read
  next => cases read
  next =>
    obtain ⟨octets, all, read⟩ := Option.bind_eq_some_iff.mp read
    have small : ∀ octet ∈ octets, octet ≤ 255 := by
      intro octet inside
      obtain ⟨part, _, same⟩ := (Domain.mem_of_mapM all).2 octet inside
      split at same
      next => cases same
      next =>
        obtain ⟨number, _, same⟩ := Option.bind_eq_some_iff.mp same
        split at same
        next fits =>
          cases same
          exact fits
        next => cases same
    split at read
    next a b c d =>
      cases read
      simp only [List.forall_mem_cons] at small ⊢
      refine ⟨by omega, by omega, nofun⟩
    next => cases read

theorem lt_of_pieces? {parts : List (List Char)} : ∀ {found : List Nat},
    pieces? parts = some found → ∀ piece ∈ found, piece < 65536 := by
  induction parts with
  | nil =>
    intro found read
    cases read
    exact nofun
  | cons part parts ih =>
    intro found read
    cases parts with
    | nil =>
      rw [pieces?] at read
      split at read
      next => exact lt_of_embedded? read
      next =>
        split at read
        next => cases read
        next fits =>
          obtain ⟨number, digits, rfl⟩ := Option.map_eq_some_iff.mp read
          have small := lt_of_four (Nat.not_lt.mp (not_or.mp fits).2) digits
          exact List.forall_mem_cons.mpr ⟨small, nofun⟩
    | cons next rest =>
      rw [pieces?.eq_3 _ _ (List.cons_ne_nil _ _)] at read
      split at read
      next => cases read
      next fits =>
        obtain ⟨number, digits, read⟩ := Option.bind_eq_some_iff.mp read
        obtain ⟨others, later, read⟩ := Option.bind_eq_some_iff.mp read
        cases read
        have small := lt_of_four (Nat.not_lt.mp (not_or.mp fits).2) digits
        exact List.forall_mem_cons.mpr ⟨small, ih later⟩

theorem lt_of_side? {text : List Char} {found : List Nat} (read : side? text = some found) :
    ∀ piece ∈ found, piece < 65536 := by
  rw [side?] at read
  split at read
  next =>
    cases read
    exact nofun
  next => exact lt_of_pieces? read

theorem isAddress_of_parse? {text : List Char} {found : List Nat}
    (read : parse? text = some found) : IsAddress found := by
  simp only [parse?, bind] at read
  split at read
  next =>
    obtain ⟨pieces, whole, read⟩ := Option.bind_eq_some_iff.mp read
    split at read
    next eight =>
      cases read
      exact ⟨eight, lt_of_side? whole⟩
    next => cases read
  next before after _ =>
    split at read
    next => cases read
    next =>
      obtain ⟨front, first, read⟩ := Option.bind_eq_some_iff.mp read
      obtain ⟨back, last, read⟩ := Option.bind_eq_some_iff.mp read
      split at read
      next room =>
        cases read
        constructor
        · simp only [List.length_append, List.length_replicate]
          omega
        · intro piece inside
          rcases List.mem_append.mp inside with inside | inside
          · rcases List.mem_append.mp inside with inside | inside
            · exact lt_of_side? first piece inside
            · rw [List.eq_of_mem_replicate inside]
              decide
          · exact lt_of_side? last piece inside
      next => cases read

end Reading

section Texts

variable {pieces : List Nat}

theorem mem_hexText {char : Char} {piece : Nat} (inside : char ∈ hexText piece) :
    char ∈ hexadecimal ∧ char ≠ ':' := by
  have digits : ∀ digit < 16, Nat.digitChar digit ∈ hexadecimal ∧ Nat.digitChar digit ≠ ':' := by
    decide
  obtain ⟨digit, small, rfl⟩ := digit_of_mem_toDigits (by decide) inside
  exact digits digit small

theorem mem_joined {char : Char} (inside : char ∈ joined pieces) : char ∈ hexadecimal := by
  rcases mem_of_mem_intersperse inside with rfl | ⟨part, among, here⟩
  · decide
  · obtain ⟨piece, _, rfl⟩ := List.mem_map.mp among
    exact (mem_hexText here).1

theorem mem_text {char : Char} (inside : char ∈ text pieces) : char ∈ hexadecimal := by
  simp only [text] at inside
  split at inside
  next =>
    rcases List.mem_append.mp inside with before | after
    · exact mem_joined before
    · rcases List.mem_cons.mp after with rfl | after
      · decide
      · rcases List.mem_cons.mp after with rfl | after
        · decide
        · exact mem_joined after
  next => exact mem_joined inside

theorem not_mem_hexText (piece : Nat) : ':' ∉ hexText piece ∧ '.' ∉ hexText piece :=
  ⟨fun inside => (mem_hexText inside).2 rfl, fun inside => absurd (mem_hexText inside).1 (by decide)⟩

theorem read_hexText {piece : Nat} (small : piece < 65536) :
    ¬ (hexText piece = [] ∨ 4 < (hexText piece).length) ∧
      numberIn? 16 (hexText piece) = some piece := by
  refine ⟨not_or.mpr ⟨Nat.toDigits_ne_nil, Nat.not_lt.mpr ?_⟩,
    numberIn?_toDigits (by decide) (by decide) piece⟩
  exact (Nat.length_toDigits_le_iff (by decide) (by decide)).mpr small

theorem pieces?_hexText (small : ∀ piece ∈ pieces, piece < 65536) :
    pieces? (pieces.map hexText) = some pieces := by
  induction pieces with
  | nil => rfl
  | cons piece rest ih =>
    obtain ⟨here, later⟩ := List.forall_mem_cons.mp small
    obtain ⟨fits, number⟩ := read_hexText here
    cases rest with
    | nil =>
      have noDot : (hexText piece).contains '.' = false := by
        rw [List.contains_eq_mem]
        exact decide_eq_false (not_mem_hexText piece).2
      rw [List.map_cons, List.map_nil, pieces?, noDot, if_neg Bool.false_ne_true, if_neg fits,
        number]
      rfl
    | cons next rest =>
      rw [List.map_cons, List.map_cons, pieces?, if_neg fits, number, ← List.map_cons, ih later]
      · rfl
      · exact nofun

theorem joined_cons_cons (piece next : Nat) (rest : List Nat) :
    joined (piece :: next :: rest) = hexText piece ++ ':' :: joined (next :: rest) := by
  rw [joined, List.map_cons, List.map_cons, List.intersperse_cons_cons, List.flatten_cons,
    List.flatten_cons]
  rfl

theorem exists_joined (piece : Nat) (rest : List Nat) :
    ∃ first others, joined (piece :: rest) = first :: others ∧ first ≠ ':' := by
  have some : hexText piece ≠ [] := Nat.toDigits_ne_nil
  obtain ⟨first, digits, same⟩ := List.exists_cons_of_ne_nil some
  have different : first ≠ ':' := by
    rintro rfl
    refine (not_mem_hexText piece).1 ?_
    rw [same]
    exact List.mem_cons_self
  cases rest with
  | nil =>
    refine ⟨first, digits, ?_, different⟩
    rw [joined, List.map_cons, List.map_nil, List.intersperse_singleton, List.flatten_singleton, same]
  | cons next rest =>
    refine ⟨first, digits ++ ':' :: joined (next :: rest), ?_, different⟩
    rw [joined_cons_cons, same]
    rfl

theorem side?_joined (small : ∀ piece ∈ pieces, piece < 65536) :
    side? (joined pieces) = some pieces := by
  cases pieces with
  | nil => rfl
  | cons piece rest =>
    obtain ⟨first, others, same, _⟩ := exists_joined piece rest
    have some : joined (piece :: rest) ≠ [] := by
      rw [same]
      exact List.cons_ne_nil _ _
    have cut : LoginGateway.pieces ':' (joined (piece :: rest)) = (piece :: rest).map hexText := by
      refine pieces_intersperse (List.cons_ne_nil _ _) fun part among => ?_
      obtain ⟨number, _, rfl⟩ := List.mem_map.mp among
      exact (not_mem_hexText number).1
    rw [side?, if_neg some, cut, pieces?_hexText small]

theorem noDot_joined (pieces : List Nat) : (joined pieces).contains '.' = false := by
  rw [List.contains_eq_mem]
  exact decide_eq_false fun inside => absurd (mem_joined inside) (by decide)

theorem splitGap_behind {part : List Char} (plain : ':' ∉ part) (tail : List Char) :
    splitGap (part ++ tail) = (splitGap tail).map fun sides => (part ++ sides.1, sides.2) := by
  induction part with
  | nil => exact Option.map_id'.symm
  | cons char part ih =>
    obtain ⟨different, later⟩ := not_or.mp (mt List.mem_cons.mpr plain)
    rw [List.cons_append, splitGap, ih later, Option.map_map]
    · rfl
    · exact fun rest same => absurd same.symm different

/-- Two colons stand together behind joined pieces at the earliest. -/
theorem splitGap_joined (pieces : List Nat) (tail : List Char) :
    splitGap (joined pieces ++ tail) =
      (splitGap tail).map fun sides => (joined pieces ++ sides.1, sides.2) := by
  induction pieces with
  | nil => exact Option.map_id'.symm
  | cons piece rest ih =>
    cases rest with
    | nil =>
      have alone : joined [piece] = hexText piece := by
        rw [joined, List.map_cons, List.map_nil, List.intersperse_singleton, List.flatten_singleton]
      rw [alone, splitGap_behind (not_mem_hexText piece).1]
    | cons next rest =>
      obtain ⟨first, others, same, different⟩ := exists_joined next rest
      have colon : splitGap (':' :: (joined (next :: rest) ++ tail)) =
          (splitGap (joined (next :: rest) ++ tail)).map fun sides => (':' :: sides.1, sides.2) := by
        rw [same, List.cons_append, splitGap]
        intro _ _ impossible
        exact absurd (List.cons.inj impossible).1 different
      rw [joined_cons_cons, List.append_assoc, List.cons_append,
        splitGap_behind (not_mem_hexText piece).1, colon, ih, Option.map_map, Option.map_map]
      refine congrFun (congrArg _ (funext fun sides => ?_)) _
      simp

/-- A run is a list of zeros within the pieces. -/
theorem longestRun_spec (pieces : List Nat) : ∀ place, ∃ before after,
    pieces = before ++ List.replicate (longestRun place pieces).2 0 ++ after ∧
      (longestRun place pieces).1 = place + before.length := by
  induction pieces with
  | nil => exact fun place => ⟨[], [], rfl, rfl⟩
  | cons piece rest ih =>
    intro place
    rw [longestRun]
    split
    next =>
      refine ⟨[], (piece :: rest).dropWhile (· = 0), ?_, rfl⟩
      have run : (piece :: rest).takeWhile (· = 0) = List.replicate (zeros (piece :: rest)) 0 :=
        List.eq_replicate_of_mem fun number inside => by
          simpa using List.mem_takeWhile_imp inside
      rw [List.nil_append, ← run, List.takeWhile_append_dropWhile]
    next =>
      obtain ⟨before, after, same, here⟩ := ih (place + 1)
      refine ⟨piece :: before, after, ?_, ?_⟩
      · rw [List.cons_append, List.cons_append, ← same]
      · rw [here, List.length_cons]
        omega

theorem exists_text (pieces : List Nat) : ∃ before after count,
    pieces = before ++ List.replicate count 0 ++ after ∧
      text pieces = if 2 ≤ count then joined before ++ ':' :: ':' :: joined after else joined pieces := by
  obtain ⟨before, after, same, place⟩ := longestRun_spec pieces 0
  refine ⟨before, after, (longestRun 0 pieces).2, same, ?_⟩
  have front : pieces.take (longestRun 0 pieces).1 = before := by
    rw [place, Nat.zero_add, same, List.append_assoc]
    exact List.take_left' rfl
  have back : pieces.drop ((longestRun 0 pieces).1 + (longestRun 0 pieces).2) = after := by
    rw [place, Nat.zero_add]
    generalize (longestRun 0 pieces).2 = count at *
    rw [same]
    exact List.drop_left' (by simp)
  rw [← front, ← back]
  rfl

theorem parse?_text (address : IsAddress pieces) : parse? (text pieces) = some pieces := by
  obtain ⟨before, after, count, same, written⟩ := exists_text pieces
  rw [written]
  obtain ⟨eight, small⟩ := address
  split
  next long =>
    rw [same] at eight small
    simp only [List.forall_mem_append] at small
    have cut : splitGap (joined before ++ ':' :: ':' :: joined after) =
        some (joined before, joined after) := by
      rw [splitGap_joined, splitGap, Option.map_some, List.append_nil]
    simp only [List.length_append, List.length_replicate] at eight
    have room : before.length + after.length < 8 := by omega
    have gap : 8 - before.length - after.length = count := by omega
    simp only [parse?, cut, noDot_joined, side?_joined small.1.1, side?_joined small.2, bind,
      Option.bind_some, if_pos room, gap, Bool.false_eq_true, if_false]
    rw [same]
  next =>
    have whole := splitGap_joined pieces []
    rw [List.append_nil] at whole
    rw [parse?, whole, splitGap]
    simp only [Option.map_none, side?_joined small, bind, Option.bind_some, if_pos eight]

end Texts

end Ipv6

end LoginGateway
