import LoginGateway.Proofs.Cutting
import LoginGateway.Proofs.Escapes
import LoginGateway.Url.Query

/-! Pairs that are written into a form are read from it. No escape of a name or a value
holds a sign that parts them, so a form falls apart where it was joined. -/

namespace LoginGateway

namespace Form

def alphabet : List Char :=
  "0123456789ABCDEFGHIJKLMNOPQRSTUVWXYZabcdefghijklmnopqrstuvwxyz*-._+%".toList

theorem mem_alphabet_of_plain : ∀ code < 256, isPlain (UInt8.ofNat code) = true →
    Char.ofNat code ∈ alphabet := by
  decide +kernel

theorem hexDigit_mem_alphabet : ∀ digit < 16, Percent.hexDigit digit ∈ alphabet := by
  decide

theorem mem_alphabet {text : String} : ∀ char ∈ encode text, char ∈ alphabet := by
  intro char inside
  obtain ⟨octet, _, written⟩ := List.mem_flatMap.mp inside
  split at written
  next plain =>
    rw [List.mem_singleton.mp written]
    exact mem_alphabet_of_plain octet.toNat octet.toNat_lt (by rw [UInt8.ofNat_toNat]; exact plain)
  next =>
    split at written
    next =>
      rw [List.mem_singleton.mp written]
      decide
    next =>
      obtain ⟨high, low⟩ := Percent.halves_lt octet
      simp only [Percent.escape, List.mem_cons, List.not_mem_nil, or_false] at written
      rcases written with rfl | rfl | rfl
      · decide
      · exact hexDigit_mem_alphabet _ high
      · exact hexDigit_mem_alphabet _ low

theorem not_mem_octets {sign : UInt8} (ascii : sign.toNat < 0x80)
    (foreign : Char.ofNat sign.toNat ∉ alphabet) (text : String) : sign ∉ Utf8.encode (encode text) :=
  fun inside => foreign (mem_alphabet _ (Utf8.mem_of_mem_encode ascii inside))

theorem octets_encodePair (pair : String × String) : Utf8.encode (encodePair pair) =
    Utf8.encode (encode pair.1) ++ 61 :: Utf8.encode (encode pair.2) := by
  rw [encodePair, Utf8.encode_append, Utf8.encode_cons_ascii (by decide)]
  rfl

@[simp] theorem parse_nil : parse [] = [] := rfl

theorem parse_append (before after : Octets) :
    parse (before ++ 38 :: after) = parse before ++ parse after := by
  simp only [parse, pieces_append, List.filter_append, List.map_append]

theorem parse_encodePair (pair : String × String) :
    parse (Utf8.encode (encodePair pair)) = [pair] := by
  have name : (61 : UInt8) ∉ Utf8.encode (encode pair.1) :=
    not_mem_octets (by decide) (by decide) pair.1
  have whole : (38 : UInt8) ∉ Utf8.encode (encodePair pair) := by
    rw [octets_encodePair]
    intro inside
    rcases List.mem_append.mp inside with before | after
    · exact not_mem_octets (by decide) (by decide) pair.1 before
    · rcases List.mem_cons.mp after with sign | value
      · exact absurd sign (by decide)
      · exact not_mem_octets (by decide) (by decide) pair.2 value
  have filled : Utf8.encode (encodePair pair) ≠ [] := by simp [octets_encodePair]
  rw [parse, pieces_of_not_mem whole, List.filter_cons_of_pos (by simpa using filled),
    List.filter_nil, List.map_singleton, octets_encodePair, cutFirst_append name]
  simp only [Option.getD_some, decode_octets_encode]

theorem serialize_cons (pair next : String × String) (rest : List (String × String)) :
    serialize (pair :: next :: rest) = encodePair pair ++ '&' :: serialize (next :: rest) := by
  simp only [serialize, List.map_cons, List.intersperse_cons_cons, List.flatten_cons,
    List.singleton_append]

theorem parse_serialize (pairs : List (String × String)) :
    parse (Utf8.encode (serialize pairs)) = pairs := by
  induction pairs with
  | nil => rfl
  | cons pair rest ih =>
    cases rest with
    | nil =>
      have alone : serialize [pair] = encodePair pair := by simp [serialize]
      rw [alone, parse_encodePair]
    | cons next rest =>
      rw [serialize_cons, Utf8.encode_append, Utf8.encode_cons_ascii (by decide)]
      exact (parse_append _ _).trans (by rw [parse_encodePair, ih, List.singleton_append])

end Form

theorem Url.queryPairs_appendPairs (url : Url) (pairs : List (String × String)) :
    (url.appendPairs pairs).queryPairs = url.queryPairs ++ pairs := by
  simp only [appendPairs, queryPairs]
  split
  next empty => simp [empty, Form.parse_serialize]
  next before found =>
    rw [found, Option.getD_some, Option.getD_some, Utf8.encode_append,
      Utf8.encode_cons_ascii (by decide)]
    exact (Form.parse_append _ _).trans (by rw [Form.parse_serialize])
  next none => simp [none, Form.parse_serialize]

end LoginGateway
