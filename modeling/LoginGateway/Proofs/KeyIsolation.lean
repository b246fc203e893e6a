import LoginGateway.Proofs.TokenAcceptance
import Mathlib.Data.FinEnum
import Mathlib.Data.Fintype.BigOperators
import Mathlib.Data.Fintype.Pigeonhole

/-! What a token is worth under another key than its own. An authentication code hangs on a key
only through the block that the key fills, so keys that fill one block accept each other's
tokens. Under a key that fills another block a token is refused, unless the two texts that are
hashed last happen to have one hash. -/

namespace LoginGateway

namespace Hmac

variable {first second : Octets}

/-- What is hashed last for the code of a message. -/
def lastText (key message : Octets) : Octets :=
  (keyBlock key).map (· ^^^ 0x5C) ++ Sha256.hash ((keyBlock key).map (· ^^^ 0x36) ++ message)

theorem sign_eq (key message : Octets) : sign key message = Sha256.hash (lastText key message) := rfl

theorem sign_congr (alike : keyBlock first = keyBlock second) (message : Octets) :
    sign first message = sign second message := by
  rw [sign_eq, sign_eq, lastText, lastText, alike]

theorem keyBlock_of_short (short : first.length ≤ blockLength) :
    keyBlock first = first ++ List.replicate (blockLength - first.length) 0 := by
  simp only [keyBlock, if_neg (Nat.not_lt.mpr short)]

theorem keyBlock_of_long (long : blockLength < first.length) :
    keyBlock first = keyBlock (Sha256.hash first) := by
  have short : (Sha256.hash first).length ≤ blockLength := by
    rw [Sha256.hash_length]
    decide
  rw [keyBlock_of_short short]
  simp only [keyBlock, if_pos long]

theorem length_keyBlock (key : Octets) : (keyBlock key).length = blockLength := by
  have filled {key : Octets} (short : key.length ≤ blockLength) :
      (keyBlock key).length = blockLength := by
    rw [keyBlock_of_short short, List.length_append, List.length_replicate]
    exact Nat.add_sub_cancel' short
  rcases Nat.lt_or_ge blockLength key.length with long | short
  · rw [keyBlock_of_long long]
    apply filled
    rw [Sha256.hash_length]
    decide
  · exact filled short

theorem keyBlock_of_lastText {message other : Octets}
    (same : lastText first message = lastText second other) : keyBlock first = keyBlock second := by
  have masked : (keyBlock first).map (· ^^^ 0x5C) = (keyBlock second).map (· ^^^ 0x5C) := by
    refine List.append_inj_left same ?_
    rw [List.length_map, List.length_map, length_keyBlock, length_keyBlock]
  exact List.map_injective_iff.mpr (fun _ _ => (UInt8.xor_left_inj _).mp) masked

/-- Keys of at most a block fill the same block if one is the other with zeros behind it. -/
theorem keyBlock_eq_iff (short : first.length ≤ blockLength) (brief : second.length ≤ blockLength) :
    keyBlock first = keyBlock second ↔
      ∃ count, first = second ++ List.replicate count 0 ∨ second = first ++ List.replicate count 0 := by
  rw [keyBlock_of_short short, keyBlock_of_short brief]
  constructor
  · intro same
    rcases List.append_eq_append_iff.mp same with ⟨more, longer, zeros⟩ | ⟨more, longer, zeros⟩
    · obtain ⟨-, filled, -⟩ := List.replicate_eq_append_iff.mp zeros
      exact ⟨more.length, .inr (filled ▸ longer)⟩
    · obtain ⟨-, filled, -⟩ := List.replicate_eq_append_iff.mp zeros
      exact ⟨more.length, .inl (filled ▸ longer)⟩
  · have filled {key : Octets} {count : Nat}
        (within : (key ++ List.replicate count (0 : UInt8)).length ≤ blockLength) :
        key ++ List.replicate count 0 ++
            List.replicate (blockLength - (key ++ List.replicate count (0 : UInt8)).length) 0 =
          key ++ List.replicate (blockLength - key.length) 0 := by
      rw [List.length_append, List.length_replicate] at within
      rw [List.append_assoc, List.replicate_append_replicate, List.length_append, List.length_replicate]
      congr 2
      omega
    rintro ⟨count, rfl | rfl⟩
    · exact filled short
    · exact (filled brief).symm

/-- Different keys of one length, no longer than a block, fill different blocks. -/
theorem keyBlock_ne (short : first.length ≤ blockLength) (even : first.length = second.length)
    (apart : first ≠ second) : keyBlock first ≠ keyBlock second := by
  intro alike
  rw [keyBlock_of_short short, keyBlock_of_short (even ▸ short)] at alike
  exact apart (List.append_inj_left alike even)

end Hmac

namespace Sha256

def Collide (first second : Octets) : Prop := first ≠ second ∧ hash first = hash second

end Sha256

namespace Token

theorem decode_under (identity : Identity) (first second : SigningKey) :
    decode (encode identity first) second =
      if first.sign (Utf8.encode (payload identity)) = second.sign (Utf8.encode (payload identity)) then
        .ok identity
      else .error .badSignature := by
  have cut : Cut (encode identity first) (signature first (payload identity)) (payload identity) :=
    cut_ofList (separator_not_mem_signature first _)
  have codes : signature first (payload identity) = signature second (payload identity) ↔
      first.sign (Utf8.encode (payload identity)) = second.sign (Utf8.encode (payload identity)) := by
    constructor
    · intro same
      have read := congrArg (fun text => Base64.decode (Utf8.encode text)) same
      simp only [signature, Base64.decode_encode] at read
      exact Except.ok.inj read
    · intro same
      rw [signature, signature, same]
  rw [cut.decode_eq, decodePayload_payload]
  simp only [codes]

/-- A token under any key. If the key fills the block that the token's own key fills, the token is
accepted. If it fills another one, the token is refused for its signature, and only if the texts
that are hashed last under the two keys are two texts with one hash it is accepted. Of keys that
are no longer than a block, those fill the same one that differ in zeros at the end; a longer
key fills the block of its hash. -/
theorem key_isolation (identity : Identity) (first second : SigningKey) :
    let message := Utf8.encode (payload identity)
    (Hmac.keyBlock first.bytes = Hmac.keyBlock second.bytes →
      decode (encode identity first) second = .ok identity) ∧
    (Hmac.keyBlock first.bytes ≠ Hmac.keyBlock second.bytes →
      (¬ Sha256.Collide (Hmac.lastText first.bytes message) (Hmac.lastText second.bytes message) →
        decode (encode identity first) second = .error .badSignature) ∧
      (Sha256.Collide (Hmac.lastText first.bytes message) (Hmac.lastText second.bytes message) →
        decode (encode identity first) second = .ok identity)) ∧
    (first.bytes.length ≤ Hmac.blockLength → second.bytes.length ≤ Hmac.blockLength →
      (Hmac.keyBlock first.bytes = Hmac.keyBlock second.bytes ↔ ∃ count,
        first.bytes = second.bytes ++ List.replicate count 0 ∨
          second.bytes = first.bytes ++ List.replicate count 0)) ∧
    (Hmac.blockLength < first.bytes.length →
      Hmac.keyBlock first.bytes = Hmac.keyBlock (Sha256.hash first.bytes)) := by
  intro message
  have outcome := decode_under identity first second
  refine ⟨?_, ?_, Hmac.keyBlock_eq_iff, Hmac.keyBlock_of_long⟩
  · intro alike
    have same : first.sign message = second.sign message := Hmac.sign_congr alike message
    rw [outcome, if_pos same]
  · intro apart
    have texts : Hmac.lastText first.bytes message ≠ Hmac.lastText second.bytes message :=
      fun same => apart (Hmac.keyBlock_of_lastText same)
    constructor
    · intro none
      have codes : first.sign message ≠ second.sign message := fun same => none ⟨texts, same⟩
      rw [outcome, if_neg codes]
    · intro collision
      have same : first.sign message = second.sign message := collision.2
      rw [outcome, if_pos same]

/-- A token of the empty key is accepted under zeros and refused under another octet. -/
theorem key_isolation_of_zeros :
    let nobody : Identity := ⟨"", "", ""⟩
    Hmac.keyBlock [] = Hmac.keyBlock [0, 0] ∧ Hmac.keyBlock [] ≠ Hmac.keyBlock [1] ∧
      decode (encode nobody ⟨[]⟩) ⟨[0, 0]⟩ = .ok nobody ∧
      decode (encode nobody ⟨[]⟩) ⟨[1]⟩ = .error .badSignature := by
  intro nobody
  have alike : Hmac.keyBlock [] = Hmac.keyBlock [0, 0] := rfl
  have apart : Hmac.keyBlock [] ≠ Hmac.keyBlock [1] := by decide
  have codes : Sha256.hash (Hmac.lastText [] (Utf8.encode (payload nobody))) ≠
      Sha256.hash (Hmac.lastText [1] (Utf8.encode (payload nobody))) := by
    decide +kernel
  refine ⟨alike, apart, (key_isolation nobody ⟨[]⟩ ⟨[0, 0]⟩).1 alike, ?_⟩
  exact ((key_isolation nobody ⟨[]⟩ ⟨[1]⟩).2.1 apart).1 fun collision => codes collision.2

/-- Two keys that differ, and a token of the one that is accepted under the other. -/
theorem alike_of_zero :
    let alice : Identity := ⟨"alice@org.com", "Alice", ""⟩
    (⟨[]⟩ : SigningKey) ≠ ⟨[0]⟩ ∧ decode (encode alice ⟨[]⟩) ⟨[0]⟩ = .ok alice ∧
      decode (encode alice ⟨[]⟩) ⟨[0]⟩ ≠ .error .badSignature := by
  intro alice
  have codes (message : Octets) : SigningKey.sign ⟨[]⟩ message = SigningKey.sign ⟨[0]⟩ message :=
    Hmac.sign_congr rfl message
  have accepted : decode (encode alice ⟨[]⟩) ⟨[0]⟩ = .ok alice := by
    rw [decode_under, if_pos (codes _)]
  refine ⟨by decide, accepted, ?_⟩
  rw [accepted]
  nofun

/-- Not even all keys of the length of a fresh one are told apart, though no two of them fill one
block: there are more of them than codes of a message. -/
theorem exists_alike (identity : Identity) : ∃ first second : SigningKey,
    first.bytes.length = SigningKey.freshLength ∧ second.bytes.length = SigningKey.freshLength ∧
      Hmac.keyBlock first.bytes ≠ Hmac.keyBlock second.bytes ∧
      decode (encode identity first) second = .ok identity := by
  let code (key : List.Vector UInt8 SigningKey.freshLength) : List.Vector UInt8 32 :=
    ⟨Hmac.sign key.toList (Utf8.encode (payload identity)), Hmac.sign_length _ _⟩
  have fewer : Fintype.card (List.Vector UInt8 32) <
      Fintype.card (List.Vector UInt8 SigningKey.freshLength) := by
    rw [card_vector, card_vector]
    exact Nat.pow_lt_pow_right (Fintype.one_lt_card_iff.mpr ⟨0, 1, by decide⟩) (by decide)
  obtain ⟨first, second, apart, same⟩ := Fintype.exists_ne_map_eq_of_card_lt code fewer
  refine ⟨⟨first.toList⟩, ⟨second.toList⟩, first.toList_length, second.toList_length, ?_, ?_⟩
  · refine Hmac.keyBlock_ne ?_ ?_ fun same => apart (List.Vector.toList_injective same)
    · rw [first.toList_length]
      decide
    · rw [first.toList_length, second.toList_length]
  · have codes : SigningKey.sign ⟨first.toList⟩ (Utf8.encode (payload identity)) =
        SigningKey.sign ⟨second.toList⟩ (Utf8.encode (payload identity)) :=
      congrArg List.Vector.toList same
    rw [decode_under, if_pos codes]

end Token

end LoginGateway
