import LoginGateway.Proofs.Base64
import LoginGateway.Proofs.Cutting
import LoginGateway.Proofs.IdentityRoundTrip
import LoginGateway.Token

/-! Whoever a token is written for, it is read as that identity under its own key.
A token cannot be split in the wrong place, because base64 has no comma. -/

namespace LoginGateway.Token

theorem separator_not_mem_encode (bytes : Octets) : separator ∉ Base64.encode bytes := by
  intro inside
  have written := Base64.isWritten_of_mem_encode bytes _ inside
  exact absurd written (by decide)

theorem foldl_or_xor_eq_zero_iff {expected provided : Octets} {seen : UInt8}
    (long : expected.length = provided.length) :
    (expected.zip provided).foldl (fun seen (x, y) => seen ||| (x ^^^ y)) seen = 0 ↔
      seen = 0 ∧ expected = provided := by
  induction expected generalizing provided seen with
  | nil =>
    rw [List.length_eq_zero_iff.mp long.symm]
    simp
  | cons octet expected ih =>
    obtain ⟨other, provided, rfl⟩ := List.exists_cons_of_length_eq_add_one long.symm
    rw [List.zip_cons_cons, List.foldl_cons, ih (Nat.succ.inj long), UInt8.or_eq_zero_iff,
      UInt8.xor_eq_zero_iff, List.cons.injEq, and_assoc]

theorem signaturesMatch_iff {expected provided : Octets} :
    signaturesMatch expected provided = true ↔ expected = provided := by
  rw [signaturesMatch, Bool.and_eq_true, decide_eq_true_eq, beq_iff_eq]
  constructor
  · rintro ⟨long, same⟩
    exact ((foldl_or_xor_eq_zero_iff long).mp same).2
  · rintro rfl
    exact ⟨rfl, (foldl_or_xor_eq_zero_iff rfl).mpr ⟨rfl, rfl⟩⟩

theorem isSigned_signature (key : SigningKey) (payload : List Char) :
    isSigned key (signature key payload) payload = true := by
  rw [isSigned, signature, Base64.decode_encode]
  exact signaturesMatch_iff.mpr rfl

theorem length_signature (key : SigningKey) (payload : List Char) :
    (signature key payload).length = 44 := by
  rw [signature, Base64.length_encode, SigningKey.sign, Hmac.sign_length]

def payload (identity : Identity) : List Char := Base64.encode (Utf8.encode identity.toJson)

theorem toList_encode (identity : Identity) (key : SigningKey) :
    (encode identity key).toList =
      signature key (payload identity) ++ separator :: payload identity :=
  String.toList_ofList

theorem split?_encode (identity : Identity) (key : SigningKey) :
    split? separator (encode identity key).toList =
      some (signature key (payload identity), payload identity) := by
  rw [toList_encode]
  exact split?_append (separator_not_mem_encode _) _

theorem decodePayload_payload (identity : Identity) :
    decodePayload (payload identity) = .ok identity := by
  simp only [decodePayload, payload, Base64.decode_encode, Identity.parse_toJson]

theorem decode_of_encode (identity : Identity) (key : SigningKey) :
    decode (encode identity key) key = .ok identity := by
  simp only [decode, split?_encode, isSigned_signature, if_true, decodePayload_payload]

/-- Every identity is read back from its token under the key that signed it. The
token is a signature of 44 characters, one comma and a payload, and apart from
the comma it is written in base64 alone. -/
theorem round_trip (identity : Identity) (key : SigningKey) :
    decode (encode identity key) key = .ok identity ∧
    ∃ signature payload, (encode identity key).toList = signature ++ ',' :: payload ∧
      signature.length = 44 ∧ (encode identity key).toList.count ',' = 1 ∧
      ∀ char ∈ signature ++ payload, Base64.isWritten char = true := by
  refine ⟨decode_of_encode identity key, signature key (payload identity), payload identity,
    toList_encode identity key, length_signature key _, ?_, ?_⟩
  · have before : (signature key (payload identity)).count separator = 0 :=
      List.count_eq_zero.mpr (separator_not_mem_encode _)
    have after : (payload identity).count separator = 0 :=
      List.count_eq_zero.mpr (separator_not_mem_encode _)
    rw [toList_encode]
    change (signature key (payload identity) ++ separator :: payload identity).count separator = 1
    rw [List.count_append, List.count_cons_self, before, after]
  · intro char inside
    rcases List.mem_append.mp inside with before | after
    · exact Base64.isWritten_of_mem_encode _ char before
    · exact Base64.isWritten_of_mem_encode _ char after

end LoginGateway.Token
