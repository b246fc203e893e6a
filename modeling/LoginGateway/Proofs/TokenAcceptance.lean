import LoginGateway.Proofs.Base64Strictness
import LoginGateway.Proofs.TokenRoundTrip
import Mathlib.Logic.ExistsUnique

/-! What a token is accepted for. Octets have one spelling in base64, so of all texts
in front of a payload only its own signature is taken, and whoever changes anything
in front of the first comma is turned away before the payload is looked at. -/

namespace LoginGateway.Token

/-- A token that its first comma cuts into what should be a signature and a payload. -/
structure Cut (token : String) (before payload : List Char) : Prop where
  text : token.toList = before ++ separator :: payload
  first : separator ∉ before

theorem cut_ofList {before payload : List Char} (first : separator ∉ before) :
    Cut (String.ofList (before ++ separator :: payload)) before payload :=
  ⟨String.toList_ofList, first⟩

theorem exists_cut {token : String} (inside : separator ∈ token.toList) :
    ∃ before payload, Cut token before payload := by
  obtain ⟨before, payload, text, first⟩ := List.eq_append_cons_of_mem inside
  exact ⟨before, payload, text, first⟩

theorem separator_not_mem_signature (key : SigningKey) (payload : List Char) :
    separator ∉ signature key payload :=
  separator_not_mem_encode _

theorem isSigned_iff {key : SigningKey} {before payload : List Char} :
    isSigned key before payload = true ↔ before = signature key payload := by
  constructor
  · intro signed
    unfold isSigned at signed
    split at signed
    next provided read =>
      rw [Utf8.encode_injective (Base64.decode_eq_ok_iff.mp read), signature,
        signaturesMatch_iff.mp signed]
    next => cases signed
  · rintro rfl
    exact isSigned_signature key payload

theorem decodePayload_fault {payload : List Char} {fault : Fault}
    (failed : decodePayload payload = .error fault) : ∃ reason, fault = .payload reason := by
  unfold decodePayload at failed
  split at failed
  next =>
    cases failed
    exact ⟨_, rfl⟩
  next =>
    split at failed
    next =>
      cases failed
      exact ⟨_, rfl⟩
    next => cases failed

theorem separator_not_mem_of_decodePayload {payload : List Char} {identity : Identity}
    (read : decodePayload payload = .ok identity) : separator ∉ payload := by
  unfold decodePayload at read
  split at read
  next => cases read
  next json written =>
    rw [Utf8.encode_injective (Base64.decode_eq_ok_iff.mp written)]
    exact separator_not_mem_encode json

theorem decode_uncut {token : String} (absent : separator ∉ token.toList) (key : SigningKey) :
    decode token key = .error .malformed := by
  unfold decode
  split
  next => rfl
  next found => exact absurd (mem_of_split? found) absent

namespace Cut

variable {token : String} {before payload : List Char}

theorem decode_eq (cut : Cut token before payload) (key : SigningKey) : decode token key =
    if before = signature key payload then decodePayload payload else .error .badSignature := by
  simp only [decode, cut.text, split?_append cut.first, isSigned_iff]

theorem decode_ne_malformed (cut : Cut token before payload) (key : SigningKey) :
    decode token key ≠ .error .malformed := by
  rw [cut.decode_eq]
  split
  · intro failed
    obtain ⟨reason, impossible⟩ := decodePayload_fault failed
    cases impossible
  · nofun

theorem authentic_iff (cut : Cut token before payload) (key : SigningKey) :
    decode token key ≠ .error .badSignature ↔ before = signature key payload := by
  rw [cut.decode_eq]
  split
  next same =>
    refine iff_of_true (fun failed => ?_) same
    obtain ⟨reason, impossible⟩ := decodePayload_fault failed
    cases impossible
  next different => exact iff_of_false (fun authentic => authentic rfl) different

theorem of_accepted {key : SigningKey} {identity : Identity} (cut : Cut token before payload)
    (accepted : decode token key = .ok identity) :
    before = signature key payload ∧ decodePayload payload = .ok identity := by
  rw [cut.decode_eq] at accepted
  split at accepted
  next same => exact ⟨same, accepted⟩
  next => cases accepted

end Cut

/-- A further comma in front moves the cut, and then a comma stands in the payload,
which no base64 has. -/
theorem not_accepted_of_earlier {other payload : List Char} (earlier : separator ∈ other)
    (key : SigningKey) (anyone : Identity) :
    decode (String.ofList (other ++ separator :: payload)) key ≠ .ok anyone := by
  obtain ⟨before, after, rfl, first⟩ := List.eq_append_cons_of_mem earlier
  have cut : Cut (String.ofList (before ++ separator :: after ++ separator :: payload)) before
      (after ++ separator :: payload) := by
    rw [List.append_assoc, List.cons_append]
    exact cut_ofList first
  intro accepted
  refine separator_not_mem_of_decodePayload (cut.of_accepted accepted).2 ?_
  exact List.mem_append_right after List.mem_cons_self

/-- A text without a comma is malformed and no other is. In front of a payload only the
base64 of its authentication code is authentic, so each payload has one authentic
token. Whatever else stands there in place of the signature of an accepted token, the
text is refused: for a bad signature, unless it brings a comma of its own and with it
another payload. A payload is found unreadable only behind its own signature. -/
theorem exact_acceptance (key : SigningKey) :
    (∀ token : String, decode token key = .error .malformed ↔ ',' ∉ token.toList) ∧
    (∀ token before payload, Cut token before payload →
      (decode token key ≠ .error .badSignature ↔
        before = Base64.encode (Hmac.sign key.bytes (Utf8.encode payload)))) ∧
    (∀ payload, ∃! token, (∃ before, Cut token before payload) ∧
      decode token key ≠ .error .badSignature) ∧
    (∀ token before payload identity, Cut token before payload →
      decode token key = .ok identity → ∀ other, other ≠ before →
        (',' ∉ other →
          decode (String.ofList (other ++ ',' :: payload)) key = .error .badSignature) ∧
        ∀ anyone, decode (String.ofList (other ++ ',' :: payload)) key ≠ .ok anyone) ∧
    (∀ token reason, decode token key = .error (.payload reason) → ∃ before payload,
      Cut token before payload ∧
        before = Base64.encode (Hmac.sign key.bytes (Utf8.encode payload))) := by
  refine ⟨fun token => ⟨fun malformed inside => ?_, fun absent => decode_uncut absent key⟩,
    fun token before payload cut => cut.authentic_iff key, fun payload => ?_,
    fun token before payload identity cut accepted other different => ?_,
    fun token reason failed => ?_⟩
  · obtain ⟨before, payload, cut⟩ := exists_cut inside
    exact cut.decode_ne_malformed key malformed
  · have own : Cut (String.ofList (signature key payload ++ separator :: payload)) _ payload :=
      cut_ofList (separator_not_mem_signature key payload)
    refine ⟨_, ⟨⟨_, own⟩, (own.authentic_iff key).mpr rfl⟩, ?_⟩
    rintro token ⟨⟨before, cut⟩, authentic⟩
    have text := cut.text
    rw [(cut.authentic_iff key).mp authentic, ← own.text] at text
    exact String.toList_inj.mp text
  · obtain ⟨rfl, _⟩ := cut.of_accepted accepted
    by_cases earlier : separator ∈ other
    · exact ⟨fun absent => absurd earlier absent, not_accepted_of_earlier earlier key⟩
    · have refused : decode (String.ofList (other ++ ',' :: payload)) key =
          .error .badSignature :=
        ((cut_ofList earlier).decode_eq key).trans (if_neg different)
      refine ⟨fun _ => refused, fun anyone passed => ?_⟩
      cases refused.symm.trans passed
  · by_cases inside : separator ∈ token.toList
    · obtain ⟨before, payload, cut⟩ := exists_cut inside
      refine ⟨before, payload, cut, (cut.authentic_iff key).mp fun bad => ?_⟩
      cases failed.symm.trans bad
    · cases failed.symm.trans (decode_uncut inside key)

/-- Without its signature nobody's token is worth anything. -/
theorem exact_acceptance_of_nobody :
    decode (encode ⟨"", "", ""⟩ ⟨[]⟩) ⟨[]⟩ = .ok ⟨"", "", ""⟩ ∧
      decode (String.ofList (',' :: payload ⟨"", "", ""⟩)) ⟨[]⟩ = .error .badSignature := by
  have accepted := decode_of_encode ⟨"", "", ""⟩ ⟨[]⟩
  have cut : Cut (encode ⟨"", "", ""⟩ ⟨[]⟩) (signature ⟨[]⟩ (payload ⟨"", "", ""⟩))
      (payload ⟨"", "", ""⟩) :=
    ⟨toList_encode _ _, separator_not_mem_signature _ _⟩
  have filled : [] ≠ signature ⟨[]⟩ (payload ⟨"", "", ""⟩) := by
    intro empty
    have long := length_signature ⟨[]⟩ (payload ⟨"", "", ""⟩)
    rw [← empty] at long
    cases long
  exact ⟨accepted,
    ((exact_acceptance ⟨[]⟩).2.2.2.1 _ _ _ _ cut accepted [] filled).1 List.not_mem_nil⟩

end LoginGateway.Token
