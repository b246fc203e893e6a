import LoginGateway.Gateway.Relay
import LoginGateway.Proofs.FieldValues
import LoginGateway.Proofs.FormPairs
import Mathlib.Data.Bool.AllAny

/-! Who a backend is told the visitor is. Whatever fields a request brings, the two
that name the visitor stand once and are read as the visitor's address and name. -/

namespace LoginGateway.Headers

theorem values_append (first second : Headers) (name : String) :
    (first ++ second).values name = first.values name ++ second.values name := by
  simp only [values, List.filter_append, List.map_append]

theorem values_without_same (headers : Headers) (name : String) :
    (headers.without name).values name = [] := by
  rw [values, List.map_eq_nil_iff, List.filter_eq_nil_iff]
  intro field inside
  have other := (List.mem_filter.mp inside).2
  simpa using other

theorem values_without_other (headers : Headers) {name other : String} (different : name ≠ other) :
    (headers.without other).values name = headers.values name := by
  rw [values, values, without, List.filter_filter]
  congr 1
  apply List.filter_congr
  intro field _
  by_cases same : field.1 = name <;> simp [same, different]

theorem values_set_same (headers : Headers) (name : String) (value : Octets) :
    (headers.set name value).values name = [value] := by
  rw [set, values_append, values_without_same]
  simp [values]

theorem values_set_other (headers : Headers) {name other : String} (different : name ≠ other)
    (value : Octets) : (headers.set other value).values name = headers.values name := by
  rw [set, values_append, values_without_other headers different]
  simp [values, different.symm]

end LoginGateway.Headers

namespace LoginGateway.Relay

theorem isVisible_form (text : String) : Headers.isVisible (Utf8.encode (Form.encode text)) = true := by
  have shown : ∀ char ∈ Form.alphabet, 0x20 ≤ char.toNat ∧ char.toNat < 0x7F :=
    List.all_iff_forall_prop.mp (by decide)
  apply Headers.isVisible_encode
  intro char inside
  exact .inr (shown char (Form.mem_alphabet char inside))

theorem escaped_eq (text : String) : escaped text = Utf8.encode (Form.encode text) :=
  if_pos (Headers.isValue_of_isVisible (isVisible_form text))

theorem decode_escaped (text : String) : Form.decode (escaped text) = text := by
  rw [escaped_eq]
  exact Form.decode_octets_encode text

theorem email_assertIdentity (headers : Headers) (identity : Identity) :
    (assertIdentity headers identity).values emailField = [escaped identity.email] := by
  rw [assertIdentity, Headers.values_set_other _ (by decide), Headers.values_set_same]

theorem name_assertIdentity (headers : Headers) (identity : Identity) :
    (assertIdentity headers identity).values nameField = [escaped identity.name] := by
  rw [assertIdentity, Headers.values_set_same]

/-- A request that tells whom it is sent for. -/
structure Names (sent : Outgoing) (identity : Identity) : Prop where
  email : (sent.headers.values emailField).map Form.decode = [identity.email]
  name : (sent.headers.values nameField).map Form.decode = [identity.name]

theorem outgoing_spec {route : Route} {identity : Identity} {request : Request} {sent : Outgoing}
    (made : outgoing route identity request = .ok sent) :
    requestUrl (route.targetUrl request.target.pathAndQuery) = .ok sent.url ∧
      Names sent identity := by
  rw [outgoing] at made
  cases found : requestUrl (route.targetUrl request.target.pathAndQuery) with
  | error fault =>
    rw [found] at made
    cases made
  | ok url =>
    rw [found] at made
    cases made
    refine ⟨rfl, ?_, ?_⟩
    · simp only [requestHeaders, email_assertIdentity, List.map_cons, List.map_nil, decode_escaped]
    · simp only [requestHeaders, name_assertIdentity, List.map_cons, List.map_nil, decode_escaped]

end LoginGateway.Relay
