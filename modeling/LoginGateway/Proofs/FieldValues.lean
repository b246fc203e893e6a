import LoginGateway.Http.Header
import LoginGateway.Proofs.Escapes

/-! What the value of a field may hold. All octets may but controls other than the tab,
and those of ASCII among them are read as a text. -/

namespace LoginGateway.Headers

variable {bytes : Octets} {text : List Char}

def IsVisibleChar (char : Char) : Prop := char = '\t' ∨ 0x20 ≤ char.toNat ∧ char.toNat < 0x7F

/-- An octet that no value holds: a control other than the tab. -/
def IsControl (octet : UInt8) : Prop := octet.toNat < 0x20 ∧ octet.toNat ≠ 9 ∨ octet.toNat = 0x7F
deriving Decidable

theorem isValue_iff : isValue bytes = true ↔
    ∀ octet ∈ bytes, octet.toNat = 9 ∨ 0x20 ≤ octet.toNat ∧ octet.toNat ≠ 0x7F := by
  simp [isValue, UInt8.le_iff_toNat_le, ← UInt8.toNat_inj]

theorem isVisible_iff : isVisible bytes = true ↔
    ∀ octet ∈ bytes, octet.toNat = 9 ∨ 0x20 ≤ octet.toNat ∧ octet.toNat < 0x7F := by
  simp [isVisible, UInt8.le_iff_toNat_le, UInt8.lt_iff_toNat_lt, ← UInt8.toNat_inj]

@[simp] theorem isValue_append (first second : Octets) :
    isValue (first ++ second) = (isValue first && isValue second) :=
  List.all_append

@[simp] theorem isVisible_append (first second : Octets) :
    isVisible (first ++ second) = (isVisible first && isVisible second) :=
  List.all_append

theorem isValue_eq_false_iff : isValue bytes = false ↔ ∃ octet ∈ bytes, IsControl octet := by
  rw [← Bool.not_eq_true, isValue_iff]
  constructor
  · intro other
    apply Classical.byContradiction
    intro absent
    apply other
    intro octet inside
    have free := not_and.mp (not_exists.mp absent octet) inside
    rw [IsControl] at free
    omega
  · rintro ⟨octet, inside, control⟩ valid
    have other := valid octet inside
    rw [IsControl] at control
    omega

theorem isValue_of_isVisible (visible : isVisible bytes = true) : isValue bytes = true := by
  rw [isValue_iff]
  intro octet inside
  have shown := isVisible_iff.mp visible octet inside
  omega

theorem isVisible_encode (visible : ∀ char ∈ text, IsVisibleChar char) :
    isVisible (Utf8.encode text) = true := by
  rw [isVisible_iff]
  induction text with
  | nil => exact nofun
  | cons char text ih =>
    obtain ⟨first, rest⟩ := List.forall_mem_cons.mp visible
    have range : char.toNat = 9 ∨ 0x20 ≤ char.toNat ∧ char.toNat < 0x7F := by
      rcases first with rfl | range
      · exact .inl rfl
      · exact .inr range
    rw [Utf8.encode_cons_ascii (by omega)]
    intro octet inside
    rcases List.mem_cons.mp inside with rfl | later
    · rw [Utf8.toNat_ofNat char.toNat (by omega)]
      exact range
    · exact ih rest octet later

theorem encode_of_visible? (read : visible? bytes = some text) :
    Utf8.encode text = bytes ∧ ∀ char ∈ text, IsVisibleChar char := by
  obtain ⟨visible, rfl⟩ : isVisible bytes = true ∧
      bytes.map (fun octet => Char.ofNat octet.toNat) = text := by
    simpa [visible?] using read
  clear read
  rw [isVisible_iff] at visible
  induction bytes with
  | nil => exact ⟨rfl, nofun⟩
  | cons octet bytes ih =>
    obtain ⟨first, rest⟩ := List.forall_mem_cons.mp visible
    obtain ⟨same, later⟩ := ih rest
    have ascii : octet.toNat < 0x80 := by omega
    rw [List.map_cons]
    refine ⟨by rw [Percent.encode_plain ascii, same], ?_⟩
    intro char inside
    rcases List.mem_cons.mp inside with rfl | inside
    · rcases first with tab | range
      · rw [tab]
        exact .inl rfl
      · rw [IsVisibleChar, Utf8.toNat_char ascii]
        exact .inr range
    · exact later char inside

theorem visible?_of_isVisible (visible : isVisible bytes = true) :
    ∃ text, visible? bytes = some text ∧ Utf8.encode text = bytes ∧
      ∀ char ∈ text, IsVisibleChar char := by
  have read : visible? bytes = some (bytes.map fun octet => Char.ofNat octet.toNat) := by
    rw [visible?, if_pos visible]
  exact ⟨_, read, encode_of_visible? read⟩

end LoginGateway.Headers
