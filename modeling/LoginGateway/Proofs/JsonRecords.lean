import LoginGateway.Json.Record
import LoginGateway.Proofs.JsonStrings

/-! How the reader of a record goes on from member to member. Each rule says what
one member comes to, given what its pieces are read as and what the members
behind it come to. -/

namespace LoginGateway.Json

/-- A reader came to `value` and left `rest`, which may be all. -/
def Leaves {source : Octets} {α : Type} (result : Except Fault (α × Left source)) (value : α)
    (rest : Octets) : Prop :=
  ∃ bound, result = .ok (value, ⟨rest, bound⟩)

theorem Leaves.ok {source : Octets} {α : Type} (value : α) (left : Left source) :
    Leaves (.ok (value, left)) value left.1 := ⟨left.2, rfl⟩

theorem skipBlanks_visible {octet : UInt8} (visible : isBlank octet = false) (tail : Octets) :
    skipBlanks (octet :: tail) = octet :: tail := by
  rw [skipBlanks, List.dropWhile_cons_of_neg (by simp [visible])]

variable {frame : Frame} {source tail : Octets} {octet : UInt8}

theorem separator_first (starts : skipBlanks source = octet :: tail) (more : octet ≠ frame.close) :
    Leaves (separator frame true source) true (octet :: tail) := by
  unfold separator
  split
  next empty => cases starts.symm.trans empty
  next same =>
    cases starts.symm.trans same
    rw [if_neg more, if_pos rfl]
    exact Leaves.ok true _

theorem separator_close (first : Bool) (starts : skipBlanks source = frame.close :: tail) :
    Leaves (separator frame first source) false tail := by
  unfold separator
  split
  next empty => cases starts.symm.trans empty
  next same =>
    obtain ⟨rfl, rfl⟩ := List.cons.inj (starts.symm.trans same)
    rw [if_pos rfl]
    exact Leaves.ok false _

theorem separator_comma {behind : Octets} (starts : skipBlanks source = 44 :: tail)
    (next : skipBlanks tail = octet :: behind) (more : octet ≠ frame.close) :
    Leaves (separator frame false source) true (octet :: behind) := by
  unfold separator
  split
  next empty => cases starts.symm.trans empty
  next same =>
    obtain ⟨rfl, rfl⟩ := List.cons.inj (starts.symm.trans same)
    rw [if_neg (by cases frame <;> decide), if_neg (by decide), if_pos rfl]
    split
    next empty => cases next.symm.trans empty
    next same =>
      cases next.symm.trans same
      rw [if_neg more]
      exact Leaves.ok true _

theorem memberName_of {name : String} {rest : Octets} (starts : skipBlanks source = 34 :: tail)
    (read : Takes (string tail) name rest) : Takes (memberName source) name rest := by
  obtain ⟨less, read⟩ := read
  unfold memberName
  split
  next empty => cases starts.symm.trans empty
  next same =>
    obtain ⟨rfl, rfl⟩ := List.cons.inj (starts.symm.trans same)
    rw [if_pos rfl, read]
    exact Takes.ok _

theorem stringValue_of {text : String} {rest : Octets} (starts : skipBlanks source = 34 :: tail)
    (read : Takes (string tail) text rest) : Takes (stringValue source) text rest := by
  obtain ⟨less, read⟩ := read
  unfold stringValue
  split
  next empty => cases starts.symm.trans empty
  next same =>
    obtain ⟨rfl, rfl⟩ := List.cons.inj (starts.symm.trans same)
    rw [if_pos rfl, read]
    exact Takes.ok _

theorem colon_of (starts : skipBlanks source = 58 :: tail) :
    ∃ less, colon source = .ok ⟨tail, less⟩ := by
  unfold colon
  split
  next empty => cases starts.symm.trans empty
  next same =>
    obtain ⟨rfl, rfl⟩ := List.cons.inj (starts.symm.trans same)
    rw [if_pos rfl]
    exact ⟨lt_of_skipBlanks starts, rfl⟩

variable {known : List String} {got : List (String × String)} {first : Bool}

theorem knownMembers_close (starts : skipBlanks source = 125 :: tail) :
    Leaves (knownMembers known got first source) got tail := by
  have ended : Leaves (separator .object first source) false tail := separator_close first starts
  obtain ⟨_, closed⟩ := ended
  rw [knownMembers, closed]
  exact Leaves.ok got _

/-- A member that is asked for and not there yet joins those that are. -/
theorem knownMembers_known {name text : String} {opened named valued last : Octets}
    {fields : List (String × String)} (wanted : name ∈ known) (fresh : field? got name = none)
    (comes : Leaves (separator .object first source) true opened)
    (key : Takes (memberName opened) name named)
    (sign : skipBlanks named = 58 :: tail)
    (value : Takes (stringValue tail) text valued)
    (others : Leaves (knownMembers known (got ++ [(name, text)]) false valued) fields last) :
    Leaves (knownMembers known got first source) fields last := by
  obtain ⟨_, comes⟩ := comes
  obtain ⟨_, key⟩ := key
  obtain ⟨_, sign⟩ := colon_of sign
  obtain ⟨_, value⟩ := value
  obtain ⟨_, others⟩ := others
  rw [knownMembers, comes]
  simp only [bind, Except.bind, if_true]
  rw [key]
  simp only [wanted, fresh, if_true, Option.isSome_none, Bool.false_eq_true, if_false]
  rw [sign]
  simp only []
  rw [value]
  simp only []
  rw [others]
  exact Leaves.ok fields _

end LoginGateway.Json
