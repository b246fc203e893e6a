import LoginGateway.Identity.Reader
import LoginGateway.Proofs.JsonRecords

/-! An identity that is written as an object is read as itself. -/

namespace LoginGateway.Identity
open Json

def memberOctets (name text : String) (rest : Octets) : Octets :=
  34 :: (Utf8.encode (name.toList.flatMap escapeChar) ++ 34 :: 58 ::
    34 :: (Utf8.encode (text.toList.flatMap escapeChar) ++ 34 :: rest))

theorem octets_member (name text : String) (rest : Octets) :
    Utf8.encode (member name text) ++ rest = memberOctets name text rest := by
  rw [member, Utf8.encode_append, List.append_assoc, octets_quote,
    Utf8.encode_cons_ascii (by decide), List.cons_append, octets_quote]
  rfl

theorem octets_toJson (identity : Identity) :
    Utf8.encode identity.toJson = 123 :: memberOctets "email" identity.email
      (44 :: memberOctets "name" identity.name
        (44 :: memberOctets "picture" identity.picture [125])) := by
  rw [toJson, List.cons_append, List.cons_append, List.cons_append,
    Utf8.encode_cons_ascii (by decide)]
  simp only [Utf8.encode_append, List.append_assoc]
  rw [Utf8.encode_cons_ascii (by decide), Utf8.encode_cons_ascii (by decide),
    Utf8.encode_cons_ascii (by decide), Utf8.encode_nil, List.cons_append, List.cons_append,
    octets_member, octets_member, octets_member]
  rfl

theorem knownMembers_member {name text : String} {got fields : List (String × String)}
    {first : Bool} {source rest last : Octets} (wanted : name ∈ fieldNames)
    (fresh : field? got name = none)
    (comes : Leaves (separator .object first source) true (memberOctets name text rest))
    (others : Leaves (knownMembers fieldNames (got ++ [(name, text)]) false rest) fields last) :
    Leaves (knownMembers fieldNames got first source) fields last :=
  knownMembers_known wanted fresh comes
    (memberName_of (skipBlanks_visible rfl _) (string_quote name _))
    (skipBlanks_visible rfl _)
    (stringValue_of (skipBlanks_visible rfl _) (string_quote text rest)) others

theorem parse_toJson (identity : Identity) :
    parse (Utf8.encode identity.toJson) = .ok identity := by
  have comma (name text : String) (rest : Octets) :
      Leaves (separator .object false (44 :: memberOctets name text rest)) true
        (memberOctets name text rest) :=
    separator_comma (skipBlanks_visible rfl _) (skipBlanks_visible rfl _) (by decide)
  have read : Leaves (knownMembers fieldNames [] true (memberOctets "email" identity.email
      (44 :: memberOctets "name" identity.name
        (44 :: memberOctets "picture" identity.picture [125]))))
      [("email", identity.email), ("name", identity.name), ("picture", identity.picture)] [] := by
    apply knownMembers_member (by decide) rfl
      (separator_first (skipBlanks_visible rfl _) (by decide))
    apply knownMembers_member (by decide) rfl (comma _ _ _)
    apply knownMembers_member (by decide) rfl (comma _ _ _)
    exact knownMembers_close (skipBlanks_visible rfl _)
  obtain ⟨_, read⟩ := read
  have opened : isBlank 123 = false := rfl
  rw [octets_toJson, parse, record, skipBlanks_visible opened]
  simp only [bind, Except.bind, if_true]
  rw [read]
  rfl

theorem toJson_injective {first second : Identity} (same : first.toJson = second.toJson) :
    first = second := by
  have read := parse_toJson first
  rw [same, parse_toJson second] at read
  exact (Except.ok.inj read).symm

end LoginGateway.Identity
