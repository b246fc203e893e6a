import LoginGateway.Json.Value

/-! Reading a record whose known members are strings. Other members are passed
over, a known one may stand once, and a list gives the members by their place. -/

namespace LoginGateway.Json

/-- What a record was written as. -/
inductive Record where
  | members (fields : List (String × String))
  | items (texts : List String)

def field? (fields : List (String × String)) (name : String) : Option String :=
  (fields.find? (·.1 = name)).map (·.2)

/-- The octets after a bracket, if it stands next; a fault of a whole object or
list is shown behind it. -/
def behind (close : UInt8) (source : Octets) : Octets :=
  match skipBlanks source with
  | [] => []
  | octet :: tail => if octet = close then tail else octet :: tail

def knownMembers (known : List String) (got : List (String × String)) (first : Bool)
    (source : Octets) : Except Fault (List (String × String) × Left source) := do
  let (more, ⟨rest, bound⟩) ← separator .object first source
  if more then
    let ⟨name, rest, less⟩ ← memberName rest
    if name ∈ known then
      if (field? got name).isSome then .error (.at (.duplicate name) (behind 125 rest))
      else
        let ⟨rest, less'⟩ ← colon rest
        let ⟨text, rest, less''⟩ ← stringValue rest
        let (fields, ⟨last, bound'⟩) ← knownMembers known (got ++ [(name, text)]) false rest
        .ok (fields, ⟨last, by omega⟩)
    else
      let ⟨rest, less'⟩ ← colon rest
      let ⟨rest, less''⟩ ← skipValue rest
      let (fields, ⟨last, bound'⟩) ← knownMembers known got false rest
      .ok (fields, ⟨last, by omega⟩)
  else .ok (got, ⟨rest, bound⟩)
termination_by source.length
decreasing_by all_goals omega

/-- The strings of a list, at most `count` of them, up to its closing bracket. -/
def strings : Nat → Bool → Octets → Except Fault (List String × Octets)
  | 0, _, source =>
    match skipBlanks source with
    | [] => .error ⟨.endInList, 0⟩
    | octet :: tail =>
      if octet = 93 then .ok ([], tail)
      else if octet = 44 then
        match skipBlanks tail with
        | 93 :: tail => .error (.in .trailingComma (93 :: tail))
        | rest => .error (.in .trailingText rest)
      else .error (.in .trailingText (octet :: tail))
  | count + 1, first, source => do
    let (more, rest) ← separator .list first source
    if more then
      let taken ← stringValue rest.1
      let (texts, last) ← strings count false taken.rest
      .ok (taken.value :: texts, last)
    else .ok ([], rest.1)

def record (known : List String) (expected : String) (source : Octets) :
    Except Fault (Record × Octets) :=
  match skipBlanks source with
  | [] => .error ⟨.endInValue, 0⟩
  | octet :: tail =>
    if octet = 123 then do
      let (fields, ⟨rest, _⟩) ← knownMembers known [] true tail
      .ok (.members fields, rest)
    else if octet = 91 then do
      let (texts, rest) ← strings known.length true tail
      .ok (.items texts, rest)
    else .error (mismatch expected (octet :: tail))

end LoginGateway.Json
