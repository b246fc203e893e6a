import LoginGateway.Identity.Basic
import LoginGateway.Json.Record

/-! Reading an identity from a JSON text. The address is required; the name and
the picture are empty where they are missing. -/

namespace LoginGateway.Identity
open Json

def fieldNames : List String := ["email", "name", "picture"]

def ofFields (fields : List (String × String)) : Except Cause Identity :=
  match field? fields "email" with
  | some email => .ok ⟨email, (field? fields "name").getD "", (field? fields "picture").getD ""⟩
  | none => .error (.missing "email")

def ofTexts : List String → Except Cause Identity
  | email :: others => .ok ⟨email, others.getD 0 "", others.getD 1 ""⟩
  | [] => .error (.size 0 "struct Identity with 3 elements")

def ofRecord : Record → Except Cause Identity
  | .members fields => ofFields fields
  | .items texts => ofTexts texts

def parse (source : Octets) : Except Fault Identity := do
  let (found, rest) ← record fieldNames "struct Identity" source
  match ofRecord found with
  | .ok identity => do
    atEnd rest
    .ok identity
  | .error cause => .error (.at cause rest)

end LoginGateway.Identity
