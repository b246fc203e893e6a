import LoginGateway.Json.Value

/-! Who a visitor is. The same three fields stand in the profile a provider sends
and in the payload of a session token. -/

namespace LoginGateway

structure Identity where
  email : String
  name : String
  picture : String
deriving DecidableEq, Repr

namespace Identity

/-- Whether the address ends in `suffix`. No address ends in the empty suffix. -/
def emailEndsWith (identity : Identity) (suffix : String) : Bool :=
  suffix.toList ≠ [] && suffix.toList.isSuffixOf identity.email.toList

/-- One member of an object, as it is written. -/
def member (name text : String) : List Char := Json.quote name ++ ':' :: Json.quote text

def toJson (identity : Identity) : List Char :=
  '\x7b' :: member "email" identity.email ++ ',' :: member "name" identity.name
    ++ ',' :: member "picture" identity.picture ++ ['\x7d']

end Identity

end LoginGateway
