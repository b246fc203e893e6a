import LoginGateway.Cookie
import LoginGateway.Session.Cache
import LoginGateway.Token

/-! From a request to the visitor behind it. A token is looked up first and
verified otherwise; whatever is wrong with it only means that nobody is known. -/

namespace LoginGateway.Session

def cookieName : String := "sso_session"

/-- The lifetime of a session in seconds, the only one it has. -/
def lifetime : Nat := 3600

/-- Whom a token vouches for, and the cache afterwards. -/
def resolve (token : String) (key : SigningKey) (cache : Cache) : Option Identity × Cache :=
  if Token.looksLikeToken token then
    match cache.get? token with
    | some identity => (some identity, cache)
    | none =>
      match Token.decode token key with
      | .ok identity => (some identity, cache.put token identity)
      | .error _ => (none, cache)
  else (none, cache)

/-- The token in the cookies of a request. The value is unescaped once more, for
clients that escape what they were given. -/
def token? (headers : Headers) : Option String := do
  let value ← Cookie.find? (Cookie.jar headers) cookieName
  if value = "" then none else text? (Percent.decode (octets value))

def visitor (headers : Headers) (key : SigningKey) (cache : Cache) : Option Identity × Cache :=
  match token? headers with
  | some token => resolve token key cache
  | none => (none, cache)

def cookie (token : String) (secure : Bool) : Cookie := ⟨cookieName, token, lifetime, secure⟩

def clearedCookie (secure : Bool) : Cookie := ⟨cookieName, "", 0, secure⟩

end LoginGateway.Session
