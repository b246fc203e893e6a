import LoginGateway.Identity.Reader
import LoginGateway.SigningKey
import LoginGateway.Text.Base64
import LoginGateway.Text.Split

/-! Signed session tokens. A token is a signature, a comma and a payload. The
payload is the base64 of an identity as JSON, and the signature is the base64 of
the authentication code of the payload's own text, so nothing in a token can be
spelled in two ways. -/

namespace LoginGateway.Token

/-- Why a text is not a token of a key. Only the last cause is found behind a
signature that fits. -/
inductive Fault where
  | malformed
  | badSignature
  | payload (reason : String)
deriving DecidableEq, Repr

namespace Fault

def message : Fault → String
  | .malformed => "malformed session token"
  | .badSignature => "invalid session token signature"
  | .payload reason => "invalid session token payload: " ++ reason

/-- Whether a token is not authentic, as opposed to authentic and unreadable. -/
def isForgery : Fault → Bool
  | .payload _ => false
  | _ => true

end Fault

def separator : Char := ','

def signature (key : SigningKey) (payload : List Char) : List Char :=
  Base64.encode (key.sign (Utf8.encode payload))

def encode (identity : Identity) (key : SigningKey) : String :=
  let payload := Base64.encode (Utf8.encode identity.toJson)
  String.ofList (signature key payload ++ separator :: payload)

/-- Equality of two authentication codes that looks at every octet of two codes
of one length. -/
def signaturesMatch (expected provided : Octets) : Bool :=
  expected.length = provided.length
    && ((expected.zip provided).foldl (fun seen (x, y) => seen ||| (x ^^^ y)) 0) == 0

def isSigned (key : SigningKey) (signature payload : List Char) : Bool :=
  match Base64.decode (Utf8.encode signature) with
  | .ok provided => signaturesMatch (key.sign (Utf8.encode payload)) provided
  | .error _ => false

/-- The identity in a payload. -/
def decodePayload (payload : List Char) : Except Fault Identity :=
  match Base64.decode (Utf8.encode payload) with
  | .error fault => .error (.payload fault.message)
  | .ok json =>
    match Identity.parse json with
    | .error fault => .error (.payload (fault.message json))
    | .ok identity => .ok identity

def decode (token : String) (key : SigningKey) : Except Fault Identity :=
  match split? separator token.toList with
  | none => .error .malformed
  | some (signature, payload) =>
    if isSigned key signature payload then decodePayload payload else .error .badSignature

def looksLikeToken (token : String) : Bool := token.toList.contains separator

end LoginGateway.Token
