import LoginGateway.Digest.Hmac

/-! The key that signs sessions. It is made anew at each start and never written
anywhere, so a restart ends all sessions. -/

namespace LoginGateway

structure SigningKey where
  bytes : Octets
deriving DecidableEq

namespace SigningKey

def freshLength : Nat := 64

/-- A key made from noise. -/
def fromNoise (noise : Octets) : SigningKey :=
  ⟨(Sha256.hash (0 :: noise) ++ Sha256.hash (1 :: noise)).take freshLength⟩

def sign (key : SigningKey) (message : Octets) : Octets := Hmac.sign key.bytes message

/-- What messages may show of a key: nothing but its length. -/
def shown (key : SigningKey) : String :=
  "SecretKey \x7b len: " ++ toString key.bytes.length ++ ", .. \x7d"

end SigningKey

end LoginGateway
