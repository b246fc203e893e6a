import LoginGateway.Digest.Sha256

/-! Keyed hashing. A key that is longer than a block is hashed first and a shorter
one is filled up with zeros, so keys that fill up alike sign alike. -/

namespace LoginGateway.Hmac

def blockLength : Nat := 64

def keyBlock (key : Octets) : Octets :=
  let short := if blockLength < key.length then Sha256.hash key else key
  short ++ List.replicate (blockLength - short.length) 0

def sign (key message : Octets) : Octets :=
  let block := keyBlock key
  Sha256.hash (block.map (· ^^^ 0x5C) ++ Sha256.hash (block.map (· ^^^ 0x36) ++ message))

theorem sign_length (key message : Octets) : (sign key message).length = 32 := rfl

end LoginGateway.Hmac
