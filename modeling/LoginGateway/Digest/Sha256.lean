import LoginGateway.Text.Utf8

/-! The hash SHA-256. A block of sixteen words is stretched to sixty-four, each of
which turns the chaining state once; the state after the last block is the digest. -/

namespace LoginGateway.Sha256

structure Chain where
  (a b c d e f g h : UInt32)
deriving DecidableEq, Repr

def Chain.start : Chain :=
  ⟨0x6a09e667, 0xbb67ae85, 0x3c6ef372, 0xa54ff53a, 0x510e527f, 0x9b05688c, 0x1f83d9ab, 0x5be0cd19⟩

def Chain.add (x y : Chain) : Chain :=
  ⟨x.a + y.a, x.b + y.b, x.c + y.c, x.d + y.d, x.e + y.e, x.f + y.f, x.g + y.g, x.h + y.h⟩

/-- One constant for each turn. -/
def constants : List UInt32 :=
  [0x428a2f98, 0x71374491, 0xb5c0fbcf, 0xe9b5dba5, 0x3956c25b, 0x59f111f1, 0x923f82a4, 0xab1c5ed5,
   0xd807aa98, 0x12835b01, 0x243185be, 0x550c7dc3, 0x72be5d74, 0x80deb1fe, 0x9bdc06a7, 0xc19bf174,
   0xe49b69c1, 0xefbe4786, 0x0fc19dc6, 0x240ca1cc, 0x2de92c6f, 0x4a7484aa, 0x5cb0a9dc, 0x76f988da,
   0x983e5152, 0xa831c66d, 0xb00327c8, 0xbf597fc7, 0xc6e00bf3, 0xd5a79147, 0x06ca6351, 0x14292967,
   0x27b70a85, 0x2e1b2138, 0x4d2c6dfc, 0x53380d13, 0x650a7354, 0x766a0abb, 0x81c2c92e, 0x92722c85,
   0xa2bfe8a1, 0xa81a664b, 0xc24b8b70, 0xc76c51a3, 0xd192e819, 0xd6990624, 0xf40e3585, 0x106aa070,
   0x19a4c116, 0x1e376c08, 0x2748774c, 0x34b0bcb5, 0x391c0cb3, 0x4ed8aa4a, 0x5b9cca4f, 0x682e6ff3,
   0x748f82ee, 0x78a5636f, 0x84c87814, 0x8cc70208, 0x90befffa, 0xa4506ceb, 0xbef9a3f7, 0xc67178f2]

def rotate (word : UInt32) (amount : UInt32) : UInt32 := word >>> amount ||| word <<< (32 - amount)

def turn (x : Chain) (constant word : UInt32) : Chain :=
  let high := rotate x.e 6 ^^^ rotate x.e 11 ^^^ rotate x.e 25
  let choice := (x.e &&& x.f) ^^^ (~~~x.e &&& x.g)
  let first := x.h + high + choice + constant + word
  let low := rotate x.a 2 ^^^ rotate x.a 13 ^^^ rotate x.a 22
  let majority := (x.a &&& x.b) ^^^ (x.a &&& x.c) ^^^ (x.b &&& x.c)
  ⟨first + (low + majority), x.a, x.b, x.c, x.d + first, x.e, x.f, x.g⟩

def stretch : Nat → List UInt32 → List UInt32
  | 0, _ => []
  | count + 1, window =>
    let w := fun place => window.getD place 0
    let low := rotate (w 1) 7 ^^^ rotate (w 1) 18 ^^^ w 1 >>> 3
    let high := rotate (w 14) 17 ^^^ rotate (w 14) 19 ^^^ w 14 >>> 10
    let next := w 0 + low + w 9 + high
    next :: stretch count (window.tail ++ [next])

def compress (x : Chain) (block : List UInt32) : Chain :=
  let schedule := block ++ stretch 48 block
  x.add ((constants.zip schedule).foldl (fun state (constant, word) => turn state constant word) x)

def words : Octets → List UInt32
  | a :: b :: c :: d :: rest =>
    (a.toUInt32 <<< 24 ||| b.toUInt32 <<< 16 ||| c.toUInt32 <<< 8 ||| d.toUInt32) :: words rest
  | _ => []

def wordOctets (word : UInt32) : Octets :=
  [(word >>> 24).toUInt8, (word >>> 16).toUInt8, (word >>> 8).toUInt8, word.toUInt8]

/-- The message with a one bit, zeros and its length in bits, in whole blocks. -/
def padded (message : Octets) : Octets :=
  let bits := UInt64.ofNat (message.length * 8)
  let zeros : Octets := List.replicate ((119 - message.length % 64) % 64) 0
  message ++ 0x80 :: zeros ++ wordOctets (bits >>> 32).toUInt32
    ++ wordOctets bits.toUInt32

/-- The state after all blocks; `count` bounds the number of blocks. -/
def absorb : Nat → Chain → List UInt32 → Chain
  | 0, x, _ => x
  | count + 1, x, block => absorb count (compress x (block.take 16)) (block.drop 16)

def Chain.octets (x : Chain) : Octets :=
  wordOctets x.a ++ wordOctets x.b ++ wordOctets x.c ++ wordOctets x.d
    ++ wordOctets x.e ++ wordOctets x.f ++ wordOctets x.g ++ wordOctets x.h

def hash (message : Octets) : Octets :=
  let all := words (padded message)
  (absorb (all.length / 16) Chain.start all).octets

theorem hash_length (message : Octets) : (hash message).length = 32 := rfl

end LoginGateway.Sha256
