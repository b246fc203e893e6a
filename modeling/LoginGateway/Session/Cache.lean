import LoginGateway.Identity.Basic

/-! Tokens that were found good, with whom they vouch for. The cache saves work
and decides nothing. -/

namespace LoginGateway

structure Cache where
  capacity : Nat
  entries : List (String × Identity)
deriving DecidableEq, Repr

namespace Cache

def empty (capacity : Nat) : Cache := ⟨capacity, []⟩

def get? (cache : Cache) (token : String) : Option Identity :=
  (cache.entries.find? (·.1 = token)).map (·.2)

def put (cache : Cache) (token : String) (identity : Identity) : Cache :=
  { cache with entries := cache.entries.filter (·.1 ≠ token) ++ [(token, identity)] }

/-- Entries beyond the capacity go, the latest first. -/
def settle (cache : Cache) : Cache := { cache with entries := cache.entries.take cache.capacity }

def count (cache : Cache) : Nat := cache.settle.entries.length

end Cache

end LoginGateway
