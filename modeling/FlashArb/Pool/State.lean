import FlashArb.Chain.Address
import FlashArb.Pool.Kind

/-! What is known of a pool: its static state and a snapshot stamped with its block. -/
namespace FlashArb

/-- The static description of a pool. -/
structure PoolState where
  address : Address
  kind : DexKind
  token0 : Address
  token1 : Address
  fee : Option UInt32 := none
  stable : Option Bool := none
  factory : Address := Address.zero
  token0IsLoan : Bool := false
deriving Inhabited, DecidableEq

def PoolState.hasPair (s : PoolState) (a b : Address) : Bool :=
  (s.token0 == a && s.token1 == b) || (s.token0 == b && s.token1 == a)

/-- The dynamic fields of a pool at a block. -/
structure PoolSnapshot where
  address : Address
  kind : DexKind := .unknown
  token0 : Address := Address.zero
  token1 : Address := Address.zero
  reserve0 : Option Int := none
  reserve1 : Option Int := none
  sqrtPrice : Option Int := none
  tick : Option Int := none
  block : Option Nat := none
deriving Inhabited, DecidableEq

def PoolSnapshot.reserveOf (s : PoolSnapshot) (token : Address) : Option Int :=
  if s.token0 == token then s.reserve0
  else if s.token1 == token then s.reserve1
  else none

end FlashArb
