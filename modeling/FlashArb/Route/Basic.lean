import FlashArb.Pool.State

/-! Routes: a buy leg and a sell leg between two pools. -/
namespace FlashArb

/-- A pair of pools whose prices for the loan token diverge. -/
structure Route where
  buyPool : Address
  sellPool : Address
  buyKind : DexKind
  sellKind : DexKind
  buyToken0IsLoan : Bool
  sellToken0IsLoan : Bool
  loanToken : Address
  quoteToken : Address
  buyFee : Option UInt32 := none
  sellFee : Option UInt32 := none
  buyStable : Option Bool := none
  sellStable : Option Bool := none
  buyFactory : Address := Address.zero
  sellFactory : Address := Address.zero
  buyPrice : Float := 0
  sellPrice : Float := 0
deriving Inhabited

/-- One swap through one pool. -/
structure Leg where
  pool : Address
  kind : DexKind
  tokenIn : Address
  tokenOut : Address
  zeroForOne : Bool
  fee : Option UInt32
  stable : Option Bool
  factory : Address
deriving Inhabited, DecidableEq

namespace Route

def sellLeg (r : Route) : Leg :=
  { pool := r.sellPool, kind := r.sellKind, tokenIn := r.loanToken, tokenOut := r.quoteToken,
    zeroForOne := r.sellToken0IsLoan, fee := r.sellFee, stable := r.sellStable,
    factory := r.sellFactory }

def buyLeg (r : Route) : Leg :=
  { pool := r.buyPool, kind := r.buyKind, tokenIn := r.quoteToken, tokenOut := r.loanToken,
    zeroForOne := !r.buyToken0IsLoan, fee := r.buyFee, stable := r.buyStable,
    factory := r.buyFactory }

def legs (r : Route) : List Leg := [r.sellLeg, r.buyLeg]

end Route

end FlashArb
