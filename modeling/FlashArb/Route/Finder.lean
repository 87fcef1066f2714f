import FlashArb.Pool.Cache
import FlashArb.Route.Basic
import FlashArb.Price.Basic
import FlashArb.Log

/-! A pool's directional price is the number of quote tokens one loan token buys in it. -/
namespace FlashArb

/-- The pair to trade and the smallest price gap worth simulating, in quote tokens per loan
token. -/
structure Target where
  loanToken : Address
  quoteToken : Address
  loanDecimals : Nat
  quoteDecimals : Nat
  threshold : Float

def noPrice (detail : String) : Failure := Failure.plain ("no usable price: " ++ detail)

namespace Target

/-- The quote-token price of one loan token in the pool: the pool's own price (token1 per
token0) when the loan token is token0, its inverse otherwise. -/
def directionalPrice (t : Target) (s : PoolState) (p : PoolSnapshot) : Outcome Float := do
  let loanIsToken0 := s.token0 == t.loanToken
  let (d0, d1) := if loanIsToken0 then (t.loanDecimals, t.quoteDecimals)
    else (t.quoteDecimals, t.loanDecimals)
  let price ←
    if s.kind == .concentrated then
      if p.sqrtPrice.isNone then throw (noPrice "missing sqrt price")
      Price.ofSqrtPrice p.sqrtPrice d0 d1
    else if s.kind.isConstantProduct then
      if p.reserve0.isNone || p.reserve1.isNone then throw (noPrice "missing reserves")
      Price.ofReserves p.reserve0 p.reserve1 d0 d1
    else throw (noPrice ("unsupported kind " ++ s.kind.name))
  if price ≤ 0 then throw (noPrice "pool uninitialized")
  return if loanIsToken0 then price else 1 / price

/-- What pricing one cached pool of the pair gave. -/
inductive Survey where
  | priced (s : PoolState) (price : Float)
  | noSnapshot (s : PoolState)
  | unpriced (s : PoolState) (f : Failure)

/-- The cached pools holding the pair, in address order, each with its price or the reason it
has none. -/
def survey (t : Target) (c : PoolCache) : List Survey :=
  (c.stateList.filter fun s => s.hasPair t.loanToken t.quoteToken).map fun s =>
    match c.getSnapshot? s.address with
    | none => .noSnapshot s
    | some p =>
      match t.directionalPrice s p with
      | .ok price => .priced s price
      | .error f => .unpriced s f

def priced (t : Target) (c : PoolCache) : List (PoolState × Float) :=
  (t.survey c).filterMap fun
    | .priced s price => some (s, price)
    | _ => none

/-- The route buying in `buy` and selling in `sell`. -/
def candidate (t : Target) (buy sell : PoolState × Float) : Route :=
  { buyPool := buy.1.address, sellPool := sell.1.address, buyKind := buy.1.kind,
    sellKind := sell.1.kind, buyToken0IsLoan := buy.1.token0 == t.loanToken,
    sellToken0IsLoan := sell.1.token0 == t.loanToken, loanToken := t.loanToken,
    quoteToken := t.quoteToken, buyFee := buy.1.fee, sellFee := sell.1.fee,
    buyStable := buy.1.stable, sellStable := sell.1.stable, buyFactory := buy.1.factory,
    sellFactory := sell.1.factory, buyPrice := buy.2, sellPrice := sell.2 }

def tooClose (t : Target) (buy sell : Float) : Bool := sell - buy ≤ t.threshold

/-- Every ordered pair of distinct priced pools whose price gap is wide enough. -/
def pairs (t : Target) (pools : List (PoolState × Float)) : List Route :=
  let indexed := pools.zipIdx
  indexed.flatMap fun (buy, i) => indexed.filterMap fun (sell, j) =>
    if i == j || buy.1.address == sell.1.address || t.tooClose buy.2 sell.2 then none
    else some (t.candidate buy sell)

def candidates (t : Target) (c : PoolCache) : List Route := t.pairs (t.priced c)

/-- The warning for a pool left out of the search, if it was. -/
def Survey.skipEntry? : Survey → Option LogEntry
  | .noSnapshot s =>
    some ⟨.warn, "pool has no snapshot, skipping", [Log.text "pool" s.address.checksum]⟩
  | .unpriced s f =>
    some ⟨.warn, "pool price unavailable, skipping",
      [Log.text "pool" s.address.checksum, Log.text "kind" s.kind.name, Log.failure f]⟩
  | .priced .. => none

def candidateEntry (r : Route) : LogEntry :=
  ⟨.debug, "route candidate", [Log.text "buy_pool" r.buyPool.checksum,
    Log.text "sell_pool" r.sellPool.checksum, Log.float "buy_price" r.buyPrice,
    Log.float "sell_price" r.sellPrice]⟩

def searchLog (t : Target) (c : PoolCache) : List LogEntry :=
  (t.survey c).filterMap Survey.skipEntry? ++ (t.candidates c).map candidateEntry

def search {m : Type → Type} [Monad m] [LogSink m] (t : Target) (c : PoolCache) : m (List Route) := do
  for e in t.searchLog c do LogSink.emit e
  return t.candidates c

end Target

end FlashArb
