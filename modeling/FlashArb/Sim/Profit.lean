import FlashArb.Route.Basic
import FlashArb.Log
import FlashArb.Measure

/-! A route is simulated by quoting its sell leg with the loan amount and its buy leg with what the
sell leg gave. -/
namespace FlashArb

/-- Gas and fee terms of a simulation. -/
structure SimConfig where
  gasBufferPercent : Nat := 0
  minGasLimit : Nat := 0
  fallbackGasLimit : Nat := 0
  flashLoanFeeBps : Nat := 0

def minProfit : Int := -(2 ^ 255)

def maxWord64 : Nat := 2 ^ 64 - 1

/-- `estimate · (100 + bufferPercent) / 100`, the sum taken modulo `2^64` as a 64-bit word,
saturated at the largest 64-bit word and raised to `floor`. -/
def bufferedGasLimit (estimate bufferPercent floor : Nat) : Nat :=
  let limit := estimate * ((100 + bufferPercent) % 2 ^ 64) / 100
  if limit > maxWord64 then maxWord64
  else if limit > floor then limit
  else floor

/-- The services a simulation calls: a swap quoter and, when there is one, a gas estimator for
the flash-loan call of a route and loan amount. -/
structure Simulator (m : Type → Type) where
  quote : Leg → Int → m (Outcome Int)
  estimateGas : Option (Route → Int → m (Outcome Nat))
  config : SimConfig

namespace Simulator

variable {m : Type → Type} [Monad m] [LogSink m] [Recorder m]

def swap (s : Simulator m) (leg : Leg) (amountIn : Int) : m (Outcome Int) := do
  let out ← s.quote leg amountIn
  Recorder.record (.quote leg.kind 0 (match out with | .ok _ => false | .error _ => true))
  return out

/-- The gas limit of the route's flash-loan call: the estimate, or the fallback limit when
there is no estimator or it fails, buffered and raised to the minimum. -/
def gasLimit (s : Simulator m) (r : Route) (amount : Int) : m Nat := do
  let fallback := s.config.fallbackGasLimit
  let estimate ← match s.estimateGas with
    | none => pure fallback
    | some estimate =>
      match ← estimate r amount with
      | .ok units => pure units
      | .error f => do
        Log.warn "gas estimate failed, using fallback"
          [Log.text "buy_pool" r.buyPool.checksum, Log.text "sell_pool" r.sellPool.checksum,
            Log.nat "fallback" fallback, Log.failure f]
        pure fallback
  return bufferedGasLimit estimate s.config.gasBufferPercent s.config.minGasLimit

def loanFee (s : Simulator m) (amountIn : Int) : Int :=
  (amountIn * s.config.flashLoanFeeBps).tdiv 10000

/-- The net profit of running the route with `amountIn`, or the failure of a quote. -/
def netProfit (s : Simulator m) (r : Route) (amountIn : Int) (gasPrice : Option Int) :
    m (Outcome Int) := do
  match ← s.swap r.sellLeg amountIn with
  | .error f => return .error (f.wrap ("first leg " ++ r.sellLeg.pool.checksum))
  | .ok mid =>
    if mid == 0 then return .ok minProfit
    match ← s.swap r.buyLeg mid with
    | .error f => return .error (f.wrap ("second leg " ++ r.buyLeg.pool.checksum))
    | .ok final =>
      let gross := final - amountIn
      if gross ≤ 0 then return .ok gross
      let limit ← s.gasLimit r amountIn
      let net := match gasPrice with
        | some price => gross - limit * price
        | none => gross
      let net := if s.config.flashLoanFeeBps > 0 then net - s.loanFee amountIn else net
      Log.debug "simulated route"
        [Log.text "amount_in" (toString amountIn), Log.text "final" (toString final),
          Log.nat "gas_limit" limit, Log.text "net_profit" (toString net)]
      return .ok net

end Simulator

end FlashArb
