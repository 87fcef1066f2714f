import FlashArb.Log

/-! Choosing transaction fees: fixed, dynamic, legacy, or configured. -/
namespace FlashArb

/-- Where fees came from. -/
inductive FeeSource where
  | fixed
  | eip1559
  | legacy
  | config
deriving DecidableEq, Inhabited

def FeeSource.name : FeeSource → String
  | .fixed => "fixed"
  | .eip1559 => "eip1559"
  | .legacy => "legacy"
  | .config => "config"

/-- The fee terms of one transaction. -/
structure Fees where
  tipCap : Int
  feeCap : Int
  gasPrice : Int
  source : FeeSource
deriving Inhabited

/-- Configured fee bounds, in wei. -/
structure FeeConfig where
  fixedGasPrice : Option Int := none
  maxPriorityFee : Option Int := none
  fallbackPriorityFee : Option Int := none
  timeoutNs : Nat := 0

/-- The chain's fee oracle: suggested tip, fee cap for a tip, and legacy gas price. -/
structure FeeOracle (m : Type → Type) where
  tipCap : m (Outcome Int)
  feeCap : Int → m (Outcome Int)
  gasPrice : m (Outcome Int)

namespace FeeConfig

def maxTip (c : FeeConfig) : Int := c.maxPriorityFee.getD 0

def fallbackTip (c : FeeConfig) : Int :=
  match c.fallbackPriorityFee with
  | some fb => if fb > 0 && fb < c.maxTip then fb else c.maxTip
  | none => c.maxTip

end FeeConfig

/-- The oracle's fees: its tip capped at the largest tip, its fee cap raised to the tip. -/
def dynamicFees {m : Type → Type} [Monad m] (oracle : FeeOracle m) (c : FeeConfig) :
    m (Outcome Fees) := do
  match ← oracle.tipCap with
  | .error e => return .error e
  | .ok tip =>
    let tip := if tip > c.maxTip then c.maxTip else tip
    match ← oracle.feeCap tip with
    | .error e => return .error e
    | .ok cap =>
      let cap := if cap < tip then tip else cap
      return .ok ⟨tip, cap, cap, .eip1559⟩

/-- Selects the fees of a new transaction under the caller's context, which `ended` reads: its
failure once it has ended. -/
def selectFeesUnder {m : Type → Type} [Monad m] [LogSink m] (ended : m (Option Failure))
    (oracle : FeeOracle m) (c : FeeConfig) : m (Outcome Fees) := do
  match c.fixedGasPrice with
  | some fixed => if fixed > 0 then return .ok ⟨fixed, fixed, fixed, .fixed⟩ else selectDynamic
  | none => selectDynamic
where
  selectDynamic : m (Outcome Fees) := do
    match ← dynamicFees oracle c with
    | .ok fees => return .ok fees
    | .error dynErr =>
      match ← ended with
      | some e => return .error e
      | none =>
      Log.warn "eip1559 fee estimation failed, trying legacy gas price" [Log.failure dynErr]
      let tip := c.fallbackTip
      match ← oracle.gasPrice with
      | .ok price => return .ok ⟨tip, price + tip, price + tip, .legacy⟩
      | .error legacyErr =>
        match ← ended with
        | some e => return .error e
        | none =>
        let cap := tip * 2
        Log.error "fee estimation failed, using configured fees only"
          [("eip1559_error", .str dynErr.message), ("legacy_error", .str legacyErr.message),
            Log.text "max_fee" (toString cap), Log.text "max_priority_fee" (toString tip)]
        return .ok ⟨tip, cap, cap, .config⟩

end FlashArb
