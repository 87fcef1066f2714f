import FlashArb.Chain.Client
import FlashArb.Chain.Dial
import FlashArb.Engine.Core

/-! The parts of a bot served by one connection to a node. -/
namespace FlashArb.Client

variable {m : Type → Type} [Monad m] (t : Rpc.Transport m)

def once {α : Type} (op : StateT State m α) : m α := op.run' {}

def streamStaysOpen : Failure := Failure.plain "subscription stream stays open"

def reader : ChainReader m :=
  { call := fun msg block => once (call t msg (block.map Int.ofNat))
    latestBlock := once (blockNumber t) }

/-- The logs of block ranges and log subscriptions. -/
def logSource : LogSource m :=
  { latestBlock := do return (← once (blockNumber t)).map Nat.toUInt64
    filterLogs := fun first last addresses topics =>
      once (filterLogs t first.toNat last.toNat addresses topics)
    subscribe := fun addresses topics => do
      match ← once (subscribeLogs t addresses topics) with
      | .error f => return .error f
      | .ok d => return .ok ⟨d.logs, d.failure.getD streamStaysOpen⟩ }

def feeOracle : FeeOracle m :=
  { tipCap := do return (← once (tipCap t)).map Int.ofNat
    feeCap := fun tip => do return (← once (feeCap t (some tip.toNat))).map Int.ofNat
    gasPrice := do return (← once (gasPrice t)).map Int.ofNat }

/-- What a submission needs of the node, on a clock read with `now` and waited on with
`sleepUntil`. -/
def submitBackend (now : m Nat) (sleepUntil : Nat → m Unit) : SubmitBackend m :=
  { estimateGas := fun msg _ => once (estimateGas t msg)
    fees := feeOracle t
    pendingNonce := fun account => once (pendingNonce t account)
    send := fun raw _ => once (sendRaw t raw)
    receipt := fun hash _ => do
      return (← once (receipt t hash)).map fun r => ⟨r.status, some r.block, r.gasUsed, r.logs⟩
    now, sleepUntil }

end FlashArb.Client

namespace FlashArb.Chain

def RelayClient.toRelay {m : Type → Type} [Monad m] (r : RelayClient m) : Relay m :=
  { url := r.url, send := fun raw _ => r.send raw }

end FlashArb.Chain
