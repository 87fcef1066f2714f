import FlashArb.Submit.Submitter
import FlashArb.Json.Fields
import FlashArb.Failure.Json

/-!
JSON forms of fee settings, submission limits and submission results. Wei amounts, nonces and
gas are decimal strings; durations are read in milliseconds.
-/
namespace FlashArb

def Stage.ofName? (s : String) : Option Stage :=
  [Stage.built, .nonceAssigned, .broadcastAttempted, .failedDirect, .relayAttempted, .confirmed,
    .reverted, .failedAll, .timedOut].find? (·.name == s)

def Field.millis (j : Json) (k : String) (default : Nat) : Decode Nat := do
  match ← Field.optInt j k with
  | none => return default * 1000000
  | some v => return v.toNat * 1000000

def FeeConfig.ofJson (j : Json) : Decode FeeConfig := do
  return { fixedGasPrice := ← Field.optInt j "fixed_gas_price",
           maxPriorityFee := ← Field.optInt j "max_priority_fee",
           fallbackPriorityFee := ← Field.optInt j "fallback_priority_fee",
           timeoutNs := ← Field.millis j "timeout_ms" 0 }

def Fees.toJson (f : Fees) : Json :=
  .obj [("tip_cap", Json.intText f.tipCap), ("fee_cap", Json.intText f.feeCap),
    ("gas_price", Json.intText f.gasPrice), ("source", .str f.source.name)]

def Fees.optJson : Option Fees → Json
  | some f => f.toJson
  | none => .obj [("tip_cap", .null), ("fee_cap", .null), ("gas_price", .null), ("source", .str "")]

/-- Submission limits; the chain id is given apart. -/
def SubmitConfig.ofJson (chainId : Int) (j : Json) : Decode SubmitConfig := do
  return { chainId, gasBufferPercent := ← Field.u64 j "gas_buffer_percent",
           minGasLimit := ← Field.u64 j "min_gas_limit",
           estimateTimeout := ← Field.millis j "estimate_timeout_ms" 0,
           receiptTimeout := ← Field.millis j "receipt_timeout_ms" 30,
           relayTimeout := ← Field.millis j "relay_timeout_ms" 30,
           submitTimeout := ← Field.millis j "submit_timeout_ms" 0,
           pollInterval := ← Field.millis j "poll_interval_ms" 5 }

def TxRequest.ofJson (j : Json) : Decode TxRequest := do
  return { target := ← Field.address j "to", data := ← Field.bytes j "data" }

def Receipt.toJson (r : Receipt) : Json :=
  .obj [("status", Json.intText r.status), ("block", Json.opt (fun (b : Nat) => Json.intText b) r.block),
    ("gas_used", Json.intText r.gasUsed)]

/-- A submission's trace and outcome, with the failure that ended it. -/
def Submission.toJson (s : Submission) (err : Option Failure) : Json :=
  .obj [("states", .arr (s.stages.map fun st => .str st.name)),
    ("outcome", .str ((s.outcome.map Stage.name).getD "")), ("via", .str s.via),
    ("tx_hash", .str s.txHash.hex), ("nonce", Json.intText s.nonce),
    ("gas_limit", Json.intText s.gasLimit), ("fees", Fees.optJson s.fees),
    ("receipt", Json.opt Receipt.toJson s.receipt), ("error", Json.opt Failure.toJson err)]

def NonceManager.lastJson (mgr : NonceManager) : Json :=
  Json.opt (fun (n : Nat) => Json.intText n) mgr.last

end FlashArb
