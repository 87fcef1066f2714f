import FlashArb.Scripted.Sim
import FlashArb.Scripted.Answer
import FlashArb.Scripted.Files
import FlashArb.Engine.Json
import FlashArb.Submit.Json
import FlashArb.Sim.Json
import FlashArb.Loan.Json
import FlashArb.Pool.Cache.Json

/-! An engine running against the scripted world. -/
namespace FlashArb.Scripted

-- The engine runs dry exactly when no submitter is scripted.

def fixedOracle {m : Type → Type} [Monad m] (tip feeCap gasPrice : Outcome Int) : FeeOracle m :=
  { tipCap := pure tip, feeCap := fun _ => pure feeCap, gasPrice := pure gasPrice }

/-- A submission result as scripted: `{outcome, via, nonce, tx_hash, states, receipt, error}`. -/
def submissionOfJson (j : Json) : Decode (Submission × Option Failure) := do
  let stage (s : String) : Decode Stage := match Stage.ofName? s with
    | some st => pure st
    | none => throw ("unknown stage " ++ s)
  let stages ← (j.field "states").items.mapM fun v => match v with
    | .str s => stage s
    | _ => throw "field states holds a non-string"
  let outcome ← match ← Field.optString j "outcome" with
    | none => pure none
    | some "" => pure none
    | some s => some <$> stage s
  let receipt ← match j.field "receipt" with
    | .null => pure none
    | r => pure (some ⟨← Field.u64 r "status", ← Field.optU64 r "block", ← Field.u64 r "gas_used", 0⟩)
  let err := (← Field.optString j "error").map Failure.plain
  return ({ stages, outcome, via := ← Field.string j "via", txHash := ← Field.hash j "tx_hash",
            nonce := ← Field.u64 j "nonce", receipt }, err)

def engineCheckpointPath : FilePath := ["<tmp>", "checkpoint.json"]

def gasOfJson (j : Json) : Decode (Option (Outcome Nat)) :=
  match j.field "gas" with
  | .null => pure none
  | g => some <$> gasAnswerOfJson g

/-- The engine parts a request scripts, and the settings they run under. -/
def engineOfJson (j : Json) : Decode (EngineConfig × EngineParts ScriptM) := do
  let submit ← match j.field "submit" with
    | .null => pure none
    | s => some <$> submissionOfJson s
  let config ← EngineConfig.ofJson (j.field "config")
  let config := { config with checkpointPath := engineCheckpointPath, dryRun := submit.isNone }
  let target ← match j.field "route_config" with
    | .null => pure ({ loanToken := config.loanToken, quoteToken := config.quoteToken,
                       loanDecimals := config.loanDecimals, quoteDecimals := 0, threshold := 0 } : Target)
    | r => Target.ofJson r
  let sim := simulator (← QuoteBook.ofJson (j.field "quoter")) (← gasOfJson j) (← SimConfig.ofJson (j.field "sim_config"))
  let loanConfig ← LoanConfig.ofJson (j.field "loan_config")
  let dynamic := !(← Field.bool j "no_dynamic_cap")
  let loans : LoanFinder ScriptM := fun cache r gasPrice =>
    (loanSearch sim (if dynamic then some cache.getSnapshot? else none) loanConfig).findOptimal r gasPrice
  let backend := j.field "fee_backend"
  let oracle : FeeOracle ScriptM := fixedOracle (← valueAnswer (backend.field "tip"))
    (← valueAnswer (backend.field "fee_cap")) (← valueAnswer (backend.field "gas_price"))
  let feeConfig ← FeeConfig.ofJson (j.field "fees")
  let routers ← match j.field "routers" with
    | .null => pure none
    | r => some <$> RouterTable.ofJson r
  let builder : Builder := { vault := ← Field.address j "vault", executor := ← Field.address j "executor", routers }
  return (config,
    { cache := some (← PoolCache.ofJson (j.field "pools")),
      fetcher := some { reader := chainReader, loanToken := config.loanToken, quoteToken := config.quoteToken },
      finder := some target.search, loans := some loans,
      fees := some fun ended => selectFeesUnder ended oracle feeConfig,
      builder := some builder, sink := some worldStorage, submitter := submit.map scriptedSubmit,
      logs := none, disk := worldDisk, clock := pure 0, salt := pure 0 })

end FlashArb.Scripted
