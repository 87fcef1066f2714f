import FlashArb.Engine.Evaluate
import FlashArb.Json.Fields

/-!
JSON forms of engine settings and of what an evaluation reports. Amounts and block numbers
are decimal strings, prices float text.
-/
namespace FlashArb

/-- Engine settings; pools map addresses to kind names, durations are in milliseconds. -/
def EngineConfig.ofJson (j : Json) : Decode EngineConfig := do
  let pools ← (j.field "pools").members.mapM fun (k, v) => do
    let a ← Field.addressOfText "pools" k
    return (a, ← Field.dexKind (.obj [("kind", v)]) "kind")
  let backoff ← match ← Field.optInt j "backoff_ms" with
    | none => pure 1
    | some v => pure v
  return { loanToken := ← Field.address j "loan_token", quoteToken := ← Field.address j "quote_token",
           loanDecimals := ← Field.decimals j "loan_decimals", pools,
           factories := ← Field.addresses j "factories", dryRun := ← Field.bool j "dry_run",
           minProfitBufferBps := ← Field.u64 j "min_profit_buffer_bps",
           minProfitBufferWei := ← Field.optInt j "min_profit_buffer_wei",
           batchSize := (← Field.u64 j "batch_size").toUInt64,
           discoveryLookback := (← Field.u64 j "discovery_lookback").toUInt64,
           retry := { maxRetries := ← Field.int j "max_retries",
                      backoffNs := backoff.toNat * 1000000 },
           dedupSize := ← Field.int j "dedup_size",
           checkpointEnabled := ← Field.bool j "checkpoint_enabled" }

/-- An opportunity as an evaluation reports it. -/
def Opportunity.reportJson (o : Opportunity) : Json :=
  .obj [("block", Json.intText o.block), ("buy_pool", .str o.buyPool), ("sell_pool", .str o.sellPool),
    ("buy_kind", .str o.buyKind), ("sell_kind", .str o.sellKind),
    ("buy_price", Json.floatText o.buyPrice), ("sell_price", Json.floatText o.sellPrice),
    ("loan_amount", .str o.loanAmount), ("loan_human", .str o.loanHuman),
    ("net_profit", .str o.netProfit), ("gas_price", .str o.gasPrice), ("dry_run", .bool o.dryRun)]

def SubmissionRecord.reportJson (s : SubmissionRecord) : Json :=
  .obj [("tx_hash", .str s.txHash), ("nonce", Json.intText s.nonce), ("outcome", .str s.outcome),
    ("via", .str s.via), ("block", Json.intText s.block), ("gas_used", Json.intText s.gasUsed),
    ("states", .arr ((s.states.getD []).map .str)), ("error", .str s.error)]

end FlashArb
