import FlashArb.Config.Basic
import FlashArb.Json.Fields

/-! JSON form of the configuration, with snake-case keys and durations in nanoseconds under
`<name>_ns`. -/
namespace FlashArb

namespace Config

/-- A map of text to text; absent when missing or `null`. -/
def textMap (j : Json) (k : String) : Decode (Option (List (String × String))) :=
  match j.field k with
  | .null => .ok none
  | .obj ms => some <$> ms.mapM (fun (key, v) => (match v with
      | Json.str s => Except.ok (key, s)
      | _ => Except.error ("field " ++ k ++ " holds a non-string") : Decode (String × String)))
  | _ => .error ("field " ++ k ++ " is not a map")

/-- A list of text; absent when missing or `null`. -/
def textList (j : Json) (k : String) : Decode (Option (List String)) :=
  match j.field k with
  | .null => .ok none
  | .arr xs => some <$> xs.mapM (fun v => (match v with
      | Json.str s => Except.ok s
      | _ => Except.error ("field " ++ k ++ " holds a non-string") : Decode String))
  | _ => .error ("field " ++ k ++ " is not a list")

def ofJson (j : Json) : Decode Config := do
  let u64 := Field.u64 j
  return {
    rpcUrl := ← Field.string j "rpc_url"
    wsUrl := ← Field.string j "ws_url"
    privateKey := ← Field.string j "private_key"
    chainId := ← u64 "chain_id"
    executor := ← Field.string j "executor"
    balancerVault := ← Field.string j "balancer_vault"
    quoter := ← Field.string j "quoter"
    veloRouter := ← Field.string j "velo_router"
    routers := ← textMap j "routers"
    uniswapFactory := ← Field.string j "uniswap_factory"
    veloFactory := ← Field.string j "velo_factory"
    loanToken := ← Field.string j "loan_token"
    quoteToken := ← Field.string j "quote_token"
    loanDecimals := ← Field.int j "loan_decimals"
    quoteDecimals := ← Field.int j "quote_decimals"
    pools := ← textMap j "pools"
    minLoan := .ofFloat (← Field.float j "min_loan")
    maxLoan := .ofFloat (← Field.float j "max_loan")
    searchIterations := ← Field.int j "search_iterations"
    searchConcurrency := ← Field.int j "search_concurrency"
    dynamicCapPercent := ← u64 "dynamic_cap_percent"
    priceThreshold := .ofFloat (← Field.float j "price_threshold")
    gasBufferPercent := ← u64 "gas_buffer_percent"
    minGasLimit := ← u64 "min_gas_limit"
    fallbackGasLimit := ← u64 "fallback_gas_limit"
    flashLoanFeeBps := ← u64 "flash_loan_fee_bps"
    gasPriceGwei := .ofFloat (← Field.float j "gas_price_gwei")
    maxPriorityFeeGwei := .ofFloat (← Field.float j "max_priority_fee_gwei")
    fallbackPriorityFeeGwei := .ofFloat (← Field.float j "fallback_priority_fee_gwei")
    minProfitBufferBps := ← u64 "min_profit_buffer_bps"
    minProfitBufferWei := ← Field.string j "min_profit_buffer_wei"
    relayUrls := ← textList j "relay_urls"
    fetchTimeout := ← Field.int j "fetch_timeout_ns"
    quoteTimeout := ← Field.int j "quote_timeout_ns"
    receiptTimeout := ← Field.int j "receipt_timeout_ns"
    relayTimeout := ← Field.int j "relay_timeout_ns"
    submitTimeout := ← Field.int j "submit_timeout_ns"
    receiptPollInterval := ← Field.int j "receipt_poll_interval_ns"
    nonceResyncInterval := ← Field.int j "nonce_resync_interval_ns"
    dryRun := ← Field.bool j "dry_run"
    batchSize := ← u64 "batch_size"
    discoveryLookback := ← u64 "discovery_lookback"
    checkpoint := ← Field.string j "checkpoint"
    checkpointEnabled := ← Field.bool j "checkpoint_enabled"
    maxRetries := ← Field.int j "max_retries"
    retryBackoff := ← Field.int j "retry_backoff_ns"
    healthInterval := ← Field.int j "health_interval_ns"
    dedupSize := ← Field.int j "dedup_size"
    out := ← Field.string j "out"
    pgDsn := ← Field.string j "pg_dsn"
    redisAddr := ← Field.string j "redis_addr"
    redisStream := ← Field.string j "redis_stream"
    metricsAddr := ← Field.string j "metrics_addr"
    logLevel := ← Field.string j "log_level" }

def floatJson (x : Float) : Json := .str (Binary64.format x)

def natJson (n : Nat) : Json := .str (toString n)

def toJson (c : Config) : Json :=
  .obj [("rpc_url", .str c.rpcUrl), ("ws_url", .str c.wsUrl), ("private_key", .str c.privateKey),
    ("chain_id", natJson c.chainId), ("executor", .str c.executor),
    ("balancer_vault", .str c.balancerVault), ("quoter", .str c.quoter),
    ("velo_router", .str c.veloRouter),
    ("routers", Json.opt (fun ms => .obj (ms.map fun (k, v) => (k, .str v))) c.routers),
    ("uniswap_factory", .str c.uniswapFactory), ("velo_factory", .str c.veloFactory),
    ("loan_token", .str c.loanToken), ("quote_token", .str c.quoteToken),
    ("loan_decimals", Json.ofInt c.loanDecimals), ("quote_decimals", Json.ofInt c.quoteDecimals),
    ("pools", Json.opt (fun ms => .obj (ms.map fun (k, v) => (k, .str v))) c.pools),
    ("min_loan", floatJson c.minLoan.toFloat), ("max_loan", floatJson c.maxLoan.toFloat),
    ("search_iterations", Json.ofInt c.searchIterations),
    ("search_concurrency", Json.ofInt c.searchConcurrency),
    ("dynamic_cap_percent", natJson c.dynamicCapPercent),
    ("price_threshold", floatJson c.priceThreshold.toFloat),
    ("gas_buffer_percent", natJson c.gasBufferPercent), ("min_gas_limit", natJson c.minGasLimit),
    ("fallback_gas_limit", natJson c.fallbackGasLimit),
    ("flash_loan_fee_bps", natJson c.flashLoanFeeBps), ("gas_price_gwei", floatJson c.gasPriceGwei.toFloat),
    ("max_priority_fee_gwei", floatJson c.maxPriorityFeeGwei.toFloat),
    ("fallback_priority_fee_gwei", floatJson c.fallbackPriorityFeeGwei.toFloat),
    ("min_profit_buffer_bps", natJson c.minProfitBufferBps),
    ("min_profit_buffer_wei", .str c.minProfitBufferWei),
    ("relay_urls", Json.opt (fun xs => .arr (xs.map .str)) c.relayUrls),
    ("fetch_timeout_ns", Json.ofInt c.fetchTimeout), ("quote_timeout_ns", Json.ofInt c.quoteTimeout),
    ("receipt_timeout_ns", Json.ofInt c.receiptTimeout),
    ("relay_timeout_ns", Json.ofInt c.relayTimeout), ("submit_timeout_ns", Json.ofInt c.submitTimeout),
    ("receipt_poll_interval_ns", Json.ofInt c.receiptPollInterval),
    ("nonce_resync_interval_ns", Json.ofInt c.nonceResyncInterval), ("dry_run", .bool c.dryRun),
    ("batch_size", natJson c.batchSize), ("discovery_lookback", natJson c.discoveryLookback),
    ("checkpoint", .str c.checkpoint), ("checkpoint_enabled", .bool c.checkpointEnabled),
    ("max_retries", Json.ofInt c.maxRetries), ("retry_backoff_ns", Json.ofInt c.retryBackoff),
    ("health_interval_ns", Json.ofInt c.healthInterval), ("dedup_size", Json.ofInt c.dedupSize),
    ("out", .str c.out), ("pg_dsn", .str c.pgDsn), ("redis_addr", .str c.redisAddr),
    ("redis_stream", .str c.redisStream), ("metrics_addr", .str c.metricsAddr),
    ("log_level", .str c.logLevel)]

end Config

end FlashArb
