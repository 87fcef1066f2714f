import FlashArb.App.Settings
import FlashArb.App.Node
import FlashArb.App.Storage
import FlashArb.Engine.Evaluate
import FlashArb.Dex.Quoter
import FlashArb.Chain.Transaction

/-! Assembling a bot from its configuration, step by step, the first failure ending it. -/
namespace FlashArb.App

/-- An assembled bot: its engine and the connections behind it. -/
structure Bot (m : Type → Type) where
  config : Config
  engine : Engine m
  state : EngineState
  chainId : Nat
  sink : Storage m
  relays : List (Chain.RelayClient m)
  /-- Whether logs are followed through a connection of their own. -/
  separateLogClient : Bool

variable {m : Type → Type} [Monad m] [LogSink m] [Recorder m]

def closeSink (sink : Storage m) : m Unit := do
  if let .error f := ← sink.close then Log.warn "close storage" [Log.failure f]

def Bot.close (b : Bot m) : m Unit := closeSink b.sink

/-- The submitter of a bot that is not dry: the relays it dialled, and its way to submit. -/
def makeSubmitter (sv : Services m) (c : Config) (client : Rpc.Transport m) (fees : FeeConfig)
    (secret : Option Nat) (chainId : Nat) :
    m (Outcome (List (Chain.RelayClient m) × TxSubmit m)) := do
  let some key := secret | return .error (Failure.plain "private key is required unless dry-run is set")
  let relays ← (c.relayUrls.getD []).foldlM (fun acc url => do
    match acc with
    | .error f => return .error f
    | .ok dialled =>
      match ← Chain.RelayClient.dial sv.network url with
      | .error e => return .error (Failure.plain e)
      | .ok r => return .ok (dialled ++ [r])) (Except.ok [])
  match relays with
  | .error f => return .error f
  | .ok relays =>
    let backend := Client.submitBackend client sv.clock sv.sleepUntil
    let config : SubmitConfig :=
      { chainId := chainId, gasBufferPercent := c.gasBufferPercent, minGasLimit := c.minGasLimit,
        estimateTimeout := c.quoteTimeout.toNat, receiptTimeout := c.receiptTimeout.toNat,
        relayTimeout := c.relayTimeout.toNat, submitTimeout := c.submitTimeout.toNat,
        pollInterval := c.receiptPollInterval.toNat }
    match Submitter.create backend (relays.map (·.toRelay)) fees (some key) config none with
    | .error f => return .error f
    | .ok (submitter, first) =>
      sv.keepNonces first
      let submit : TxSubmit m := fun req => do
        let mgr := (← sv.nonces).getD first
        let (res, err, mgr) ← submitter.submit mgr req
        sv.keepNonces mgr
        return (res, err)
      return .ok (relays, submit)

/-- The parts of the engine once the node is reached: everything from the decimals on. -/
def assemble (sv : Services m) (c : Config) (addrs : Addresses) (pools : AddressMap DexKind)
    (routers : AddressMap Address) (minProfitWei : Int) (client logs : Rpc.Transport m)
    (separate : Bool) (chainId : Nat) : m (Outcome (Bot m)) := do
  let reader := Client.reader client
  let fetcher : Fetcher m := { reader, loanToken := addrs.loan, quoteToken := addrs.quote }
  let (loanDecimals, cache) ← resolveDecimals fetcher [] addrs.loan c.loanDecimals
  let loanDecimals ← match loanDecimals with
    | .ok d => pure d
    | .error f => return .error f
  let (quoteDecimals, _) ← resolveDecimals fetcher cache addrs.quote c.quoteDecimals
  let quoteDecimals ← match quoteDecimals with
    | .ok d => pure d
    | .error f => return .error f
  let secret ← match (if c.privateKey.isEmpty then .ok none else some <$> parseSecretKey c.privateKey) with
    | .ok k => pure k
    | .error f => return .error (f.wrap "parse private key")
  let sender := (secret.map addressOfSecret).getD Address.zero
  let target : Target := { loanToken := addrs.loan, quoteToken := addrs.quote, loanDecimals,
                           quoteDecimals, threshold := c.priceThreshold.toFloat }
  let table : RouterTable := { defaultRouter := addrs.veloRouter, routers := routers.entries }
  let quoter : Quoter m := { reader := some reader, quoter := addrs.quoter, routers := table }
  let builder : Builder := { vault := addrs.vault, executor := addrs.executor, routers := some table }
  let estimator : Estimator m :=
    { builder, sender, estimate := fun msg => Client.once (Client.estimateGas client msg),
      freshSalt := sv.salt }
  let sim : Simulator m :=
    { quote := fun leg amount => quoter.quote leg (some amount)
      estimateGas := some fun r amount => estimator.estimateGas r (some amount)
      config := { gasBufferPercent := c.gasBufferPercent, minGasLimit := c.minGasLimit,
                  fallbackGasLimit := c.fallbackGasLimit, flashLoanFeeBps := c.flashLoanFeeBps } }
  let loanConfig : LoanConfig :=
    { minLoan := c.minLoan.toFloat, maxLoan := c.maxLoan.toFloat, loanDecimals, iterations := c.searchIterations,
      concurrency := c.searchConcurrency, dynamicCapPercent := c.dynamicCapPercent }
  let loans : LoanFinder m := fun pools r gasPrice =>
    ({ profit := sim.netProfit, snapshot := some pools.getSnapshot?, config := loanConfig } :
      LoanSearch m).findOptimal r gasPrice
  let fees ← match feeConfigOf c with
    | .ok f => pure f
    | .error f => return .error f
  let sink ← match ← openStorage sv c with
    | .ok s => pure s
    | .error f => return .error f
  let submitter ← if c.dryRun then pure (Except.ok ([], none)) else do
    match ← makeSubmitter sv c client fees secret chainId with
    | .ok (relays, submit) => pure (.ok (relays, some submit))
    | .error f => pure (.error f)
  let (relays, submit) ← match submitter with
    | .ok r => pure r
    | .error f =>
      closeSink sink
      return .error f
  let config : EngineConfig :=
    { loanToken := addrs.loan, quoteToken := addrs.quote, loanDecimals, pools := pools.entries,
      factories := addrs.factories, dryRun := c.dryRun, minProfitBufferBps := c.minProfitBufferBps,
      minProfitBufferWei := some minProfitWei, batchSize := c.batchSize.toUInt64,
      discoveryLookback := c.discoveryLookback.toUInt64,
      retry := { maxRetries := c.maxRetries, backoffNs := c.retryBackoff.toNat },
      dedupSize := c.dedupSize, checkpointPath := sv.path c.checkpoint,
      checkpointEnabled := c.checkpointEnabled }
  let parts : EngineParts m :=
    { cache := some PoolCache.empty, fetcher := some fetcher, finder := some target.search,
      loans := some loans,
      fees := some fun ended => selectFeesUnder ended (Client.feeOracle client) fees,
      builder := some builder, sink := some sink, submitter := submit,
      logs := some (Client.logSource logs), disk := sv.disk, clock := sv.clock, salt := sv.salt }
  match Engine.create config parts with
  | .error f =>
    closeSink sink
    return .error f
  | .ok (engine, state) =>
    Log.info "engine ready" [Log.text "chain_id" (toString chainId),
      Log.text "loan_token" addrs.loan.checksum, Log.text "quote_token" addrs.quote.checksum,
      Log.nat "loan_decimals" loanDecimals, Log.nat "quote_decimals" quoteDecimals,
      Log.nat "factories" addrs.factories.length, Log.text "account" sender.checksum]
    return .ok { config := c, engine, state, chainId, sink, relays, separateLogClient := separate }

/-- Builds a bot from its configuration; with `follow`, logs are followed through the
configured log endpoint when it differs from the node's. -/
def build (sv : Services m) (c : Config) (follow : Bool) : m (Outcome (Bot m)) := do
  let (addrs, fault) := Addresses.ofConfig c
  if let some f := fault then return .error f
  let pools ← match parsePools (c.pools.getD []) with
    | .ok p => pure p
    | .error f => return .error f
  let routers ← match parseRouters (c.routers.getD []) with
    | .ok r => pure r
    | .error f => return .error f
  let some minProfitWei := parseWei? c.minProfitBufferWei
    | return .error (Failure.plain ("invalid min-profit-buffer-wei: " ++ Text.quote c.minProfitBufferWei))
  let client ← match ← Chain.dial sv.network c.rpcUrl with
    | .ok t => pure t
    | .error e => return .error (Failure.plain ("connect rpc: " ++ e))
  let separate := follow && !c.wsUrl.isEmpty && c.wsUrl != c.rpcUrl
  let logs ← if separate then
      match ← Chain.dial sv.network c.wsUrl with
      | .ok t => pure t
      | .error e => return .error (Failure.plain ("connect ws rpc: " ++ e))
    else pure client
  let chainId ← if c.chainId != 0 then pure c.chainId else
    match ← Client.once (Client.chainId client) with
    | .ok id => pure id
    | .error f => return .error (f.wrap "get chain id")
  assemble sv c addrs pools routers minProfitWei client logs separate chainId

end FlashArb.App
