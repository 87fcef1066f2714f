import FlashArb.Engine.Events
import FlashArb.Engine.Resume
import FlashArb.Chain.BlockRange

/-! Following the chain: backfilling factory logs, then handling logs as they come. -/
namespace FlashArb

namespace Engine

variable {m : Type → Type} [Monad m] [LogSink m] [Recorder m]

/-- Handles the logs of one batch, logging the failures. -/
def handleBatch (e : Engine m) : List EventLog → EngineM m Unit
  | [] => return ()
  | log :: rest => do
    if let .error f := ← e.handleLog log then
      Log.warn "handle backfilled log failed" [Log.failure f]
    e.handleBatch rest

/-- Reads and handles the logs of each batch in turn; with `advance`, the checkpoint follows
the batches. Stops at the first batch that cannot be read. -/
def scanBatches (e : Engine m) (logs : LogSource m) (addresses : List Address) (topics : List Hash)
    (advance : Bool) : List BlockRange → EngineM m (Outcome Unit)
  | [] => return .ok ()
  | r :: rest => do
    match ← (e.config.retry.run "filter logs" (logs.filterLogs r.first r.last addresses topics) : m _) with
    | .error f =>
      return .error (f.wrap ("filter logs " ++ toString r.first ++ "-" ++ toString r.last))
    | .ok batch =>
      e.handleBatch batch
      if advance then
        if let .error f := ← e.advanceCheckpoint r.last then
          Log.warn "checkpoint save failed" [Log.failure f]
      Log.info "backfill batch complete" [Log.nat "logs" batch.length, Log.nat "from" r.first.toNat,
        Log.nat "to" r.last.toNat]
      e.scanBatches logs addresses topics advance rest

/-- Scans `[first, last]` for logs of `addresses` in batches. -/
def scan (e : Engine m) (logs : LogSource m) (first last : UInt64) (addresses : List Address)
    (topics : List Hash) (advance : Bool) : EngineM m (Outcome Unit) := do
  if addresses.isEmpty then return .ok ()
  match splitRange first last e.config.batchSize with
  | .error f => return .error f
  | .ok ranges => e.scanBatches logs addresses topics advance ranges

/-- Replays factory logs from `factoryFrom` and pool logs from `poolFrom` up to `head`. -/
def backfill (e : Engine m) (logs : LogSource m) (poolFrom factoryFrom head : UInt64) :
    EngineM m (Outcome Unit) := do
  if !e.config.factories.isEmpty && factoryFrom ≤ head then
    if let .error f := ← e.scan logs factoryFrom head e.config.factories Topic.factory true then
      return .error (f.wrap "factory logs")
  if poolFrom ≤ head then
    if let .error f := ← e.scan logs poolFrom head (← get).cache.addresses Topic.pool false then
      return .error (f.wrap "pool logs")
  return .ok ()

/-- Subscribes to the logs of the cached pools and the factories. -/
def subscribe (e : Engine m) (logs : LogSource m) : EngineM m (Outcome Subscription) := do
  let addresses := (← get).cache.addresses ++ e.config.factories
  match ← (e.config.retry.run "subscribe logs" (logs.subscribe addresses (Topic.pool ++ Topic.factory)) : m _) with
  | .error f => return .error (f.wrap "subscribe logs")
  | .ok sub =>
    Log.info "subscribed to logs" [Log.nat "addresses" addresses.length]
    return .ok sub

/-- Handles streamed logs until one caches a new pool or the stream drops. -/
def consume (e : Engine m) (ending : Failure) : List EventLog → EngineM m Unit
  | [] => Log.warn "log subscription dropped, resubscribing" [Log.failure ending]
  | log :: rest => do
    match ← e.handleLog log with
    | .error f =>
      Log.warn "handle log failed" [Log.failure f]
      e.consume ending rest
    | .ok (_, discovered) =>
      if discovered then Log.info "resubscribing to include discovered pool"
      else e.consume ending rest

/-- Follows at most `rounds` subscriptions. -/
def follow (e : Engine m) (logs : LogSource m) :
    Nat → UInt64 → UInt64 → EngineM m (Outcome Unit)
  | 0, _, _ => return .ok ()
  | rounds + 1, poolFrom, factoryFrom => do
    let subscribed := (← get).cache.size
    match ← e.subscribe logs with
    | .error f => return .error f
    | .ok sub =>
      match ← (e.config.retry.run "latest block" logs.latestBlock : m _) with
      | .error f => return .error (f.wrap "get latest block")
      | .ok head =>
        if let .error f := ← e.backfill logs poolFrom factoryFrom head then
          Log.warn "backfill incomplete" [Log.failure f]
        if (← get).cache.size != subscribed then
          e.follow logs rounds head (head + 1)
        else
          e.consume sub.ending sub.logs
          e.follow logs rounds (← get).head (head + 1)

/-- Loads the checkpoint and follows the chain for at most `rounds` subscriptions. -/
def watch (e : Engine m) (logs : LogSource m) (rounds : Nat) : EngineM m (Outcome Unit) := do
  let s ← get
  let (loaded, store) ← (s.checkpoint.load e.disk : m _)
  modify fun s => { s with checkpoint := store }
  match loaded with
  | .error f => return .error f
  | .ok cp =>
    let head := (← get).head
    let factoryFrom := resumeFrom (cp.map (·.lastProcessed)) head e.config.discoveryLookback
    if let some c := cp then
      Log.info "resume factory scan from checkpoint"
        [Log.nat "last_processed" c.lastProcessed.toNat, Log.nat "from" factoryFrom.toNat]
    e.follow logs rounds head factoryFrom

/-- Loads the configured pools, then follows the chain for at most `rounds` subscriptions. -/
def run (e : Engine m) (rounds : Nat) : EngineM m (Outcome Unit) := do
  match e.logs with
  | none => return .error (Failure.plain "run requires an event decoder and a log source")
  | some logs =>
    if e.config.batchSize == 0 then
      return .error (Failure.plain "batch size must be greater than zero")
    match ← e.bootstrap with
    | .error f => return .error f
    | .ok () => e.watch logs rounds

end Engine

end FlashArb
