import FlashArb.Dex.Fetch
import FlashArb.Dex.Events
import FlashArb.Route.Finder
import FlashArb.Sim.LoanSearch
import FlashArb.Sim.LoanSearch.Concurrent
import FlashArb.Submit.Submitter
import FlashArb.Loan.Call
import FlashArb.Store.Record
import FlashArb.Engine.Checkpoint
import FlashArb.Engine.Dedup
import FlashArb.Engine.Retry
import FlashArb.Measure
import FlashArb.Time.Instant

/-! The engine: its configuration, collaborators and state. -/
namespace FlashArb

/-- Engine settings. -/
structure EngineConfig where
  loanToken : Address
  quoteToken : Address
  loanDecimals : Nat
  pools : List (Address × DexKind) := []
  factories : List Address := []
  dryRun : Bool := false
  minProfitBufferBps : Nat := 0
  minProfitBufferWei : Option Int := none
  batchSize : UInt64 := 0
  discoveryLookback : UInt64 := 0
  retry : RetryPolicy := {}
  dedupSize : Int := 0
  checkpointPath : FilePath := []
  checkpointEnabled : Bool := false
deriving Inhabited

/-- A log subscription: the logs it delivers, in order, and why it then drops. -/
structure Subscription where
  logs : List EventLog
  ending : Failure

/-- The chain's logs: the head block, logs of a block range, and subscriptions to logs of
some addresses and first topics. -/
structure LogSource (m : Type → Type) where
  latestBlock : m (Outcome UInt64)
  filterLogs : UInt64 → UInt64 → List Address → List Hash → m (Outcome (List EventLog))
  subscribe : List Address → List Hash → m (Outcome Subscription)

/-- Sizes the loan of a route at a gas price, reading pools from a cache. -/
abbrev LoanFinder (m : Type → Type) := PoolCache → Route → Option Int → m (Outcome LoanResult)

/-- Drives a call to a receipt. -/
abbrev TxSubmit (m : Type → Type) := TxRequest → m (Submission × Option Failure)

/-- Selects fees under the caller's context, which the argument reads: its failure once it has
ended, none while it runs. -/
abbrev FeeSelector (m : Type → Type) := m (Option Failure) → m (Outcome Fees)

/-- What an engine is built from; a part may be missing, which `Engine.create` refuses. -/
structure EngineParts (m : Type → Type) where
  cache : Option PoolCache
  fetcher : Option (Fetcher m)
  finder : Option (PoolCache → m (List Route))
  loans : Option (LoanFinder m)
  fees : Option (FeeSelector m)
  builder : Option Builder
  sink : Option (Storage m)
  submitter : Option (TxSubmit m) := none
  logs : Option (LogSource m) := none
  disk : Disk m
  /-- Nanoseconds since 1970 in UTC. -/
  clock : m Nat
  /-- A fresh random salt for a call. -/
  salt : m Nat

/-- An engine's collaborators. -/
structure Engine (m : Type → Type) where
  config : EngineConfig
  fetcher : Fetcher m
  finder : PoolCache → m (List Route)
  loans : LoanFinder m
  fees : FeeSelector m
  builder : Builder
  sink : Storage m
  submitter : Option (TxSubmit m)
  logs : Option (LogSource m)
  disk : Disk m
  clock : m Nat
  salt : m Nat

/-- What an engine keeps between operations. -/
structure EngineState where
  cache : PoolCache
  head : UInt64 := 0
  seen : Dedup
  checkpoint : CheckpointStore

/-- An engine operation. -/
abbrev EngineM (m : Type → Type) := StateT EngineState m

namespace Engine

/-- Builds an engine from its parts, refusing a missing one, and its first state. -/
def create {m : Type → Type} (config : EngineConfig) (p : EngineParts m) :
    Outcome (Engine m × EngineState) := do
  let need {α : Type} (part : Option α) (what : String) : Outcome α :=
    match part with
    | some a => .ok a
    | none => .error (Failure.plain (what ++ " is required"))
  let cache ← need p.cache "pool cache"
  let fetcher ← need p.fetcher "pool fetcher"
  let finder ← need p.finder "route finder"
  let loans ← need p.loans "loan searcher"
  let fees ← need p.fees "fee source"
  let builder ← need p.builder "call builder"
  let sink ← need p.sink "storage sink"
  if p.submitter.isNone && !config.dryRun then
    throw (Failure.plain "submitter is required unless dry-run is set")
  let config := { config with minProfitBufferWei := some (config.minProfitBufferWei.getD 0) }
  let capacity := if config.dedupSize < 1 then 4096 else config.dedupSize.toNat
  let store : CheckpointStore := { path := config.checkpointPath, enabled := config.checkpointEnabled }
  return (⟨config, fetcher, finder, loans, fees, builder, sink, p.submitter, p.logs, p.disk,
      p.clock, p.salt⟩, { cache, seen := { capacity }, checkpoint := store })

variable {m : Type → Type} [Monad m] [LogSink m] [Recorder m]

def observeBlock (block : UInt64) : EngineM m Unit :=
  modify fun s => { s with head := max s.head block }

def nowText (e : Engine m) : EngineM m String := do
  return Time.rfc3339Nano (← e.clock)

/-- Saves a checkpoint through the store. -/
def advanceCheckpoint (e : Engine m) (block : UInt64) : EngineM m (Outcome Unit) := do
  let stamp ← e.nowText
  let s ← get
  let (r, store) ← (s.checkpoint.advance e.disk block stamp : m _)
  modify fun s => { s with checkpoint := store }
  return r

def isPermanent (f : Failure) : Bool :=
  f.has .poolNotFound || f.has .pairMismatch || f.has .unsupportedDex

/-- Loads a pool into the cache, retrying passing failures. -/
def loadPool (e : Engine m) (pool : Address) (kind : DexKind) : EngineM m (Outcome Unit) := do
  -- a final failure ends the retries as a success would, and is reported after them
  let attempt : m (Outcome (Option (PoolState × PoolSnapshot) × Option Failure)) := do
    match ← e.fetcher.fetchPool pool kind with
    | .ok r => return .ok (some r, none)
    | .error f => return if isPermanent f then .ok (none, some f) else .error f
  match ← (e.config.retry.run "fetch pool" attempt : m _) with
  | .error f => return .error f
  | .ok (_, some f) => return .error f
  | .ok (none, none) => return .ok ()
  | .ok (some (state, snap), none) =>
    modify fun s => { s with cache := s.cache.upsert state snap }
    return .ok ()

/-- Refetches the snapshot of a cached pool. -/
def refreshSnapshot (e : Engine m) (pool : Address) : EngineM m (Outcome Unit) := do
  match (← get).cache.getState? pool with
  | none => return .error (Failure.plain ("pool " ++ pool.checksum ++ " is not cached"))
  | some state =>
    match ← (e.config.retry.run "refresh snapshot" (e.fetcher.fetchSnapshot state) : m _) with
    | .error f => return .error f
    | .ok snap =>
      modify fun s => { s with cache := s.cache.upsertSnapshot snap }
      return .ok ()

/-- Loads every configured pool. -/
def bootstrap (e : Engine m) : EngineM m (Outcome Unit) := do
  if let some logs := e.logs then
    match ← (logs.latestBlock : m _) with
    | .error f => return .error (f.wrap "get latest block")
    | .ok head => observeBlock head
  let mut loaded := 0
  for (pool, kind) in e.config.pools do
    match ← e.loadPool pool kind with
    | .error f =>
      Log.warn "pool fetch failed, skipping"
        [Log.text "pool" pool.checksum, Log.text "kind" kind.name, Log.failure f]
    | .ok () => loaded := loaded + 1
  let s ← get
  Recorder.record (.cachedPools s.cache.size)
  if loaded == 0 then
    return .error (Failure.plain ("none of " ++ toString e.config.pools.length ++
      " configured pools could be loaded"))
  Log.info "initial pool fetch complete" [Log.nat "loaded" loaded,
    Log.nat "configured" e.config.pools.length, Log.nat "head" s.head.toNat]
  return .ok ()

def bootstrapUnder (e : Engine m) (order : CompletionOrder) : EngineM m (Outcome Unit) :=
  let pools := (order e.config.pools.length).map e.config.pools.get
  { e with config := { e.config with pools } }.bootstrap

end Engine

end FlashArb
