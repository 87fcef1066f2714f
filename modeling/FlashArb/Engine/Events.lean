import FlashArb.Engine.Core

/-! Applying chain events to the pool cache, each log at most once. -/
namespace FlashArb

namespace Engine

variable {m : Type → Type} [Monad m] [LogSink m] [Recorder m]

/-- Loads a pool a followed factory created for the target pair. Tells whether it was new. -/
def handlePoolCreated (e : Engine m) (ev : PoolEvent) (factory : Address) (kind : DexKind)
    (token0 token1 : Address) : EngineM m (Outcome Bool) := do
  if !e.config.factories.contains factory then return .ok false
  let pair : PoolState := { address := ev.pool, kind, token0, token1, token0IsLoan := false }
  if !pair.hasPair e.config.loanToken e.config.quoteToken || (← get).cache.has ev.pool then
    return .ok false
  Log.info "new pool for target pair"
    [Log.text "pool" ev.pool.checksum, Log.text "factory" factory.checksum, Log.text "kind" kind.name]
  match ← e.loadPool ev.pool kind with
  | .error f => return .error (f.wrap ("load discovered pool " ++ ev.pool.checksum))
  | .ok () =>
    Recorder.record (.cachedPools (← get).cache.size)
    return .ok true

/-- Moves a pool's snapshot to an event of `block`, unless it is already past it. -/
def moveSnapshot (pool : Address) (block : UInt64) (f : PoolSnapshot → PoolSnapshot) :
    EngineM m Bool := do
  let s ← get
  match s.cache.getSnapshot? pool with
  | none => return false
  | some snap =>
    if let some b := snap.block then
      if b > block.toNat then return false
    modify fun s => { s with cache := (s.cache.updateSnapshot pool fun snap =>
      { f snap with block := some block.toNat }).2 }
    return true

/-- Applies a decoded event; tells whether the cache changed and whether a pool was found. -/
def apply (e : Engine m) (ev : PoolEvent) : EngineM m (Outcome (Bool × Bool)) := do
  match ev.body with
  | .concentratedSwap sqrtPrice tick =>
    let moved ← moveSnapshot ev.pool ev.block fun snap =>
      { snap with sqrtPrice := some sqrtPrice, tick := some tick }
    return .ok (moved, false)
  | .sync r0 r1 =>
    let moved ← moveSnapshot ev.pool ev.block fun snap =>
      { snap with reserve0 := some r0, reserve1 := some r1 }
    return .ok (moved, false)
  | .productSwap =>
    match ← e.refreshSnapshot ev.pool with
    | .error f => return .error (f.wrap ("refresh " ++ ev.pool.checksum ++ " after swap"))
    | .ok () => return .ok (true, false)
  | .poolCreated factory kind token0 token1 _ _ =>
    match ← e.handlePoolCreated ev factory kind token0 token1 with
    | .error f => return .error f
    | .ok found => return .ok (found, found)

/-- Handles a decoded event after the duplicate check: tells whether the cache changed and
whether a pool was discovered. A constant-product swap of an unknown pool is ignored whole. -/
def handleEvent (e : Engine m) (ev : PoolEvent) : EngineM m (Outcome (Bool × Bool)) := do
  Recorder.record (.event ev.body.kindName)
  observeBlock ev.block
  if ev.body matches .productSwap then
    if !(← get).cache.has ev.pool then return .ok (false, false)
  match ← e.apply ev with
  | .error f => return .error f
  | .ok (updated, discovered) =>
    if updated then
      Log.debug "pool updated" [Log.text "pool" ev.pool.checksum, Log.text "event" ev.body.kindName,
        Log.nat "block" ev.block.toNat]
    if ev.block > 0 then
      if let .error f := ← e.advanceCheckpoint (ev.block - 1) then
        Log.warn "checkpoint save failed" [Log.failure f]
    return .ok (updated, discovered)

/-- Applies one chain log to the pool cache: whether the cache changed and whether a new pool
was cached. -/
def handleLog (e : Engine m) (log : EventLog) : EngineM m (Outcome (Bool × Bool)) := do
  if log.removed then return .ok (false, false)
  let (dup, seen) := (← get).seen.containsOrAdd log.id
  modify fun s => { s with seen }
  if dup then return .ok (false, false)
  let result ← match log.topics with
    | topic0 :: _ =>
      if !canDecode topic0 then pure (.ok (false, false))
      else match PoolEvent.decode log with
        | .error f => pure (.error (f.wrap ("decode log " ++ log.id)))
        | .ok ev => e.handleEvent ev
    | [] => pure (.ok (false, false))
  if result matches .error _ then
    modify fun s => { s with seen := s.seen.remove log.id }
  return result

end Engine

end FlashArb
