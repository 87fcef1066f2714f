import Mathlib
import FlashArb.Engine.Watch

/-! What one engine step changes, as Hoare triples over the engine's world. -/
namespace FlashArb

open Std.Do

set_option mvcgen.warning false

theorem world_spec {σ α : Type} (x : StateM σ α) : ⦃fun _ => ⌜True⌝⦄ x ⦃⇓ _ _ => ⌜True⌝⦄ := by
  intro _ _
  simp [wp]

theorem emit_stateT {ρ : Type} {m : Type → Type} [Monad m] [LogSink m] (entry : LogEntry) :
    (LogSink.emit entry : StateT ρ m Unit) = MonadLift.monadLift (LogSink.emit entry : m Unit) := rfl

theorem record_stateT {ρ : Type} {m : Type → Type} [Monad m] [Recorder m] (x : Measure) :
    (Recorder.record x : StateT ρ m Unit) = MonadLift.monadLift (Recorder.record x : m Unit) := rfl

namespace Dedup

variable (d : Dedup) (k : String)

@[simp] theorem capacity_containsOrAdd : (d.containsOrAdd k).2.capacity = d.capacity := by
  unfold containsOrAdd
  split <;> rfl

@[simp] theorem capacity_remove : (d.remove k).capacity = d.capacity := rfl

theorem containsOrAdd_of_mem {d : Dedup} {k : String} (known : k ∈ d.keys) :
    d.containsOrAdd k = (true, d) := by
  simp [containsOrAdd, known]

theorem containsOrAdd_of_not_mem {d : Dedup} {k : String} (fresh : k ∉ d.keys) :
    d.containsOrAdd k = (false, { d with keys := (k :: d.keys).take d.capacity }) := by
  simp [containsOrAdd, fresh]

end Dedup

namespace PoolSnapshot

/-- Whether an event of `block` is not older than the snapshot: a snapshot without a block
takes every event. -/
def admits (snap : PoolSnapshot) (block : Nat) : Bool := snap.block.all (· ≤ block)

end PoolSnapshot

namespace PoolCache

/-- The cache after an event of `block` writing `f` reaches `pool`: its snapshot takes the
write and the block, unless it is already past that block or there is none. -/
def advanceSnapshot (c : PoolCache) (pool : Address) (block : Nat)
    (f : PoolSnapshot → PoolSnapshot) : PoolCache :=
  match c.getSnapshot? pool with
  | some snap =>
    if snap.admits block then (c.updateSnapshot pool fun snap => { f snap with block := some block }).2
    else c
  | none => c

end PoolCache

namespace EventBody

/-- Whether the event moves its pool's snapshot: a reserve sync or a concentrated-liquidity swap. -/
def movesSnapshot : EventBody → Bool
  | .concentratedSwap .. | .sync .. => true
  | _ => false

/-- What the event writes into its pool's snapshot: the new reserves of a sync, the new price
and tick of a concentrated-liquidity swap. -/
def write : EventBody → PoolSnapshot → PoolSnapshot
  | .concentratedSwap sqrtPrice tick, snap => { snap with sqrtPrice := some sqrtPrice, tick := some tick }
  | .sync reserve0 reserve1, snap => { snap with reserve0 := some reserve0, reserve1 := some reserve1 }
  | _, snap => snap

@[simp] theorem write_concentratedSwap (sqrtPrice : Nat) (tick : Int) :
    (concentratedSwap sqrtPrice tick).write = fun snap =>
      { snap with sqrtPrice := some sqrtPrice, tick := some tick } := rfl

@[simp] theorem write_sync (reserve0 reserve1 : Nat) :
    (sync reserve0 reserve1).write = fun snap =>
      { snap with reserve0 := some reserve0, reserve1 := some reserve1 } := rfl

end EventBody

namespace PoolEvent

theorem decode_eq_ok {l : EventLog} {ev : PoolEvent} (h : decode l = .ok ev) :
    ∃ topic0 rest, l.topics = topic0 :: rest ∧ canDecode topic0 = true ∧
      read l topic0 = .ok (ev.pool, ev.body) ∧ ev.block = l.block := by
  unfold decode at h
  split at h
  · cases h
  · rename_i topic0 rest topics
    split at h
    · cases h
    · rename_i known
      simp only [bind, Except.bind] at h
      split at h
      · cases h
      · rename_i read_ok
        cases h
        exact ⟨topic0, rest, topics, by simpa using known, read_ok, rfl⟩

theorem read_pool {l : EventLog} {topic0 : Hash} {pool : Address} {body : EventBody}
    (h : read l topic0 = .ok (pool, body)) (moves : body.movesSnapshot = true) : pool = l.address := by
  cases body <;> simp only [EventBody.movesSnapshot, Bool.false_eq_true] at moves <;>
  · unfold read at h
    simp only [bind, Except.bind, pure, Except.pure] at h
    split_ifs at h <;> (repeat' split at h) <;> simp_all

theorem block_of_decode {l : EventLog} {ev : PoolEvent} (h : decode l = .ok ev) :
    ev.block = l.block := by
  obtain ⟨_, _, _, _, _, block⟩ := decode_eq_ok h
  exact block

theorem decode_pool {l : EventLog} {ev : PoolEvent} (h : decode l = .ok ev)
    (moves : ev.body.movesSnapshot = true) : ev.pool = l.address := by
  obtain ⟨_, _, _, _, read_ok, _⟩ := decode_eq_ok h
  exact read_pool read_ok moves

end PoolEvent

/-- The state after an operation that changed the cache at most. -/
abbrev EngineState.withCache (s : EngineState) (cache : PoolCache) : EngineState := { s with cache }

/-- `s` holds what `s₀` holds outside the cache: the head, the remembered ids and the
checkpoint store. -/
def EngineState.Keeps (s s₀ : EngineState) : Prop :=
  s.head = s₀.head ∧ s.seen = s₀.seen ∧ s.checkpoint = s₀.checkpoint

namespace CheckpointStore

/-- What saving `block` can make of a store: nothing, or `block` saved when it is past every
block saved before. -/
def Saves (s : CheckpointStore) (block : UInt64) (s' : CheckpointStore) : Prop :=
  s' = s ∨ (∀ b ∈ s.saved, b < block) ∧ s' = { s with saved := some block }

theorem advance_spec {σ : Type} (s : CheckpointStore) (disk : Disk (StateM σ)) (block : UInt64)
    (stamp : String) :
    ⦃fun _ => ⌜True⌝⦄ s.advance disk block stamp ⦃⇓ p _ => ⌜s.Saves block p.2⌝⦄ := by
  have written := world_spec (s.write disk block stamp)
  unfold advance
  mvcgen [written]
  all_goals simp_all [Saves]

end CheckpointStore

namespace Engine

variable {σ : Type} (e : Engine (StateM σ))

theorem advanceCheckpoint_spec (block : UInt64) (s₀ : EngineState) :
    ⦃fun s _ => ⌜s = s₀⌝⦄ e.advanceCheckpoint block
      ⦃⇓ _ s _ => ⌜s.cache = s₀.cache ∧ s.head = s₀.head ∧ s.seen = s₀.seen ∧
        s₀.checkpoint.Saves block s.checkpoint⌝⦄ := by
  have clock := world_spec e.clock
  have saved := fun (store : CheckpointStore) stamp => store.advance_spec e.disk block stamp
  unfold advanceCheckpoint nowText
  mvcgen [clock, saved]
  all_goals subst_vars; simp_all +zetaDelta

theorem moveSnapshot_spec (pool : Address) (block : UInt64) (f : PoolSnapshot → PoolSnapshot)
    (s₀ : EngineState) :
    ⦃fun s _ => ⌜s = s₀⌝⦄ (moveSnapshot pool block f : EngineM (StateM σ) Bool)
      ⦃⇓ _ s _ => ⌜s = s₀.withCache (s₀.cache.advanceSnapshot pool block.toNat f)⌝⦄ := by
  unfold moveSnapshot
  mvcgen
  all_goals subst_vars; simp_all +zetaDelta [PoolCache.advanceSnapshot, PoolSnapshot.admits,
    ← Option.eq_none_iff_forall_ne_some, Nat.not_le_of_lt]

variable [LogSink (StateM σ)]

theorem loadPool_spec (pool : Address) (kind : DexKind) (s₀ : EngineState) :
    ⦃fun s _ => ⌜s = s₀⌝⦄ e.loadPool pool kind
      ⦃⇓ r s _ => ⌜(∀ f, r = .error f → s = s₀) ∧ s.Keeps s₀ ∧
        (s.cache = s₀.cache ∨ ∃ state snap, s.cache = s₀.cache.upsert state snap)⌝⦄ := by
  unfold loadPool
  mvcgen [world_spec]
  all_goals subst_vars; simp_all +zetaDelta [EngineState.Keeps]

theorem refreshSnapshot_spec (pool : Address) (s₀ : EngineState) :
    ⦃fun s _ => ⌜s = s₀⌝⦄ e.refreshSnapshot pool
      ⦃⇓ r s _ => ⌜(∀ f, r = .error f → s = s₀) ∧ s.Keeps s₀ ∧
        (s.cache = s₀.cache ∨ ∃ snap, s.cache = s₀.cache.upsertSnapshot snap)⌝⦄ := by
  unfold refreshSnapshot
  mvcgen [world_spec]
  all_goals subst_vars; simp_all +zetaDelta [EngineState.Keeps]

variable [Recorder (StateM σ)]

/-- Whether a creation event is one the engine loads: from a followed factory, of the target
pair, and of a pool not cached yet. -/
def Discovers (cache : PoolCache) (ev : PoolEvent) (factory : Address) (kind : DexKind)
    (token0 token1 : Address) : Prop :=
  factory ∈ e.config.factories ∧
    ({ address := ev.pool, kind, token0, token1 } : PoolState).hasPair e.config.loanToken
      e.config.quoteToken = true ∧ cache.has ev.pool = false

/-- Whether the event is a pool creation the engine does not load into `cache`. -/
def Ignores (cache : PoolCache) (ev : PoolEvent) : Prop :=
  match ev.body with
  | .poolCreated factory kind token0 token1 _ _ => ¬ e.Discovers cache ev factory kind token0 token1
  | _ => False

theorem handlePoolCreated_spec (ev : PoolEvent) (factory : Address) (kind : DexKind)
    (token0 token1 : Address) (s₀ : EngineState) :
    ⦃fun s _ => ⌜s = s₀⌝⦄ e.handlePoolCreated ev factory kind token0 token1
      ⦃⇓ r s _ => ⌜(∀ f, r = .error f → s = s₀) ∧ s.Keeps s₀ ∧
        (¬ e.Discovers s₀.cache ev factory kind token0 token1 → r = .ok false ∧ s = s₀)⌝⦄ := by
  have load := e.loadPool_spec
  unfold handlePoolCreated
  mvcgen [world_spec, load, Log.info, emit_stateT, record_stateT]
  all_goals subst_vars; simp_all +zetaDelta [Discovers, EngineState.Keeps]

theorem apply_spec (ev : PoolEvent) (s₀ : EngineState) :
    ⦃fun s _ => ⌜s = s₀⌝⦄ e.apply ev
      ⦃⇓ r s _ => ⌜(∀ f, r = .error f → s = s₀) ∧ s.Keeps s₀ ∧
        (ev.body.movesSnapshot = true →
          s.cache = s₀.cache.advanceSnapshot ev.pool ev.block.toNat ev.body.write ∧
            ∃ moved, r = .ok (moved, false)) ∧
        (e.Ignores s₀.cache ev → r = .ok (false, false) ∧ s = s₀)⌝⦄ := by
  have move := moveSnapshot_spec (σ := σ)
  have refresh := e.refreshSnapshot_spec
  have created := e.handlePoolCreated_spec
  unfold apply
  mvcgen [move, refresh, created]
  all_goals subst_vars; simp_all +zetaDelta [EngineState.Keeps, EventBody.movesSnapshot, Ignores]

theorem handleEvent_spec (ev : PoolEvent) (s₀ : EngineState) :
    ⦃fun s _ => ⌜s = s₀⌝⦄ e.handleEvent ev
      ⦃⇓ r s _ => ⌜s.seen = s₀.seen ∧
        (∀ f, r = .error f → s.cache = s₀.cache ∧ s.checkpoint = s₀.checkpoint) ∧
        (ev.body.movesSnapshot = true →
          s.cache = s₀.cache.advanceSnapshot ev.pool ev.block.toNat ev.body.write ∧
            ∃ moved, r = .ok (moved, false)) ∧
        (e.Ignores s₀.cache ev → s.cache = s₀.cache ∧ r = .ok (false, false)) ∧
        (s.checkpoint = s₀.checkpoint ∨
          0 < ev.block ∧ s₀.checkpoint.Saves (ev.block - 1) s.checkpoint)⌝⦄ := by
  have applied := e.apply_spec
  have advanced := e.advanceCheckpoint_spec
  obtain ⟨pool, block, txHash, logIndex, body⟩ := ev
  cases body <;>
  · unfold handleEvent observeBlock
    mvcgen [world_spec, applied, advanced, Log.debug, Log.warn, emit_stateT, record_stateT]
    all_goals clear applied advanced; subst_vars
    all_goals simp_all +zetaDelta [EngineState.Keeps, EventBody.movesSnapshot, Ignores, Discovers]

theorem handleLog_skip {m : Type → Type} [Monad m] [LawfulMonad m] [LogSink m] [Recorder m]
    (e : Engine m) (l : EventLog) (s : EngineState) (skipped : l.removed = true ∨ l.id ∈ s.seen.keys) :
    (e.handleLog l).run s = pure (.ok (false, false), s) := by
  rcases skipped with removed | known
  · simp [handleLog, removed]
  · have unchanged := Dedup.containsOrAdd_of_mem known
    cases hr : l.removed <;> simp [handleLog, hr, unchanged]

theorem handleLog_skip_spec (l : EventLog) (s₀ : EngineState)
    (skipped : l.removed = true ∨ l.id ∈ s₀.seen.keys) :
    ⦃fun s _ => ⌜s = s₀⌝⦄ e.handleLog l ⦃⇓ r s _ => ⌜r = .ok (false, false) ∧ s = s₀⌝⦄ := by
  unfold handleLog
  rcases skipped with removed | known
  · mvcgen
  · have kept := Dedup.containsOrAdd_of_mem known
    mvcgen
    all_goals subst_vars; simp_all +zetaDelta

theorem handleLog_spec (l : EventLog) (s₀ : EngineState) :
    ⦃fun s _ => ⌜s = s₀⌝⦄ e.handleLog l
      ⦃⇓ r s _ => ⌜(∀ f, r = .error f → l.removed = false ∧ l.id ∉ s₀.seen.keys ∧
          s.cache = s₀.cache ∧ s.checkpoint = s₀.checkpoint ∧
          s.seen = (s₀.seen.containsOrAdd l.id).2.remove l.id) ∧
        (∀ v, r = .ok v → (l.removed = true ∨ l.id ∈ s₀.seen.keys) ∧ s.seen = s₀.seen ∨
          l.removed = false ∧ l.id ∉ s₀.seen.keys ∧ s.seen = (s₀.seen.containsOrAdd l.id).2) ∧
        (s.checkpoint = s₀.checkpoint ∨
          0 < l.block ∧ s₀.checkpoint.Saves (l.block - 1) s.checkpoint)⌝⦄ := by
  have handled := e.handleEvent_spec
  unfold handleLog
  by_cases known : l.id ∈ s₀.seen.keys
  · have kept := Dedup.containsOrAdd_of_mem known
    mvcgen [handled]
    all_goals clear handled; subst_vars; simp_all +zetaDelta
  · have added := Dedup.containsOrAdd_of_not_mem known
    mvcgen [handled]
    all_goals clear handled; subst_vars; simp_all +zetaDelta
    all_goals
      have block := PoolEvent.block_of_decode ‹PoolEvent.decode l = .ok _›
      cases ‹Outcome (Bool × Bool)› <;> simp_all

theorem handleLog_moves_spec {l : EventLog} {ev : PoolEvent} (decoded : PoolEvent.decode l = .ok ev)
    (moves : ev.body.movesSnapshot = true) (live : l.removed = false) (s₀ : EngineState)
    (fresh : l.id ∉ s₀.seen.keys) :
    ⦃fun s _ => ⌜s = s₀⌝⦄ e.handleLog l
      ⦃⇓ r s _ => ⌜s.cache = s₀.cache.advanceSnapshot ev.pool ev.block.toNat ev.body.write ∧
        s.seen = (s₀.seen.containsOrAdd l.id).2 ∧ ∃ moved, r = .ok (moved, false)⌝⦄ := by
  have handled := e.handleEvent_spec
  have added := Dedup.containsOrAdd_of_not_mem fresh
  obtain ⟨topic0, rest, topics, known, -, -⟩ := PoolEvent.decode_eq_ok decoded
  unfold handleLog
  mvcgen [handled]
  all_goals clear handled; subst_vars; simp_all +zetaDelta
  all_goals cases ‹Outcome (Bool × Bool)› <;> simp_all

theorem handleLog_ignores_spec {l : EventLog} {ev : PoolEvent} (decoded : PoolEvent.decode l = .ok ev)
    (s₀ : EngineState) (ignored : e.Ignores s₀.cache ev) :
    ⦃fun s _ => ⌜s = s₀⌝⦄ e.handleLog l
      ⦃⇓ r s _ => ⌜s.cache = s₀.cache ∧ r = .ok (false, false)⌝⦄ := by
  have handled := e.handleEvent_spec
  unfold handleLog
  mvcgen [handled]
  all_goals clear handled; subst_vars; simp_all +zetaDelta

end Engine

end FlashArb
