import Mathlib
import FlashArb.Proofs.LogHandling
import FlashArb.Proofs.BlockBatches

/-! How far the checkpoint moves while the engine follows the chain. -/
namespace FlashArb

open Std.Do

set_option mvcgen.warning false

namespace CheckpointStore

/-- The first block the store does not cover: one past the saved block, or block 0. -/
def frontier (s : CheckpointStore) : Nat :=
  match s.saved with
  | none => 0
  | some b => b.toNat + 1

/-- `s'` is `s` moved forward, to the frontier `n` at most. -/
def Advances (s s' : CheckpointStore) (n : Nat) : Prop :=
  s.frontier ≤ s'.frontier ∧ s'.frontier ≤ max s.frontier n

variable {s s₁ s₂ : CheckpointStore} {n n' : Nat}

@[simp] theorem frontier_saved (s : CheckpointStore) (block : UInt64) :
    { s with saved := some block }.frontier = block.toNat + 1 := rfl

theorem Advances.refl (s : CheckpointStore) (n : Nat) : s.Advances s n := by
  simp [Advances]

theorem Advances.trans (first : s.Advances s₁ n) (second : s₁.Advances s₂ n') :
    s.Advances s₂ (max n n') := by
  unfold Advances at *
  omega

theorem Saves.advances {block : UInt64} (h : s.Saves block s₁) : s.Advances s₁ (block.toNat + 1) := by
  rcases h with rfl | ⟨past, rfl⟩
  · exact Advances.refl _ _
  · have below : s.frontier ≤ block.toNat := by
      unfold frontier
      split
      · omega
      · rename_i b saved
        have lt := UInt64.lt_iff_toNat_lt.1 (past b saved)
        omega
    simp only [Advances, frontier_saved]
    omega

theorem Saves.advances_pred {block : UInt64} (positive : 0 < block) (h : s.Saves (block - 1) s₁) :
    s.Advances s₁ block.toNat := by
  have pred : (block - 1).toNat + 1 = block.toNat := by
    have one : (1 : UInt64) ≤ block := UInt64.le_iff_toNat_le.2 (UInt64.lt_iff_toNat_lt.1 positive)
    rw [UInt64.toNat_sub_of_le block 1 one]
    have := UInt64.lt_iff_toNat_lt.1 positive
    simp only [UInt64.toNat_one] at *
    omega
  simpa [pred] using h.advances

end CheckpointStore

namespace EventLog

/-- The greatest block of the logs, or block 0 for none. -/
def lastBlock : List EventLog → Nat
  | [] => 0
  | l :: ls => max l.block.toNat (lastBlock ls)

theorem lastBlock_le {ls : List EventLog} {last : UInt64} (below : ∀ l ∈ ls, l.block ≤ last) :
    lastBlock ls ≤ last.toNat := by
  induction ls with
  | nil => simp [lastBlock]
  | cons l ls ih =>
    have head := UInt64.le_iff_toNat_le.1 (below l (by simp))
    have tail := ih fun l' mem => below l' (by simp [mem])
    simp only [lastBlock]
    omega

end EventLog

theorem emit_spec {σ : Type} [LogSink (StateM σ)] (entry : LogEntry) :
    ⦃fun _ => ⌜True⌝⦄ (LogSink.emit entry : StateM σ Unit) ⦃⇓ _ _ => ⌜True⌝⦄ :=
  world_spec _

namespace RetryPolicy

variable {σ α : Type} [LogSink (StateM σ)]

theorem go_spec (P : Outcome α → Prop) (op : String) (attempt : StateM σ (Outcome α))
    (tried : ⦃fun _ => ⌜True⌝⦄ attempt ⦃⇓ a _ => ⌜P a⌝⦄) (left n delay : Nat) :
    ⦃fun _ => ⌜True⌝⦄ go op attempt left n delay ⦃⇓ a _ => ⌜P a⌝⦄ := by
  induction left generalizing n delay with
  | zero => exact tried
  | succ left ih =>
    unfold go
    mvcgen [tried, ih, emit_spec, Log.warn]

theorem run_spec (p : RetryPolicy) (P : Outcome α → Prop) (op : String)
    (attempt : StateM σ (Outcome α)) (tried : ⦃fun _ => ⌜True⌝⦄ attempt ⦃⇓ a _ => ⌜P a⌝⦄) :
    ⦃fun _ => ⌜True⌝⦄ p.run op attempt ⦃⇓ a _ => ⌜P a⌝⦄ :=
  go_spec P op attempt tried _ _ _

end RetryPolicy

namespace LogSource

variable {σ : Type}

/-- The source answers a range of blocks with no log past the range's last block. -/
def StaysInRange (logs : LogSource (StateM σ)) : Prop :=
  ∀ first last addresses topics, ⦃fun _ => ⌜True⌝⦄ logs.filterLogs first last addresses topics
    ⦃⇓ a _ => ⌜∀ batch, a = .ok batch → ∀ l ∈ batch, l.block ≤ last⌝⦄

/-- The source fails to give the logs of `r`, whatever state the world is in. -/
def Refuses (logs : LogSource (StateM σ)) (r : BlockRange) (addresses : List Address)
    (topics : List Hash) : Prop :=
  ⦃fun _ => ⌜True⌝⦄ logs.filterLogs r.first r.last addresses topics ⦃⇓ a _ => ⌜∃ f, a = .error f⌝⦄

variable [LogSink (StateM σ)] {logs : LogSource (StateM σ)}

theorem StaysInRange.retry (inRange : logs.StaysInRange) (p : RetryPolicy) (op : String)
    (first last : UInt64) (addresses : List Address) (topics : List Hash) :
    ⦃fun _ => ⌜True⌝⦄ p.run op (logs.filterLogs first last addresses topics)
      ⦃⇓ a _ => ⌜∀ batch, a = .ok batch → EventLog.lastBlock batch ≤ last.toNat⌝⦄ := by
  apply RetryPolicy.run_spec
  have answered := inRange first last addresses topics
  mvcgen [answered]
  rename_i a _
  intro within batch read
  exact EventLog.lastBlock_le (within batch read)

theorem Refuses.retry {r : BlockRange} {addresses : List Address} {topics : List Hash}
    (refused : logs.Refuses r addresses topics) (p : RetryPolicy) (op : String) :
    ⦃fun _ => ⌜True⌝⦄ p.run op (logs.filterLogs r.first r.last addresses topics)
      ⦃⇓ a _ => ⌜∃ f, a = .error f⌝⦄ :=
  RetryPolicy.run_spec p _ op _ refused

end LogSource

namespace Engine

variable {σ : Type} (e : Engine (StateM σ))

theorem advanceCheckpoint_advances (block : UInt64) (s₀ : EngineState) :
    ⦃fun s _ => ⌜s = s₀⌝⦄ e.advanceCheckpoint block
      ⦃⇓ _ s _ => ⌜s₀.checkpoint.Advances s.checkpoint (block.toNat + 1)⌝⦄ := by
  have advanced := e.advanceCheckpoint_spec block s₀
  mvcgen [advanced]
  rename_i s _
  intro _ _ _ saved
  exact saved.advances

variable [LogSink (StateM σ)] [Recorder (StateM σ)]

theorem handleLog_advances (l : EventLog) (s₀ : EngineState) :
    ⦃fun s _ => ⌜s = s₀⌝⦄ e.handleLog l
      ⦃⇓ _ s _ => ⌜s₀.checkpoint.Advances s.checkpoint l.block.toNat⌝⦄ := by
  have handled := e.handleLog_spec l s₀
  mvcgen [handled]
  rename_i s _
  intro _ _ moved
  rcases moved with same | ⟨positive, saved⟩
  · rw [same]
    exact .refl _ _
  · exact saved.advances_pred positive

theorem handleBatch_advances (ls : List EventLog) (s₀ : EngineState) :
    ⦃fun s _ => ⌜s = s₀⌝⦄ e.handleBatch ls
      ⦃⇓ _ s _ => ⌜s₀.checkpoint.Advances s.checkpoint (EventLog.lastBlock ls)⌝⦄ := by
  induction ls generalizing s₀ with
  | nil =>
    unfold handleBatch
    mvcgen
    simp_all [CheckpointStore.Advances.refl]
  | cons l rest ih =>
    have step := e.handleLog_advances l
    unfold handleBatch
    mvcgen [step, ih, emit_spec, Log.warn, emit_stateT]
    all_goals
      intro later
      subst_vars
      exact (‹CheckpointStore.Advances _ _ _›.trans later)

theorem scanBatches_forward (logs : LogSource (StateM σ)) (addresses : List Address)
    (topics : List Hash) (advance : Bool) (ranges : List BlockRange) (n : Nat) :
    ⦃fun s _ => ⌜n ≤ s.checkpoint.frontier⌝⦄ e.scanBatches logs addresses topics advance ranges
      ⦃⇓ _ s _ => ⌜n ≤ s.checkpoint.frontier⌝⦄ := by
  induction ranges with
  | nil =>
    unfold scanBatches
    mvcgen
  | cons r rest ih =>
    have read := fun (attempt : StateM σ (Outcome (List EventLog))) =>
      world_spec (e.config.retry.run "filter logs" attempt)
    have handled := e.handleBatch_advances
    have advanced := e.advanceCheckpoint_advances
    unfold scanBatches
    mvcgen [read, handled, advanced, ih, emit_spec, Log.info, Log.warn, emit_stateT]
    all_goals
      simp only [CheckpointStore.Advances] at *
      omega

theorem scanBatches_stops {logs : LogSource (StateM σ)} (inRange : logs.StaysInRange)
    {addresses : List Address} {topics : List Hash} {r : BlockRange}
    (refused : logs.Refuses r addresses topics) (advance : Bool) (pre post : List BlockRange)
    (before : ∀ r' ∈ pre, r'.last.toNat < r.first.toNat) :
    ⦃fun s _ => ⌜s.checkpoint.frontier ≤ r.first.toNat⌝⦄
      e.scanBatches logs addresses topics advance (pre ++ r :: post)
      ⦃⇓ res s _ => ⌜(∃ f, res = .error f) ∧ s.checkpoint.frontier ≤ r.first.toNat⌝⦄ := by
  induction pre with
  | nil =>
    have failed := refused.retry e.config.retry "filter logs"
    rw [List.nil_append]
    unfold scanBatches
    mvcgen [failed]
    all_goals clear failed; simp_all
  | cons r' pre ih =>
    have read := inRange.retry e.config.retry "filter logs" r'.first r'.last addresses topics
    have handled := e.handleBatch_advances
    have advanced := e.advanceCheckpoint_advances
    have rest := ih fun r'' mem => before r'' (List.mem_cons_of_mem _ mem)
    have ends := before r' List.mem_cons_self
    rw [List.cons_append]
    unfold scanBatches
    mvcgen [read, handled, advanced, rest, emit_spec, Log.info, Log.warn, emit_stateT]
    all_goals
      clear read handled advanced rest
      simp_all [CheckpointStore.Advances]
    all_goals omega

theorem scan_forward (logs : LogSource (StateM σ)) (first last : UInt64) (addresses : List Address)
    (topics : List Hash) (advance : Bool) (n : Nat) :
    ⦃fun s _ => ⌜n ≤ s.checkpoint.frontier⌝⦄ e.scan logs first last addresses topics advance
      ⦃⇓ _ s _ => ⌜n ≤ s.checkpoint.frontier⌝⦄ := by
  have scanned := e.scanBatches_forward logs addresses topics advance
  unfold scan
  mvcgen [scanned]

theorem scan_stops {logs : LogSource (StateM σ)} (inRange : logs.StaysInRange) {first last : UInt64}
    {addresses : List Address} (named : addresses ≠ []) {topics : List Hash} (advance : Bool)
    {ranges : List BlockRange} (split : splitRange first last e.config.batchSize = .ok ranges)
    {r : BlockRange} (mem : r ∈ ranges) (refused : logs.Refuses r addresses topics) :
    ⦃fun s _ => ⌜s.checkpoint.frontier ≤ first.toNat⌝⦄ e.scan logs first last addresses topics advance
      ⦃⇓ res s _ => ⌜(∃ f, res = .error f) ∧ s.checkpoint.frontier ≤ r.first.toNat⌝⦄ := by
  obtain ⟨-, starts, ordered⟩ := splitRange_ordered split
  obtain ⟨pre, post, rfl⟩ := List.append_of_mem mem
  have before : ∀ r' ∈ pre, r'.last.toNat < r.first.toNat :=
    fun r' mem' => (List.pairwise_append.1 ordered).2.2 r' mem' r List.mem_cons_self
  have stopped := e.scanBatches_stops inRange refused advance pre post before
  have later := starts r mem
  have listed : addresses.isEmpty = false := List.isEmpty_eq_false_iff.2 named
  unfold scan
  rw [listed, split]
  mvcgen [stopped]
  omega

theorem backfill_forward (logs : LogSource (StateM σ)) (poolFrom factoryFrom head : UInt64)
    (n : Nat) :
    ⦃fun s _ => ⌜n ≤ s.checkpoint.frontier⌝⦄ e.backfill logs poolFrom factoryFrom head
      ⦃⇓ _ s _ => ⌜n ≤ s.checkpoint.frontier⌝⦄ := by
  have scanned := e.scan_forward logs
  unfold backfill
  mvcgen [scanned]
  all_goals omega

theorem backfill_stops {logs : LogSource (StateM σ)} (inRange : logs.StaysInRange)
    (factories : e.config.factories ≠ []) (poolFrom : UInt64) {factoryFrom head : UInt64}
    {ranges : List BlockRange} (split : splitRange factoryFrom head e.config.batchSize = .ok ranges)
    {r : BlockRange} (mem : r ∈ ranges) (refused : logs.Refuses r e.config.factories Topic.factory) :
    ⦃fun s _ => ⌜s.checkpoint.frontier ≤ factoryFrom.toNat⌝⦄ e.backfill logs poolFrom factoryFrom head
      ⦃⇓ res s _ => ⌜(∃ f, res = .error f) ∧ s.checkpoint.frontier ≤ r.first.toNat⌝⦄ := by
  have stopped := e.scan_stops inRange factories true split mem refused
  have scanning : (!e.config.factories.isEmpty && factoryFrom ≤ head) = true := by
    simpa [List.isEmpty_eq_false_iff.2 factories] using (splitRange_ordered split).1
  unfold backfill
  rw [scanning]
  mvcgen [stopped]
  all_goals clear stopped; simp_all

omit [Recorder (StateM σ)] in
theorem subscribe_keeps (logs : LogSource (StateM σ)) (s₀ : EngineState) :
    ⦃fun s _ => ⌜s = s₀⌝⦄ e.subscribe logs ⦃⇓ _ s _ => ⌜s = s₀⌝⦄ := by
  have asked := fun (attempt : StateM σ (Outcome Subscription)) =>
    world_spec (e.config.retry.run "subscribe logs" attempt)
  unfold subscribe
  mvcgen [asked, emit_spec, Log.info, emit_stateT]

theorem consume_forward (ending : Failure) (ls : List EventLog) (n : Nat) :
    ⦃fun s _ => ⌜n ≤ s.checkpoint.frontier⌝⦄ e.consume ending ls
      ⦃⇓ _ s _ => ⌜n ≤ s.checkpoint.frontier⌝⦄ := by
  induction ls with
  | nil =>
    unfold consume
    mvcgen [emit_spec, Log.warn, emit_stateT]
  | cons l rest ih =>
    have handled := e.handleLog_advances l
    unfold consume
    mvcgen [handled, ih, emit_spec, Log.info, Log.warn, emit_stateT]
    all_goals
      simp only [CheckpointStore.Advances] at *
      omega

theorem follow_forward (logs : LogSource (StateM σ)) (rounds : Nat) (poolFrom factoryFrom : UInt64)
    (n : Nat) :
    ⦃fun s _ => ⌜n ≤ s.checkpoint.frontier⌝⦄ e.follow logs rounds poolFrom factoryFrom
      ⦃⇓ _ s _ => ⌜n ≤ s.checkpoint.frontier⌝⦄ := by
  induction rounds generalizing poolFrom factoryFrom with
  | zero =>
    unfold follow
    mvcgen
  | succ rounds ih =>
    have subscribed := e.subscribe_keeps logs
    have headed := fun (attempt : StateM σ (Outcome UInt64)) =>
      world_spec (e.config.retry.run "latest block" attempt)
    have filled := e.backfill_forward logs
    have consumed := e.consume_forward
    unfold follow
    mvcgen [subscribed, headed, filled, consumed, ih, emit_spec, Log.warn, emit_stateT]
    all_goals subst_vars; omega

/-- What following the chain does to the checkpoint. -/
structure GuardsCheckpoint (logs : LogSource (StateM σ)) : Prop where
  /-- Once loaded, the checkpoint never moves back while the engine follows the chain. -/
  forward : ∀ rounds poolFrom factoryFrom n, ⦃fun s _ => ⌜n ≤ s.checkpoint.frontier⌝⦄
    e.follow logs rounds poolFrom factoryFrom ⦃⇓ _ s _ => ⌜n ≤ s.checkpoint.frontier⌝⦄
  /-- A backfill from at or above the checkpoint's frontier, over a source that stays in range,
  fails at a factory batch the source refuses and leaves the checkpoint below that batch. -/
  stops : logs.StaysInRange → e.config.factories ≠ [] →
    ∀ poolFrom factoryFrom head ranges r, splitRange factoryFrom head e.config.batchSize = .ok ranges →
      r ∈ ranges → logs.Refuses r e.config.factories Topic.factory →
      ⦃fun s _ => ⌜s.checkpoint.frontier ≤ factoryFrom.toNat⌝⦄ e.backfill logs poolFrom factoryFrom head
        ⦃⇓ res s _ => ⌜(∃ f, res = .error f) ∧ s.checkpoint.frontier ≤ r.first.toNat⌝⦄

/-- The checkpoint only moves forward, and a backfill does not move it past a factory batch it
could not read; logs handled after the backfill still can. -/
theorem guards_checkpoint (logs : LogSource (StateM σ)) : e.GuardsCheckpoint logs where
  forward := e.follow_forward logs
  stops inRange factories poolFrom _ _ _ _ split mem refused :=
    e.backfill_stops inRange factories poolFrom split mem refused

end Engine

/-- A source over a world with nothing in it: the head is block 100, a range from block 85 is
refused, and every other range holds no log. -/
def refusingSource : LogSource (StateM Unit) where
  latestBlock := pure (.ok 100)
  filterLogs := fun first _ _ _ =>
    pure (if first = 85 then .error (Failure.plain "range too large") else .ok [])
  subscribe := fun _ _ => pure (.error (Failure.plain "no more subscriptions"))

/-- The quiet engine following one factory in batches of ten blocks. -/
def factoryEngine : Engine (StateM Unit) :=
  { quietEngine with
    config :=
    { loanToken := Address.zero, quoteToken := Address.zero, loanDecimals := 18,
      factories := [Address.ofNat 1], batchSize := 10 } }

/-- Backfilling blocks 75 to 100 from a checkpoint below block 75, the batch from block 85 is
refused and the checkpoint stays below it. -/
theorem refused_batch_holds_checkpoint :
    refusingSource.StaysInRange ∧ factoryEngine.config.factories ≠ [] ∧
      splitRange 75 100 factoryEngine.config.batchSize = .ok [⟨75, 84⟩, ⟨85, 94⟩, ⟨95, 100⟩] ∧
      (⟨85, 94⟩ : BlockRange) ∈ [⟨75, 84⟩, ⟨85, 94⟩, ⟨95, 100⟩] ∧
      refusingSource.Refuses ⟨85, 94⟩ factoryEngine.config.factories Topic.factory ∧
      ⦃fun s _ => ⌜s.checkpoint.frontier ≤ (75 : UInt64).toNat⌝⦄
        factoryEngine.backfill refusingSource 101 75 100
        ⦃⇓ res s _ => ⌜(∃ f, res = .error f) ∧ s.checkpoint.frontier ≤ (85 : UInt64).toNat⌝⦄ := by
  have inRange : refusingSource.StaysInRange := by
    intro first last addresses topics
    mvcgen [refusingSource]
    split <;> simp
  have refused : refusingSource.Refuses ⟨85, 94⟩ factoryEngine.config.factories Topic.factory := by
    unfold LogSource.Refuses
    mvcgen [refusingSource]
    simp
  have split : splitRange 75 100 factoryEngine.config.batchSize =
      .ok [⟨75, 84⟩, ⟨85, 94⟩, ⟨95, 100⟩] := rfl
  have factories : factoryEngine.config.factories ≠ [] := by simp [factoryEngine]
  have mem : (⟨85, 94⟩ : BlockRange) ∈ [⟨75, 84⟩, ⟨85, 94⟩, ⟨95, 100⟩] := by simp
  exact ⟨inRange, factories, split, mem, refused,
    (Engine.guards_checkpoint factoryEngine refusingSource).stops inRange factories 101 75 100
      [⟨75, 84⟩, ⟨85, 94⟩, ⟨95, 100⟩] ⟨85, 94⟩ split mem refused⟩

end FlashArb
