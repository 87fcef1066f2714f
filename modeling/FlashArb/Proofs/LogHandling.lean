import Mathlib
import FlashArb.Proofs.EngineSteps

/-! Each log is handled at most once while it is remembered. -/
namespace FlashArb

open Std.Do

set_option mvcgen.warning false

namespace Dedup

variable {d : Dedup} {k k' : String} {n : Nat}

theorem mem_take_remove (h : k ∈ d.keys.take n) (other : k ≠ k') : k ∈ (d.remove k').keys.take n := by
  have split := List.take_append_drop n d.keys
  have short : (d.keys.take n).length ≤ n := List.length_take_le _ _
  unfold remove
  dsimp only
  by_cases early : k' ∈ d.keys.take n
  · rw [← split, List.erase_append_left _ early, List.take_append,
      List.take_of_length_le (le_trans List.length_erase_le short)]
    exact List.mem_append_left _ ((List.mem_erase_of_ne other).2 h)
  · rw [← split, List.erase_append_right _ early, List.take_append,
      List.take_of_length_le short]
    exact List.mem_append_left _ h

theorem mem_take_containsOrAdd (h : k ∈ d.keys.take n) (room : n < d.capacity) :
    k ∈ (d.containsOrAdd k').2.keys.take (n + 1) := by
  by_cases known : k' ∈ d.keys
  · rw [containsOrAdd_of_mem known]
    exact List.take_subset_take_left _ (Nat.le_succ n) h
  · rw [containsOrAdd_of_not_mem known]
    simp only [List.take_take, Nat.min_eq_left room, List.take_succ_cons, List.mem_cons]
    exact Or.inr h

theorem mem_take_one_containsOrAdd (fresh : k ∉ d.keys) (roomy : 0 < d.capacity) :
    k ∈ (d.containsOrAdd k).2.keys.take 1 := by
  rw [containsOrAdd_of_not_mem fresh]
  simp [List.take_take, Nat.min_eq_left roomy]

theorem not_mem_remove_containsOrAdd (fresh : k ∉ d.keys) :
    k ∉ ((d.containsOrAdd k).2.remove k).keys := by
  rw [containsOrAdd_of_not_mem fresh]
  unfold remove
  cases d.capacity with
  | zero => simp
  | succ c =>
    simp only [List.take_succ_cons, List.erase_cons_head]
    exact fun mem => fresh (List.mem_of_mem_take mem)

/-- What handling a log of id `k` can leave of the remembered ids `d`: nothing changed, `k`
remembered, or, after a failure, `k` remembered and forgotten again. -/
def Handled (d : Dedup) (k : String) (d' : Dedup) : Prop :=
  d' = d ∨ d' = (d.containsOrAdd k).2 ∨ k ∉ d.keys ∧ d' = (d.containsOrAdd k).2.remove k

theorem mem_containsOrAdd {k'' : String} (mem : k'' ∈ (d.containsOrAdd k).2.keys) :
    k'' ∈ d.keys ∨ k'' = k := by
  unfold containsOrAdd at mem
  split at mem
  · exact .inl mem
  · rcases List.mem_cons.1 (List.mem_of_mem_take mem) with same | old
    · exact .inr same
    · exact .inl old

theorem Handled.mem {d' : Dedup} {k'' : String} (h : d.Handled k d') (mem : k'' ∈ d'.keys) :
    k'' ∈ d.keys ∨ k'' = k := by
  rcases h with rfl | rfl | ⟨_, rfl⟩
  · exact .inl mem
  · exact mem_containsOrAdd mem
  · exact mem_containsOrAdd (List.mem_of_mem_erase mem)

/-- `d'` holds every id among the first `n` of `d` among its first `n + j`, as long as these fit
in the capacity, which is the same: `d` aged by `j` places at most. -/
def Ages (d d' : Dedup) (j : Nat) : Prop :=
  d'.capacity = d.capacity ∧ ∀ k n, k ∈ d.keys.take n → n + j ≤ d.capacity → k ∈ d'.keys.take (n + j)

theorem Ages.refl (d : Dedup) : d.Ages d 0 :=
  ⟨rfl, fun _ _ h _ => h⟩

theorem Ages.trans {d₁ d₂ : Dedup} {i j : Nat} (first : d.Ages d₁ i) (second : d₁.Ages d₂ j) :
    d.Ages d₂ (i + j) := by
  refine ⟨second.1.trans first.1, fun k n recent room => ?_⟩
  have older := first.2 k n recent (by omega)
  have oldest := second.2 k (n + i) older (by rw [first.1]; omega)
  rwa [Nat.add_assoc] at oldest

theorem Handled.ages {d' : Dedup} (h : d.Handled k d') : d.Ages d' 1 := by
  rcases h with rfl | rfl | ⟨fresh, rfl⟩
  · exact ⟨rfl, fun _ _ recent _ => List.take_subset_take_left _ (Nat.le_succ _) recent⟩
  · exact ⟨capacity_containsOrAdd d k, fun _ _ recent room => mem_take_containsOrAdd recent room⟩
  · refine ⟨by simp, fun k' _ recent room => mem_take_remove (mem_take_containsOrAdd recent room) ?_⟩
    rintro rfl
    exact fresh (List.mem_of_mem_take recent)

end Dedup

namespace Engine

theorem create_capacity_pos {m : Type → Type} {config : EngineConfig} {parts : EngineParts m}
    {e : Engine m} {s : EngineState} (created : create config parts = .ok (e, s)) :
    0 < s.seen.capacity := by
  unfold create at created
  simp only [bind, Except.bind, pure, Except.pure] at created
  repeat' split at created
  all_goals cases created
  all_goals dsimp only
  all_goals omega

variable {σ : Type} [LogSink (StateM σ)] [Recorder (StateM σ)] (e : Engine (StateM σ))

theorem handleLog_seen_spec (l : EventLog) (s₀ : EngineState) :
    ⦃fun s _ => ⌜s = s₀⌝⦄ e.handleLog l ⦃⇓ _ s _ => ⌜s₀.seen.Handled l.id s.seen⌝⦄ := by
  have handled := e.handleLog_spec l s₀
  mvcgen [handled]
  rename_i r s _
  intro failed succeeded _
  cases r with
  | error f =>
    obtain ⟨-, fresh, -, -, seen⟩ := failed f rfl
    exact .inr (.inr ⟨fresh, seen⟩)
  | ok v =>
    rcases succeeded v rfl with ⟨-, seen⟩ | ⟨-, -, seen⟩
    · exact .inl seen
    · exact .inr (.inl seen)

theorem handleBatch_ages (ls : List EventLog) (s₀ : EngineState) :
    ⦃fun s _ => ⌜s = s₀⌝⦄ e.handleBatch ls ⦃⇓ _ s _ => ⌜s₀.seen.Ages s.seen ls.length⌝⦄ := by
  induction ls generalizing s₀ with
  | nil =>
    unfold handleBatch
    mvcgen
    simp_all [Dedup.Ages.refl]
  | cons l rest ih =>
    have step := e.handleLog_seen_spec l
    unfold handleBatch
    mvcgen [step, ih, world_spec, Log.warn, emit_stateT]
    all_goals
      intro aged
      subst_vars
      simpa [Nat.add_comm] using (Dedup.Handled.ages ‹_›).trans aged

/-- What handling the log `l` from the state `s₀` guarantees. -/
structure HandlesOnce (l : EventLog) (s₀ : EngineState) : Prop where
  /-- A failure leaves the cache and the checkpoint store as they were and forgets the log, so
  that a redelivery is handled again. -/
  atomic : ⦃fun s _ => ⌜s = s₀⌝⦄ e.handleLog l
    ⦃⇓ r s _ => ⌜∀ f, r = .error f →
      s.cache = s₀.cache ∧ s.checkpoint = s₀.checkpoint ∧ l.id ∉ s.seen.keys⌝⦄
  /-- A success on a live log leaves it remembered, as the newest id if it was not before. -/
  remembers : ⦃fun s _ => ⌜s = s₀⌝⦄ e.handleLog l
    ⦃⇓ r s _ => ⌜∀ v, r = .ok v → l.removed = false →
      l.id ∈ s.seen.keys ∧ (l.id ∉ s₀.seen.keys → l.id ∈ s.seen.keys.take 1)⌝⦄
  /-- The newest id stays remembered while fewer logs than the capacity are handled after it. -/
  stays : ∀ (ls : List EventLog) (s₁ : EngineState), l.id ∈ s₁.seen.keys.take 1 →
    ls.length < s₁.seen.capacity →
    ⦃fun s _ => ⌜s = s₁⌝⦄ e.handleBatch ls ⦃⇓ _ s _ => ⌜l.id ∈ s.seen.keys⌝⦄
  /-- A redelivery while the log is remembered, and a removed log at any time, is passed over:
  nothing happens, in the engine or in its world. -/
  passes : ∀ s, l.removed = true ∨ l.id ∈ s.seen.keys →
    (e.handleLog l).run s = pure (.ok (false, false), s)
  /-- A pool creation is loaded only from a followed factory, for the target pair, and of a
  pool not cached yet. -/
  discovers : ∀ ev factory kind token0 token1 fee stable, PoolEvent.decode l = .ok ev →
    ev.body = .poolCreated factory kind token0 token1 fee stable →
    ¬ (factory ∈ e.config.factories ∧
      (token0 = e.config.loanToken ∧ token1 = e.config.quoteToken ∨
        token0 = e.config.quoteToken ∧ token1 = e.config.loanToken) ∧
      s₀.cache.has ev.pool = false) →
    ⦃fun s _ => ⌜s = s₀⌝⦄ e.handleLog l ⦃⇓ _ s _ => ⌜s.cache = s₀.cache⌝⦄

/-- Handling a log is atomic and handles each log once while it is remembered. -/
theorem handleLog_handles_once (l : EventLog) (s₀ : EngineState) (roomy : 0 < s₀.seen.capacity) :
    e.HandlesOnce l s₀ where
  atomic := by
    have handled := e.handleLog_spec l s₀
    mvcgen [handled]
    rename_i r s _
    intro failed _ _ f rfl
    obtain ⟨-, fresh, cache, checkpoint, seen⟩ := failed f rfl
    exact ⟨cache, checkpoint, seen ▸ Dedup.not_mem_remove_containsOrAdd fresh⟩
  remembers := by
    have handled := e.handleLog_spec l s₀
    mvcgen [handled]
    rename_i r s _
    intro _ succeeded _ v rfl live
    rcases succeeded v rfl with ⟨skipped, seen⟩ | ⟨-, fresh, seen⟩
    · have known : l.id ∈ s₀.seen.keys := by simpa [live] using skipped
      exact ⟨seen ▸ known, fun fresh => absurd known fresh⟩
    · have newest := seen ▸ Dedup.mem_take_one_containsOrAdd fresh roomy
      exact ⟨List.mem_of_mem_take newest, fun _ => newest⟩
  stays ls s₁ newest short := by
    have aged := e.handleBatch_ages ls s₁
    mvcgen [aged]
    rename_i s _
    intro ages
    exact List.mem_of_mem_take (ages.2 l.id 1 newest (by omega))
  passes s skipped := handleLog_skip e l s skipped
  discovers ev factory kind token0 token1 fee stable decoded created followed := by
    have ignored : e.Ignores s₀.cache ev := by
      simpa [Ignores, created, Discovers, PoolState.hasPair] using followed
    have handled := e.handleLog_ignores_spec decoded s₀ ignored
    mvcgen [handled]
    simp_all

end Engine

/-- An engine over a world with nothing in it: the chain answers every call with no data, the
disk holds no file, and the clock stands still. -/
def quietEngine : Engine (StateM Unit) where
  config := default
  fetcher :=
    { reader := { call := fun _ _ => pure (.ok []), latestBlock := pure (.ok 0) }
      loanToken := Address.zero
      quoteToken := Address.zero }
  finder := fun _ => pure []
  loans := fun _ _ _ => pure (.error (Failure.plain "no loan"))
  fees := fun _ => pure (.ok default)
  builder := { vault := Address.zero, executor := Address.zero }
  sink :=
    { putOpportunity := fun _ => pure (.ok ())
      putSubmission := fun _ => pure (.ok ())
      close := pure (.ok ()) }
  submitter := none
  logs := none
  disk :=
    { stat := fun _ => pure (.error .noEntry)
      readFile := fun _ => pure (.error (Failure.plain "no file"))
      mkdirAll := fun _ => pure (.ok ())
      writeFile := fun _ _ => pure (.ok ())
      appendFile := fun _ _ => pure (.ok ())
      rename := fun _ _ => pure (.ok ()) }
  clock := pure 0
  salt := pure 0

/-- A new quiet engine, remembering up to the default number of ids, handles a log with no
topics once. -/
theorem quiet_engine_handles_once :
    let s₀ : EngineState :=
      { cache := {}, seen := { capacity := 4096 }, checkpoint := { path := [], enabled := false } }
    0 < s₀.seen.capacity ∧ quietEngine.HandlesOnce {} s₀ :=
  ⟨by decide, Engine.handleLog_handles_once quietEngine {} _ (by decide)⟩

end FlashArb
