import Mathlib
import FlashArb.Proofs.EngineSteps
import FlashArb.Proofs.StateTriples
import FlashArb.Proofs.StripedCache
import FlashArb.Proofs.PoolFetch
import FlashArb.Proofs.ScanSafety

/-! Loading the configured pools, whatever order the fetches end in. -/
namespace FlashArb

open Std.Do

set_option mvcgen.warning false

namespace RetryPolicy

variable {α : Type}

/-- The calls a retry with `left` retries to spare makes, up to its first success, when call `t`
answers `answer t`. -/
def callsMade (answer : Nat → Outcome α) (t : Nat) : Nat → Nat
  | 0 => 1
  | left + 1 =>
    match answer t with
    | .ok _ => 1
    | .error _ => callsMade answer (t + 1) left + 1

theorem one_le_callsMade (answer : Nat → Outcome α) (t left : Nat) :
    1 ≤ callsMade answer t left := by
  cases left with
  | zero => rfl
  | succ left =>
    unfold callsMade
    split <;> omega

theorem callsMade_le (answer : Nat → Outcome α) (t left : Nat) :
    callsMade answer t left ≤ left + 1 := by
  induction left generalizing t with
  | zero => rfl
  | succ left ih =>
    unfold callsMade
    split
    · omega
    · have := ih (t + 1)
      omega

theorem callsMade_of_ok {answer : Nat → Outcome α} {t : Nat} {a : α} (answered : answer t = .ok a)
    (left : Nat) : callsMade answer t (left + 1) = 1 := by
  simp [callsMade, answered]

theorem callsMade_of_error {answer : Nat → Outcome α} {t : Nat} {f : Failure}
    (failed : answer t = .error f) (left : Nat) :
    callsMade answer t (left + 1) = callsMade answer (t + 1) left + 1 := by
  simp [callsMade, failed]

theorem callsMade_fails (answer : Nat → Outcome α) (t left i : Nat)
    (before : i + 1 < callsMade answer t left) : ∃ f, answer (t + i) = .error f := by
  induction left generalizing t i with
  | zero => simp [callsMade] at before
  | succ left ih =>
    unfold callsMade at before
    split at before
    · omega
    · rename_i f failed
      cases i with
      | zero => exact ⟨f, failed⟩
      | succ i =>
        obtain ⟨g, later⟩ := ih (t + 1) i (by omega)
        exact ⟨g, by rw [← later]; congr 1; omega⟩

theorem callsMade_last (answer : Nat → Outcome α) (t left : Nat) :
    callsMade answer t left = left + 1 ∨ ∃ a, answer (t + callsMade answer t left - 1) = .ok a := by
  induction left generalizing t with
  | zero => exact .inl rfl
  | succ left ih =>
    unfold callsMade
    split
    · rename_i a answered
      exact .inr ⟨a, by simpa using answered⟩
    · rcases ih (t + 1) with spent | ⟨a, answered⟩
      · exact .inl (by omega)
      · refine .inr ⟨a, ?_⟩
        have := one_le_callsMade answer (t + 1) left
        rw [← answered]
        congr 1
        omega

end RetryPolicy

variable {σ : Type} [LogSink (StateM σ)] [Recorder (StateM σ)] {tries : σ → Address → Nat}

theorem RetryPolicy.go_calls_spec (quiet : Quiet tries) {α : Type} {attempt : StateM σ (Outcome α)}
    (pool : Address) (answer : Nat → Outcome α)
    (attempted : ∀ T, ⦃fun q => ⌜tries q = T⌝⦄ attempt
      ⦃⇓ r q => ⌜r = answer (T pool) ∧ tries q = Function.update T pool (T pool + 1)⌝⦄)
    (op : String) (left n delay : Nat) (T : Address → Nat) :
    ⦃fun q => ⌜tries q = T⌝⦄ RetryPolicy.go op attempt left n delay
      ⦃⇓ r q => ⌜r = answer (T pool + callsMade answer (T pool) left - 1) ∧
        tries q = Function.update T pool (T pool + callsMade answer (T pool) left)⌝⦄ := by
  induction left generalizing n delay T with
  | zero => simpa [RetryPolicy.go, callsMade] using attempted T
  | succ left ih =>
    have emit := quiet.emit_spec
    unfold RetryPolicy.go
    mvcgen [attempted, emit, ih, Log.warn]
    · rename_i q₀ start _ a _ q₁ first
      obtain ⟨answered, counted⟩ := first
      subst start
      rw [callsMade_of_ok answered.symm]
      exact ⟨by simpa using answered, by simpa using counted⟩
    · rename_i q₀ start _ f _ q₁ first _ q₂ logged _ q₃
      intro later counted
      obtain ⟨failed, bumped⟩ := first
      subst start
      have one : tries q₂ pool = tries q₀ pool + 1 := by simp [logged, bumped]
      rw [callsMade_of_error failed.symm, later, one]
      refine ⟨by congr 1; omega, ?_⟩
      rw [counted, one, logged, bumped, Function.update_idem, Nat.add_assoc, Nat.add_comm 1]

/-- What a load makes of one fetch: a success, or a failure that is final, ends the retries,
and a passing failure is retried. -/
def Engine.loadAnswer : Outcome (PoolState × PoolSnapshot) →
    Outcome (Option (PoolState × PoolSnapshot) × Option Failure)
  | .ok r => .ok (some r, none)
  | .error f => if Engine.isPermanent f then .ok (none, some f) else .error f

/-- A world answering the fetch of a configured pool from `script`, counting fetches in `tries`. -/
structure Engine.FetchScripted (e : Engine (StateM σ))
    (script : Address → Nat → Outcome (PoolState × PoolSnapshot)) (tries : σ → Address → Nat) : Prop
    extends Quiet tries where
  fetches : ∀ pool kind, (pool, kind) ∈ e.config.pools → ∀ q,
    ((e.fetcher.fetchPool pool kind).run q).run.1 = script pool (tries q pool) ∧
      tries ((e.fetcher.fetchPool pool kind).run q).run.2 =
        Function.update (tries q) pool (tries q pool + 1)
  heads : ∀ logs, e.logs = some logs → ∀ q, tries (logs.latestBlock.run q).run.2 = tries q

/-- What the cache holds for an address: its state and its snapshot. -/
def PoolCache.entry (c : PoolCache) (a : Address) : Option PoolState × Option PoolSnapshot :=
  (c.getState? a, c.getSnapshot? a)

@[simp] theorem PoolCache.entry_upsert (c : PoolCache) (state : PoolState) (snap : PoolSnapshot)
    (a : Address) :
    (c.upsert state snap).entry a = if a = state.address then (some state, some snap) else c.entry a := by
  by_cases same : a = state.address <;> simp [PoolCache.entry, same]

namespace Engine

variable {e : Engine (StateM σ)} {script : Address → Nat → Outcome (PoolState × PoolSnapshot)}

theorem FetchScripted.fetch_spec (world : e.FetchScripted script tries) {pool : Address}
    {kind : DexKind} (configured : (pool, kind) ∈ e.config.pools) (T : Address → Nat) :
    ⦃fun q => ⌜tries q = T⌝⦄ e.fetcher.fetchPool pool kind
      ⦃⇓ r q => ⌜r = script pool (T pool) ∧ tries q = Function.update T pool (T pool + 1)⌝⦄ :=
  triple_of_run fun q start => by
    subst start
    exact world.fetches pool kind configured q

theorem FetchScripted.head_spec (world : e.FetchScripted script tries) {logs : LogSource (StateM σ)}
    (known : e.logs = some logs) (q₀ : σ) :
    ⦃fun q => ⌜q = q₀⌝⦄ logs.latestBlock
      ⦃⇓ r q => ⌜r = (logs.latestBlock.run q₀).run.1 ∧ tries q = tries q₀⌝⦄ :=
  triple_of_run fun q start => by
    subst start
    exact ⟨rfl, world.heads logs known q⟩

/-- How many times a load fetches `pool` under `retries` retries when its first fetch is the
pool's `t`-th. -/
def fetchesOf (script : Address → Nat → Outcome (PoolState × PoolSnapshot)) (retries : Nat)
    (pool : Address) (t : Nat) : Nat :=
  RetryPolicy.callsMade (fun i => loadAnswer (script pool i)) t retries

/-- What the last of those fetches answered. -/
def lastFetch (script : Address → Nat → Outcome (PoolState × PoolSnapshot)) (retries : Nat)
    (pool : Address) (t : Nat) : Outcome (PoolState × PoolSnapshot) :=
  script pool (t + fetchesOf script retries pool t - 1)

/-- What a load returns, and the engine state it leaves from `s`, when its last fetch answered
`last`: a success is cached, a failure changes nothing. -/
def loadResult (s : EngineState) : Outcome (PoolState × PoolSnapshot) → Outcome Unit × EngineState
  | .ok (state, snap) => (.ok (), { s with cache := s.cache.upsert state snap })
  | .error f => (.error f, s)

section Answers

variable {x : Outcome (PoolState × PoolSnapshot)}

theorem eq_error_of_loadAnswer {f : Failure} (h : loadAnswer x = .error f) : x = .error f := by
  unfold loadAnswer at h
  split at h
  · cases h
  · split at h
    · cases h
    · cases h
      rfl

theorem eq_error_of_loadAnswer_final {a : Option (PoolState × PoolSnapshot)} {f : Failure}
    (h : loadAnswer x = .ok (a, some f)) : x = .error f := by
  unfold loadAnswer at h
  split at h
  · cases h
  · split at h
    · cases h
      rfl
    · cases h

theorem eq_ok_of_loadAnswer {r : PoolState × PoolSnapshot} (h : loadAnswer x = .ok (some r, none)) :
    x = .ok r := by
  unfold loadAnswer at h
  split at h
  · cases h
    rfl
  · split at h <;> cases h

theorem loadAnswer_ne_none : loadAnswer x ≠ .ok (none, none) := by
  unfold loadAnswer
  split
  · simp
  · split <;> simp

end Answers

/-- Whether a fetch's answer ends a load's retries: a success does, and so does a failure that
is final. -/
def endsRetries : Outcome (PoolState × PoolSnapshot) → Bool
  | .ok _ => true
  | .error f => isPermanent f

theorem endsRetries_of_loadAnswer_error {x : Outcome (PoolState × PoolSnapshot)} {f : Failure}
    (h : loadAnswer x = .error f) : endsRetries x = false := by
  obtain rfl := eq_error_of_loadAnswer h
  simpa [loadAnswer, endsRetries] using h

theorem endsRetries_of_loadAnswer_ok {x : Outcome (PoolState × PoolSnapshot)}
    {a : Option (PoolState × PoolSnapshot) × Option Failure} (h : loadAnswer x = .ok a) :
    endsRetries x = true := by
  cases x with
  | ok _ => rfl
  | error f =>
    cases permanent : isPermanent f
    · simp [loadAnswer, permanent] at h
    · exact permanent

/-- A load of `pool` with `retries` retries to spare fetched it `n` times from its `t`-th fetch
on: until a fetch ended the retries, and at most `retries + 1` times. -/
structure FetchRun (script : Address → Nat → Outcome (PoolState × PoolSnapshot)) (retries : Nat)
    (pool : Address) (t n : Nat) : Prop where
  positive : 1 ≤ n
  bounded : n ≤ retries + 1
  retried : ∀ i, i + 1 < n → endsRetries (script pool (t + i)) = false
  stopped : n = retries + 1 ∨ endsRetries (script pool (t + n - 1)) = true

theorem fetchRun_fetchesOf (script : Address → Nat → Outcome (PoolState × PoolSnapshot))
    (retries : Nat) (pool : Address) (t : Nat) :
    FetchRun script retries pool t (fetchesOf script retries pool t) where
  positive := RetryPolicy.one_le_callsMade _ _ _
  bounded := RetryPolicy.callsMade_le _ _ _
  retried i before := by
    obtain ⟨f, failed⟩ := RetryPolicy.callsMade_fails _ _ _ i before
    exact endsRetries_of_loadAnswer_error failed
  stopped := by
    rcases RetryPolicy.callsMade_last (fun i => loadAnswer (script pool i)) t retries with
      spent | ⟨a, answered⟩
    · exact .inl spent
    · exact .inr (endsRetries_of_loadAnswer_ok answered)

theorem FetchRun.le {retries t n n' : Nat} {pool : Address} (h : FetchRun script retries pool t n)
    (h' : FetchRun script retries pool t n') : n ≤ n' := by
  by_contra longer
  have first := h'.positive
  -- the last fetch of the shorter run is one the longer run retried
  have retried := h.retried (n' - 1) (by omega)
  rcases h'.stopped with spent | ended
  · have := h.bounded
    omega
  · rw [show t + (n' - 1) = t + n' - 1 by omega, ended] at retried
    cases retried

theorem FetchRun.eq_fetchesOf {retries t n : Nat} {pool : Address}
    (h : FetchRun script retries pool t n) : n = fetchesOf script retries pool t :=
  le_antisymm (h.le (fetchRun_fetchesOf script retries pool t))
    ((fetchRun_fetchesOf script retries pool t).le h)

theorem loadPool_fetches_spec (world : e.FetchScripted script tries) {pool : Address} {kind : DexKind}
    (configured : (pool, kind) ∈ e.config.pools) (s₀ : EngineState) (T : Address → Nat) :
    ⦃fun s q => ⌜s = s₀ ∧ tries q = T⌝⦄ e.loadPool pool kind
      ⦃⇓ r s q => ⌜tries q = Function.update T pool
          (T pool + fetchesOf script e.config.retry.maxRetries.toNat pool (T pool)) ∧
        (r, s) = loadResult s₀ (lastFetch script e.config.retry.maxRetries.toNat pool (T pool))⌝⦄ := by
  have fetched := world.fetch_spec configured
  have retried := fun attempt attempted => @RetryPolicy.go_calls_spec _ _ _ _ world.toQuiet _ attempt pool
    (fun i => loadAnswer (script pool i)) attempted "fetch pool"
  unfold loadPool RetryPolicy.run
  mvcgen [retried]
  · mvcgen [fetched]
    all_goals
      rename_i q start _ _ _ q' answered
      obtain ⟨answered, counted⟩ := answered
      subst start
      rw [← answered]
      exact ⟨rfl, counted⟩
  · rename_i s q₁ start r f _ q answered
    obtain ⟨rfl, rfl⟩ := start
    obtain ⟨failed, counted⟩ := answered
    refine ⟨counted, ?_⟩
    rw [show lastFetch script _ pool (tries q₁ pool) = .error f from eq_error_of_loadAnswer failed.symm]
    rfl
  · rename_i s q₁ start r a f _ q answered
    obtain ⟨rfl, rfl⟩ := start
    obtain ⟨failed, counted⟩ := answered
    refine ⟨counted, ?_⟩
    rw [show lastFetch script _ pool (tries q₁ pool) = .error f from
      eq_error_of_loadAnswer_final failed.symm]
    rfl
  · rename_i s q₁ start r _ q answered
    exact absurd answered.1.symm loadAnswer_ne_none
  · rename_i s q₁ start r state snap _ q answered _
    obtain ⟨rfl, rfl⟩ := start
    obtain ⟨loaded, counted⟩ := answered
    refine ⟨counted, ?_⟩
    rw [show lastFetch script _ pool (tries q₁ pool) = .ok (state, snap) from
      eq_ok_of_loadAnswer loaded.symm]
    rfl

/-- The fetch counts after the pools `done` are loaded once each, from the counts `T`. -/
def countsAfter (script : Address → Nat → Outcome (PoolState × PoolSnapshot)) (retries : Nat)
    (T : Address → Nat) (done : List (Address × DexKind)) (a : Address) : Nat :=
  if a ∈ done.map Prod.fst then T a + fetchesOf script retries a (T a) else T a

/-- The cache after a load whose last fetch answered `last`. -/
def cacheWith (c : PoolCache) : Outcome (PoolState × PoolSnapshot) → PoolCache
  | .ok (state, snap) => c.upsert state snap
  | .error _ => c

theorem cache_loadResult (s : EngineState) (last : Outcome (PoolState × PoolSnapshot)) :
    (loadResult s last).2.cache = cacheWith s.cache last := by
  rcases last with f | ⟨state, snap⟩ <;> rfl

/-- The cache after the pools `done` are loaded one after the other into `c`, their fetch counts
starting from `T`. -/
def cacheAfter (script : Address → Nat → Outcome (PoolState × PoolSnapshot)) (retries : Nat)
    (T : Address → Nat) (c : PoolCache) (done : List (Address × DexKind)) : PoolCache :=
  done.foldl (fun c x => cacheWith c (lastFetch script retries x.1 (T x.1))) c

/-- How many of the pools `done` load, their fetch counts starting from `T`. -/
def loadedCount (script : Address → Nat → Outcome (PoolState × PoolSnapshot)) (retries : Nat)
    (T : Address → Nat) (done : List (Address × DexKind)) : Nat :=
  (done.filter fun x => (lastFetch script retries x.1 (T x.1)).isOk).length

section Loop

variable {retries : Nat} {T : Address → Nat} {done : List (Address × DexKind)}
  {x : Address × DexKind}

theorem countsAfter_nil : countsAfter script retries T [] = T := by
  funext a
  simp [countsAfter]

theorem countsAfter_of_not_mem {pool : Address} (fresh : pool ∉ done.map Prod.fst) :
    countsAfter script retries T done pool = T pool := by
  simp [countsAfter, fresh]

theorem countsAfter_of_mem {pool : Address} (member : pool ∈ done.map Prod.fst) :
    countsAfter script retries T done pool = T pool + fetchesOf script retries pool (T pool) := by
  simp [countsAfter, member]

theorem countsAfter_snoc :
    Function.update (countsAfter script retries T done) x.1
        (T x.1 + fetchesOf script retries x.1 (T x.1)) =
      countsAfter script retries T (done ++ [x]) := by
  funext a
  by_cases same : a = x.1
  · subst same
    simp [countsAfter]
  · have other : a ∈ (done ++ [x]).map Prod.fst ↔ a ∈ done.map Prod.fst := by
      simp only [List.map_append, List.map_cons, List.map_nil, List.mem_append, List.mem_singleton,
        same, or_false]
    simp only [countsAfter, ne_eq, same, not_false_eq_true, Function.update_of_ne, other]

theorem fresh_of_split {pools rest : List (Address × DexKind)}
    (distinct : (pools.map Prod.fst).Nodup) (split : pools = done ++ x :: rest) :
    x.1 ∉ done.map Prod.fst := by
  subst split
  rw [List.map_append, List.map_cons] at distinct
  exact fun seen => List.disjoint_of_nodup_append distinct seen List.mem_cons_self

variable {s s' : EngineState} {r : Outcome Unit}

theorem cacheAfter_load {c : PoolCache} (cached : s.cache = cacheAfter script retries T c done)
    (loaded : (r, s') = loadResult s (lastFetch script retries x.1 (T x.1))) :
    s'.cache = cacheAfter script retries T c (done ++ [x]) := by
  have after := congrArg (fun p => p.2.cache) loaded
  simp only [cacheAfter, List.foldl_append, List.foldl_cons, List.foldl_nil]
  rw [← cacheAfter, ← cached, ← cache_loadResult, ← after]

theorem loadedCount_load
    (loaded : (r, s') = loadResult s (lastFetch script retries x.1 (T x.1))) :
    loadedCount script retries T (done ++ [x]) =
      loadedCount script retries T done + if r.isOk then 1 else 0 := by
  have outcome : (lastFetch script retries x.1 (T x.1)).isOk = r.isOk := by
    cases last : lastFetch script retries x.1 (T x.1) <;> rw [last] at loaded <;>
      cases Prod.mk.inj loaded |>.1 <;> rfl
  unfold loadedCount
  rw [List.filter_append, List.length_append, List.filter_singleton, outcome]
  cases r.isOk <;> rfl

theorem entry_cacheAfter (distinct : (done.map Prod.fst).Nodup)
    (addressed : ∀ pool ∈ done.map Prod.fst, ∀ k state snap,
      script pool k = .ok (state, snap) → state.address = pool) (c : PoolCache) (a : Address) :
    (cacheAfter script retries T c done).entry a =
      if a ∈ done.map Prod.fst then
        match lastFetch script retries a (T a) with
        | .ok (state, snap) => (some state, some snap)
        | .error _ => c.entry a
      else c.entry a := by
  induction done generalizing c with
  | nil => simp [cacheAfter]
  | cons x rest ih =>
    rw [List.map_cons, List.nodup_cons] at distinct
    have later := ih distinct.2 (fun pool member => addressed pool (List.mem_cons_of_mem _ member))
      (cacheWith c (lastFetch script retries x.1 (T x.1)))
    rw [show cacheAfter script retries T c (x :: rest) =
      cacheAfter script retries T (cacheWith c (lastFetch script retries x.1 (T x.1))) rest from rfl, later]
    by_cases same : a = x.1
    · subst same
      simp only [distinct.1, if_false, List.map_cons, List.mem_cons, true_or, if_true]
      rcases last : lastFetch script retries x.1 (T x.1) with f | ⟨state, snap⟩
      · rfl
      · have own := addressed x.1 List.mem_cons_self _ state snap last
        simp [cacheWith, own]
    · have kept : (cacheWith c (lastFetch script retries x.1 (T x.1))).entry a = c.entry a := by
        rcases last : lastFetch script retries x.1 (T x.1) with f | ⟨state, snap⟩
        · rfl
        · have own := addressed x.1 List.mem_cons_self _ state snap last
          simp [cacheWith, own, same]
      simp only [kept, List.map_cons, List.mem_cons, same, false_or]

theorem loadedCount_ne_zero :
    loadedCount script retries T done ≠ 0 ↔
      ∃ pool ∈ done.map Prod.fst, ∃ answer, lastFetch script retries pool (T pool) = .ok answer := by
  simp only [loadedCount, ne_eq, List.length_eq_zero_iff, List.filter_eq_nil_iff, not_forall,
    Bool.not_eq_true, List.mem_map]
  constructor
  · rintro ⟨x, member, loaded⟩
    cases last : lastFetch script retries x.1 (T x.1) with
    | error f => simp [last, Except.isOk, Except.toBool] at loaded
    | ok answer => exact ⟨x.1, ⟨x, member, rfl⟩, answer, last⟩
  · rintro ⟨_, ⟨x, member, rfl⟩, answer, last⟩
    exact ⟨x, member, by simp [last, Except.isOk, Except.toBool]⟩

omit [LogSink (StateM σ)] [Recorder (StateM σ)] in
theorem account_step {pools rest : List (Address × DexKind)} (distinct : (pools.map Prod.fst).Nodup)
    (split : pools = done ++ x :: rest) {T₀ : Address → Nat} {c₀ : PoolCache} {q q' : σ} {n : Nat}
    (account : tries q = countsAfter script retries T₀ done ∧
      s.cache = cacheAfter script retries T₀ c₀ done ∧ n = loadedCount script retries T₀ done)
    (loaded : tries q' = Function.update (tries q) x.1
        (tries q x.1 + fetchesOf script retries x.1 (tries q x.1)) ∧
      (r, s') = loadResult s (lastFetch script retries x.1 (tries q x.1))) :
    tries q' = countsAfter script retries T₀ (done ++ [x]) ∧
      s'.cache = cacheAfter script retries T₀ c₀ (done ++ [x]) ∧
      n + (if r.isOk then 1 else 0) = loadedCount script retries T₀ (done ++ [x]) := by
  obtain ⟨counted, cached, tally⟩ := account
  obtain ⟨fetched, result⟩ := loaded
  have fresh := fresh_of_split distinct split
  rw [counted, countsAfter_of_not_mem fresh] at fetched result
  exact ⟨fetched.trans countsAfter_snoc, cacheAfter_load cached result,
    by rw [loadedCount_load result, tally]⟩

end Loop

/-- The failure of the head lookup a bootstrap from world `q` starts with: none without a log
source, or when the head is read. -/
def headFailure (e : Engine (StateM σ)) (q : σ) : Option Failure :=
  match e.logs with
  | some logs =>
    match (logs.latestBlock.run q).run.1 with
    | .error f => some f
    | .ok _ => none
  | none => none

theorem bootstrap_loads_spec (world : e.FetchScripted script tries)
    (distinct : (e.config.pools.map Prod.fst).Nodup) (known : e.logs = none) (c₀ : PoolCache)
    (T₀ : Address → Nat) :
    ⦃fun s q => ⌜s.cache = c₀ ∧ tries q = T₀⌝⦄ e.bootstrap
      ⦃⇓ r s q => ⌜tries q = countsAfter script e.config.retry.maxRetries.toNat T₀ e.config.pools ∧
        s.cache = cacheAfter script e.config.retry.maxRetries.toNat T₀ c₀ e.config.pools ∧
        (r = .ok () ↔ loadedCount script e.config.retry.maxRetries.toNat T₀ e.config.pools ≠ 0)⌝⦄ := by
  have load := fun pool kind (configured : (pool, kind) ∈ e.config.pools) =>
    loadPool_fetches_spec world configured
  have emit := world.emit_spec
  have record := world.record_spec
  simp only [bootstrap, known]
  mvcgen [load, emit, record, emit_stateT, record_stateT, Log.warn, Log.info] invariants
  · ⇓ p s q => ⌜tries q = countsAfter script e.config.retry.maxRetries.toNat T₀ p.1.1 ∧
      s.cache = cacheAfter script e.config.retry.maxRetries.toNat T₀ c₀ p.1.1 ∧
      p.2 = loadedCount script e.config.retry.maxRetries.toNat T₀ p.1.1⌝
  next _ _ _ done x rest split _ _ _ _ =>
    rw [split]
    simp
  next _ _ _ done x rest split n s q account r f _ s' q' loaded _ q'' logged =>
    have step := account_step distinct split account loaded
    rw [logged]
    simpa [Except.isOk, Except.toBool] using step
  next _ _ _ done x rest split n s q account r _ s' q' loaded =>
    simpa [Except.isOk, Except.toBool] using account_step distinct split account loaded
  next s q start =>
    obtain ⟨cached, counted⟩ := start
    exact ⟨by rw [countsAfter_nil, counted], cached, rfl⟩
  next _ _ _ n s q account _ none q' recorded =>
    obtain ⟨counted, cached, tally⟩ := account
    refine ⟨recorded.trans counted, cached, ?_⟩
    simp [← tally, beq_iff_eq.1 none]
  next _ _ _ n s q account _ some q' recorded _ q'' logged =>
    obtain ⟨counted, cached, tally⟩ := account
    refine ⟨logged.trans (recorded.trans counted), cached, ?_⟩
    simpa [← tally] using some

theorem bootstrap_of_logs {logs : LogSource (StateM σ)} (known : e.logs = some logs) :
    e.bootstrap = (do
      match ← (logs.latestBlock : StateM σ _) with
      | .error f => return .error (f.wrap "get latest block")
      | .ok head =>
        observeBlock head
        { e with logs := none }.bootstrap) := by
  simp only [bootstrap, known]
  rfl

theorem FetchScripted.without_logs (world : e.FetchScripted script tries) :
    ({ e with logs := none } : Engine (StateM σ)).FetchScripted script tries where
  toQuiet := world.toQuiet
  fetches := world.fetches
  heads _ known := nomatch known

theorem bootstrap_fetches_spec (world : e.FetchScripted script tries)
    (distinct : (e.config.pools.map Prod.fst).Nodup) (s₀ : EngineState) (q₀ : σ) :
    ⦃fun s q => ⌜s = s₀ ∧ q = q₀⌝⦄ e.bootstrap
      ⦃⇓ r s q => ⌜(∀ f, e.headFailure q₀ = some f →
          r = .error (f.wrap "get latest block") ∧ s = s₀ ∧ tries q = tries q₀) ∧
        (e.headFailure q₀ = none →
          tries q = countsAfter script e.config.retry.maxRetries.toNat (tries q₀) e.config.pools ∧
          s.cache = cacheAfter script e.config.retry.maxRetries.toNat (tries q₀) s₀.cache
            e.config.pools ∧
          (r = .ok () ↔
            loadedCount script e.config.retry.maxRetries.toNat (tries q₀) e.config.pools ≠ 0))⌝⦄ := by
  cases known : e.logs with
  | none =>
    have loaded := bootstrap_loads_spec world distinct known s₀.cache (tries q₀)
    have read : e.headFailure q₀ = none := by simp [headFailure, known]
    mvcgen [loaded]
    next _ _ start =>
      obtain ⟨rfl, rfl⟩ := start
      exact ⟨rfl, rfl⟩
    next _ _ _ _ _ _ =>
      intro counted cached tally
      refine ⟨fun f failed => ?_, fun _ => ⟨counted, cached, tally⟩⟩
      rw [read] at failed
      cases failed
  | some logs =>
    have head := world.head_spec known q₀
    have loaded := bootstrap_loads_spec world.without_logs distinct rfl
    rw [bootstrap_of_logs known]
    mvcgen [head, loaded, observeBlock]
    next _ _ start => exact start.2
    next _ _ start _ f _ _ answered =>
      have failed : e.headFailure q₀ = some f := by simp [headFailure, known, ← answered.1]
      refine ⟨fun g failed' => ?_, fun read => ?_⟩
      · rw [failed] at failed'
        cases failed'
        exact ⟨rfl, start.1, answered.2⟩
      · rw [failed] at read
        cases read
    next _ _ start _ block _ _ answered _ _ _ _ =>
      intro counted cached tally
      obtain ⟨rfl, -⟩ := start
      have read : e.headFailure q₀ = none := by simp [headFailure, known, ← answered.1]
      rw [answered.2] at counted cached tally
      refine ⟨fun f failed => ?_, fun _ => ⟨counted, cached, tally⟩⟩
      rw [read] at failed
      cases failed

/-- What a bootstrap from `s` and `q` did when it returned `r` and left `s'` and `q'`. -/
structure Bootstrapped (e : Engine (StateM σ))
    (script : Address → Nat → Outcome (PoolState × PoolSnapshot)) (tries : σ → Address → Nat)
    (s : EngineState) (q : σ) (r : Outcome Unit) (s' : EngineState) (q' : σ) : Prop where
  /-- A failed head lookup is returned before anything is fetched or cached. -/
  headFailed : ∀ f, e.headFailure q = some f →
    r = .error (f.wrap "get latest block") ∧ s' = s ∧ tries q' = tries q
  /-- Otherwise each configured pool is fetched until a fetch ends the retries, and at most once
  more than the retries allowed, -/
  fetched : e.headFailure q = none → ∀ pool ∈ e.config.pools.map Prod.fst, ∃ n,
    tries q' pool = tries q pool + n ∧ FetchRun script e.config.retry.maxRetries.toNat pool (tries q pool) n
  /-- and nothing else is. -/
  unfetched : ∀ a ∉ e.config.pools.map Prod.fst, tries q' a = tries q a
  /-- The cache then holds, beside what it held, each configured pool whose last fetch succeeded,
  with the state and snapshot of that fetch. -/
  cached : e.headFailure q = none → ∀ a, s'.cache.entry a =
    if a ∈ e.config.pools.map Prod.fst then
      match script a (tries q' a - 1) with
      | .ok (state, snap) => (some state, some snap)
      | .error _ => s.cache.entry a
    else s.cache.entry a
  /-- The bootstrap succeeds exactly when some configured pool loaded. -/
  loaded : e.headFailure q = none → (r = .ok () ↔
    ∃ pool ∈ e.config.pools.map Prod.fst, ∃ answer, script pool (tries q' pool - 1) = .ok answer)

omit [LogSink (StateM σ)] [Recorder (StateM σ)] in
theorem bootstrapped_of_account (distinct : (e.config.pools.map Prod.fst).Nodup)
    (addressed : ∀ pool ∈ e.config.pools.map Prod.fst, ∀ k state snap,
      script pool k = .ok (state, snap) → state.address = pool)
    {s s' : EngineState} {q q' : σ} {r : Outcome Unit}
    (failed : ∀ f, e.headFailure q = some f →
      r = .error (f.wrap "get latest block") ∧ s' = s ∧ tries q' = tries q)
    (account : e.headFailure q = none →
      tries q' = countsAfter script e.config.retry.maxRetries.toNat (tries q) e.config.pools ∧
      s'.cache = cacheAfter script e.config.retry.maxRetries.toNat (tries q) s.cache e.config.pools ∧
      (r = .ok () ↔ loadedCount script e.config.retry.maxRetries.toNat (tries q) e.config.pools ≠ 0)) :
    e.Bootstrapped script tries s q r s' q' where
  headFailed := failed
  fetched read pool member := by
    refine ⟨_, ?_, fetchRun_fetchesOf script _ pool (tries q pool)⟩
    rw [(account read).1, countsAfter_of_mem member]
  unfetched a other := by
    cases read : e.headFailure q with
    | some f => rw [(failed f read).2.2]
    | none => rw [(account read).1, countsAfter_of_not_mem other]
  cached read a := by
    obtain ⟨counted, cached, -⟩ := account read
    rw [cached, entry_cacheAfter distinct addressed]
    split_ifs with member
    · rw [counted, countsAfter_of_mem member]
      rfl
    · rfl
  loaded read := by
    obtain ⟨counted, -, tally⟩ := account read
    rw [tally, loadedCount_ne_zero]
    refine exists_congr fun pool => and_congr_right fun member => ?_
    rw [counted, countsAfter_of_mem member]
    rfl

theorem bootstrap_spec (world : e.FetchScripted script tries)
    (distinct : (e.config.pools.map Prod.fst).Nodup)
    (addressed : ∀ pool ∈ e.config.pools.map Prod.fst, ∀ k state snap,
      script pool k = .ok (state, snap) → state.address = pool)
    (s₀ : EngineState) (q₀ : σ) :
    ⦃fun s q => ⌜s = s₀ ∧ q = q₀⌝⦄ e.bootstrap
      ⦃⇓ r s q => ⌜e.Bootstrapped script tries s₀ q₀ r s q⌝⦄ := by
  have account := bootstrap_fetches_spec world distinct s₀ q₀
  mvcgen [account]
  intro failed loaded
  exact bootstrapped_of_account distinct addressed failed loaded

section Reorder

variable {ps : List (Address × DexKind)} (perm : ps.Perm e.config.pools)
include perm

theorem FetchScripted.reorder (world : e.FetchScripted script tries) :
    ({ e with config := { e.config with pools := ps } } : Engine (StateM σ)).FetchScripted
      script tries where
  toQuiet := world.toQuiet
  fetches pool kind configured := world.fetches pool kind (perm.mem_iff.mp configured)
  heads := world.heads

omit [LogSink (StateM σ)] [Recorder (StateM σ)] in
theorem Bootstrapped.reorder {s s' : EngineState} {q q' : σ} {r : Outcome Unit}
    (h : ({ e with config := { e.config with pools := ps } } : Engine (StateM σ)).Bootstrapped
      script tries s q r s' q') :
    e.Bootstrapped script tries s q r s' q' := by
  have same : ∀ a, a ∈ ps.map Prod.fst ↔ a ∈ e.config.pools.map Prod.fst :=
    fun a => (perm.map Prod.fst).mem_iff
  refine ⟨h.headFailed, fun read pool member => h.fetched read pool ((same pool).mpr member),
    fun a other => h.unfetched a (mt (same a).mp other), fun read a => ?_, fun read => ?_⟩
  · simpa only [same] using h.cached read a
  · simpa only [same] using h.loaded read

end Reorder

theorem bootstrapUnder_spec (world : e.FetchScripted script tries)
    (distinct : (e.config.pools.map Prod.fst).Nodup)
    (addressed : ∀ pool ∈ e.config.pools.map Prod.fst, ∀ k state snap,
      script pool k = .ok (state, snap) → state.address = pool)
    {order : CompletionOrder} (complete : ∀ n, (order n).Perm (List.finRange n))
    (s₀ : EngineState) (q₀ : σ) :
    ⦃fun s q => ⌜s = s₀ ∧ q = q₀⌝⦄ e.bootstrapUnder order
      ⦃⇓ r s q => ⌜e.Bootstrapped script tries s₀ q₀ r s q⌝⦄ := by
  have perm : ((order e.config.pools.length).map e.config.pools.get).Perm e.config.pools := by
    simpa only [List.map_get_finRange] using (complete e.config.pools.length).map e.config.pools.get
  have distinct' := (perm.map Prod.fst).nodup_iff.mpr distinct
  have addressed' := fun pool member => addressed pool ((perm.map Prod.fst).mem_iff.mp member)
  have loaded := bootstrap_spec (FetchScripted.reorder perm world) distinct' addressed' s₀ q₀
  unfold bootstrapUnder
  mvcgen [loaded]
  exact Bootstrapped.reorder perm

/-- A bootstrap fetches each configured pool until it loads or fails for good, caches what the last
successful fetch answered, and fails exactly when the head lookup fails or no pool loads; so do
concurrent loads in any completion order. -/
theorem bootstrap_loads_fetched_pools (world : e.FetchScripted script tries)
    (distinct : (e.config.pools.map Prod.fst).Nodup)
    (addressed : ∀ pool ∈ e.config.pools.map Prod.fst, ∀ k state snap,
      script pool k = .ok (state, snap) → state.address = pool)
    (s₀ : EngineState) (q₀ : σ) :
    ⦃fun s q => ⌜s = s₀ ∧ q = q₀⌝⦄ e.bootstrap
      ⦃⇓ r s q => ⌜e.Bootstrapped script tries s₀ q₀ r s q⌝⦄ ∧
    ∀ order : CompletionOrder, (∀ n, (order n).Perm (List.finRange n)) →
      ⦃fun s q => ⌜s = s₀ ∧ q = q₀⌝⦄ e.bootstrapUnder order
        ⦃⇓ r s q => ⌜e.Bootstrapped script tries s₀ q₀ r s q⌝⦄ :=
  ⟨bootstrap_spec world distinct addressed s₀ q₀,
    fun _ complete => bootstrapUnder_spec world distinct addressed complete s₀ q₀⟩

end Engine

/-- The state and snapshot every fetch of the pool at the zero address of `wideFeeChain` answers. -/
def wideFeeLoad : PoolState × PoolSnapshot :=
  ({ address := Address.zero, kind := .concentrated, token0 := wideFeeToken, token1 := wideFeeToken,
     token0IsLoan := true, fee := some 500 },
   { address := Address.zero, kind := .concentrated, token0 := wideFeeToken, token1 := wideFeeToken,
     block := some 1, sqrtPrice := some 0, tick := some 0 })

/-- How many times the reads of the chain read the head. -/
def headReads (reads : List ChainRead) : Nat :=
  reads.countP fun
    | .head => true
    | .call _ _ => false

theorem wideFee_fetch_spec (R₀ : List ChainRead) :
    ⦃fun R => ⌜R = R₀⌝⦄
      (wideFeeChain.fetcher wideFeeToken wideFeeToken).fetchPool Address.zero .concentrated
      ⦃⇓ r R => ⌜r = .ok wideFeeLoad ∧ headReads R = headReads R₀ + 1⌝⦄ := by
  have view := ScriptedChain.view_spec (c := wideFeeChain) wideFeeToken wideFeeToken
  have head := ScriptedChain.head_spec (c := wideFeeChain) wideFeeToken wideFeeToken
  unfold Fetcher.fetchPool Fetcher.readPair Fetcher.readDetails Fetcher.readSnapshot Fetcher.viewAddress
  mvcgen [view, head]
  all_goals simp_all +zetaDelta [wideFee_latest, wideFee_at, wide_address (m := PoolViews.token0) rfl,
    wide_address (m := PoolViews.token1) rfl, wide_fee, slot0_zeroWords, wideFee_head, int24?,
    PoolState.hasPair, headReads, wideFeeLoad]
  decide

/-- An engine that loads the pool at the zero address of `wideFeeChain`, without a log source. -/
def wideFeeEngine : Engine (StateM (List ChainRead)) where
  config := { (default : EngineConfig) with pools := [(Address.zero, .concentrated)] }
  fetcher := wideFeeChain.fetcher wideFeeToken wideFeeToken
  finder := fun _ => pure []
  loans := fun _ _ _ => pure (.error (Failure.plain "no loan"))
  fees := fun _ => pure (.ok default)
  builder := { vault := Address.zero, executor := Address.zero }
  sink :=
    { putOpportunity := fun _ => pure (.ok ())
      putSubmission := fun _ => pure (.ok ())
      close := pure (.ok ()) }
  submitter := none
  logs := none
  disk :=
    { stat := fun _ => pure (.error .noEntry)
      readFile := fun _ => pure (.error (Failure.plain "no file"))
      mkdirAll := fun _ => pure (.ok ())
      writeFile := fun _ _ => pure (.ok ())
      appendFile := fun _ _ => pure (.ok ())
      rename := fun _ _ => pure (.ok ()) }
  clock := pure 0
  salt := pure 0

/-- The fetches of the pool at the zero address, counted by the head reads they make. -/
def wideFeeTries (reads : List ChainRead) (pool : Address) : Nat :=
  if pool = Address.zero then headReads reads else 0

theorem wideFeeEngine_scripted :
    wideFeeEngine.FetchScripted (fun _ _ => .ok wideFeeLoad) wideFeeTries where
  emit _ _ := rfl
  record _ _ := rfl
  fetches pool kind configured R := by
    simp only [wideFeeEngine, List.mem_cons, Prod.mk.injEq, List.not_mem_nil, or_false] at configured
    obtain ⟨rfl, rfl⟩ := configured
    obtain ⟨answered, counted⟩ := run_of_triple (wideFee_fetch_spec R) R rfl
    refine ⟨answered, ?_⟩
    funext a
    by_cases same : a = Address.zero
    · simp only [wideFeeTries, same, if_true, Function.update_self]
      exact counted
    · simp [wideFeeTries, same]
  heads _ known := nomatch known

/-- The engine state a bootstrap starts from: an empty cache. -/
def freshEngineState : EngineState :=
  { cache := {}, seen := { capacity := 4096 }, checkpoint := { path := [], enabled := false } }

theorem wide_fee_pool_bootstraps :
    wideFeeEngine.FetchScripted (fun _ _ => .ok wideFeeLoad) wideFeeTries ∧
      ⦃fun s q => ⌜s = freshEngineState ∧ q = []⌝⦄ wideFeeEngine.bootstrap
        ⦃⇓ r s q => ⌜wideFeeEngine.Bootstrapped (fun _ _ => .ok wideFeeLoad) wideFeeTries
          freshEngineState [] r s q⌝⦄ :=
  ⟨wideFeeEngine_scripted, (Engine.bootstrap_loads_fetched_pools wideFeeEngine_scripted (by decide)
    (fun pool member _ _ _ answered => by
      cases answered
      simp only [wideFeeEngine, List.map_cons, List.map_nil, List.mem_singleton] at member
      simp [member])
    freshEngineState []).1⟩

end FlashArb
