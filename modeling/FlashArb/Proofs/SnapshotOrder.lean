import Mathlib
import FlashArb.Proofs.LogHandling
import FlashArb.Proofs.StripedCache

/-! The snapshot a pool settles to after a batch of logs. -/
namespace FlashArb

open Std.Do

set_option mvcgen.warning false

namespace PoolCache

variable (c : PoolCache) (pool : Address) (f : PoolSnapshot → PoolSnapshot) (q : Address)

@[simp] theorem getSnapshot?_updateSnapshot :
    (c.updateSnapshot pool f).2.getSnapshot? q =
      if q = pool then (c.getSnapshot? pool).map f else c.getSnapshot? q := by
  rw [updateSnapshot_eq]
  cases stored : c.getSnapshot? pool with
  | none =>
    dsimp only
    split
    · subst_vars
      exact stored
    · rfl
  | some p =>
    show _ = if q = pool then some (f p) else c.getSnapshot? q
    unfold getSnapshot?
    exact get?_modifyShard_insert (·.snapshots) _ (f p) (fun _ => rfl) q

@[simp] theorem getState?_updateSnapshot : (c.updateSnapshot pool f).2.getState? q = c.getState? q := by
  rw [updateSnapshot_eq]
  cases c.getSnapshot? pool with
  | none => rfl
  | some p =>
    dsimp only
    unfold getState?
    apply get?_modifyShard_frame (·.states)
    intro _
    rfl

end PoolCache

namespace PoolSnapshot

/-- The snapshot after an event of `block` writing `f`: moved to the event, unless it is already
past that block. -/
def advance (snap : PoolSnapshot) (block : Nat) (f : PoolSnapshot → PoolSnapshot) : PoolSnapshot :=
  if snap.admits block then { f snap with block := some block } else snap

theorem admits_iff {snap : PoolSnapshot} {block : Nat} :
    snap.admits block = true ↔ ∀ b ∈ snap.block, b ≤ block := by
  simp [admits, Option.all_eq_true]

theorem admits_of_le {snap : PoolSnapshot} {block block' : Nat} (h : snap.admits block = true)
    (le : block ≤ block') : snap.admits block' = true :=
  admits_iff.2 fun b mem => (admits_iff.1 h b mem).trans le

theorem lt_of_not_admits {snap : PoolSnapshot} {block : Nat} (h : snap.admits block = false) :
    ∃ b ∈ snap.block, block < b := by
  simpa [admits, Option.all_eq_false] using h

end PoolSnapshot

namespace EventBody

theorem write_block (b : EventBody) (snap : PoolSnapshot) (block : Option Nat) :
    b.write { snap with block } = { b.write snap with block } := by
  cases b <;> rfl

theorem write_write {b b' : EventBody} (same : b.kindName = b'.kindName) (snap : PoolSnapshot) :
    b.write (b'.write snap) = b.write snap := by
  cases b <;> cases b' <;> simp_all [kindName, write]

end EventBody

namespace EventLog

/-- What a log writes into its pool's snapshot, read off its decoding; a log that does not decode
writes nothing. -/
def write (l : EventLog) : PoolSnapshot → PoolSnapshot :=
  match PoolEvent.decode l with
  | .ok ev => ev.body.write
  | .error _ => fun snap => snap

/-- The kind of event a log carries, read off its decoding. -/
def kind (l : EventLog) : Option String := (PoolEvent.decode l).toOption.map (·.body.kindName)

/-- A live log that decodes to a reserve sync or a concentrated-liquidity swap. -/
def MovesSnapshot (l : EventLog) : Prop :=
  l.removed = false ∧ ∃ ev, PoolEvent.decode l = .ok ev ∧ ev.body.movesSnapshot = true

theorem write_of_decode {l : EventLog} {ev : PoolEvent} (h : PoolEvent.decode l = .ok ev) :
    l.write = ev.body.write := by
  simp [write, h]

@[simp] theorem write_block (l : EventLog) (snap : PoolSnapshot) (block : Option Nat) :
    l.write { snap with block } = { l.write snap with block } := by
  cases decoded : PoolEvent.decode l <;> simp [write, decoded, EventBody.write_block]

theorem write_write {l l' : EventLog} (same : l.kind = l'.kind) (snap : PoolSnapshot) :
    l.write (l'.write snap) = l.write snap := by
  unfold kind at same
  cases decoded : PoolEvent.decode l <;> cases decoded' : PoolEvent.decode l' <;>
    simp_all [write, Except.toOption, EventBody.write_write]

theorem kind_of_filter {ls ls' : List EventLog} (perm : ls'.Perm ls)
    (oneKind : ∀ l ∈ ls, ∀ l' ∈ ls, l.address = l'.address → l.kind = l'.kind) (p : Address) :
    ∀ l ∈ ls'.filter (·.address = p), ∀ l' ∈ ls'.filter (·.address = p), l.kind = l'.kind := by
  intro l mem l' mem'
  simp only [List.mem_filter, decide_eq_true_eq] at mem mem'
  exact oneKind l (perm.subset mem.1) l' (perm.subset mem'.1) (mem.2.trans mem'.2.symm)

end EventLog

namespace PoolSnapshot

/-- The snapshot after the logs `ls` of its pool, delivered in this order. -/
def settle (snap : PoolSnapshot) (ls : List EventLog) : PoolSnapshot :=
  ls.foldl (fun snap l => snap.advance l.block.toNat l.write) snap

@[simp] theorem settle_nil (snap : PoolSnapshot) : snap.settle [] = snap := rfl

@[simp] theorem settle_cons (snap : PoolSnapshot) (l : EventLog) (ls : List EventLog) :
    snap.settle (l :: ls) = (snap.advance l.block.toNat l.write).settle ls := rfl

theorem settle_append_singleton (snap : PoolSnapshot) (ls : List EventLog) (l : EventLog) :
    snap.settle (ls ++ [l]) = (snap.settle ls).advance l.block.toNat l.write := by
  simp [settle, List.foldl_append]

/-- Where the logs `ls` of a pool, in delivery order, take its snapshot `snap`: to the last
delivered write of the greatest block it admits. -/
def SettlesTo (snap : PoolSnapshot) (ls : List EventLog) (snap' : PoolSnapshot) : Prop :=
  (∀ l ∈ ls, snap.admits l.block.toNat = false) ∧ snap' = snap ∨
  ∃ pre l post, ls = pre ++ l :: post ∧ snap.admits l.block.toNat = true ∧
    (∀ l' ∈ pre, l'.block.toNat ≤ l.block.toNat) ∧ (∀ l' ∈ post, l'.block.toNat < l.block.toNat) ∧
    snap' = { l.write snap with block := some l.block.toNat }

theorem le_of_split {pre post : List EventLog} {l : EventLog}
    (before : ∀ l' ∈ pre, l'.block.toNat ≤ l.block.toNat)
    (after : ∀ l' ∈ post, l'.block.toNat < l.block.toNat) :
    ∀ l' ∈ pre ++ l :: post, l'.block.toNat ≤ l.block.toNat := by
  intro l' mem
  simp only [List.mem_append, List.mem_cons] at mem
  rcases mem with mem | rfl | mem
  · exact before l' mem
  · exact le_refl _
  · exact (after l' mem).le

theorem settlesTo_settle (snap : PoolSnapshot) (ls : List EventLog)
    (oneKind : ∀ l ∈ ls, ∀ l' ∈ ls, l.kind = l'.kind) : snap.SettlesTo ls (snap.settle ls) := by
  induction ls using List.reverseRecOn with
  | nil => exact .inl ⟨by simp, rfl⟩
  | append_singleton ls x ih =>
    have earlier : ∀ l ∈ ls, ∀ l' ∈ ls, l.kind = l'.kind := fun l h l' h' =>
      oneKind l (List.mem_append_left _ h) l' (List.mem_append_left _ h')
    rw [settle_append_singleton]
    rcases ih earlier with ⟨none, same⟩ | ⟨pre, l, post, split, admitted, before, after, value⟩
    · rw [same]
      by_cases hx : snap.admits x.block.toNat
      · refine .inr ⟨ls, x, [], rfl, hx, fun l' mem => ?_, by simp, by simp [advance, hx]⟩
        obtain ⟨b, at_b, later⟩ := lt_of_not_admits (none l' mem)
        have := admits_iff.1 hx b at_b
        omega
      · refine .inl ⟨fun l' mem => ?_, by simp [advance, hx]⟩
        rcases List.mem_append.1 mem with mem | mem
        · exact none l' mem
        · simpa [List.mem_singleton.1 mem] using hx
    · have sameKind : x.kind = l.kind := oneKind x (by simp) l (by simp [split])
      rw [value]
      by_cases hx : l.block.toNat ≤ x.block.toNat
      · have moves : ({ l.write snap with block := some l.block.toNat } : PoolSnapshot).admits
            x.block.toNat = true := by
          simp [admits, hx]
        refine .inr ⟨ls, x, [], rfl, admits_of_le admitted hx, fun l' mem => ?_, by simp, ?_⟩
        · rw [split] at mem
          exact (le_of_split before after l' mem).trans hx
        · simp only [advance, moves, if_true, EventLog.write_block, EventLog.write_write sameKind]
      · have stays : ({ l.write snap with block := some l.block.toNat } : PoolSnapshot).admits
            x.block.toNat = false := by
          simp [admits]
          omega
        refine .inr ⟨pre, l, post ++ [x], by simp [split], admitted, before, fun l' mem => ?_, ?_⟩
        · simp only [List.mem_append, List.mem_singleton] at mem
          rcases mem with mem | rfl
          · exact after l' mem
          · omega
        · simp [advance, stays]

theorem SettlesTo.eq_of_perm {snap a b : PoolSnapshot} {ls ls' : List EventLog}
    (ha : snap.SettlesTo ls a) (hb : snap.SettlesTo ls' b) (perm : ls'.Perm ls)
    (oneBlock : ∀ l ∈ ls, ∀ l' ∈ ls, l.block = l'.block → l = l') : b = a := by
  rcases ha with ⟨none, rfl⟩ | ⟨pre, l, post, rfl, admitted, before, after, rfl⟩ <;>
    rcases hb with ⟨none', rfl⟩ | ⟨pre', l', post', rfl, admitted', before', after', rfl⟩
  · rfl
  · have := none l' (perm.subset (by simp))
    simp_all
  · have := none' l (perm.symm.subset (by simp))
    simp_all
  · have below := le_of_split before after l' (perm.subset (by simp))
    have above := le_of_split before' after' l (perm.symm.subset (by simp))
    have same : l' = l :=
      oneBlock l' (perm.subset (by simp)) l (by simp) (UInt64.toNat_inj.1 (by omega))
    rw [same]

end PoolSnapshot

namespace PoolCache

variable (c : PoolCache) (pool : Address) (block : Nat) (f : PoolSnapshot → PoolSnapshot)
  (q : Address)

@[simp] theorem getSnapshot?_advanceSnapshot :
    (c.advanceSnapshot pool block f).getSnapshot? q =
      if q = pool then (c.getSnapshot? pool).map (·.advance block f) else c.getSnapshot? q := by
  unfold advanceSnapshot
  cases stored : c.getSnapshot? pool with
  | none =>
    dsimp only
    split
    · subst_vars
      exact stored
    · rfl
  | some snap =>
    dsimp only
    by_cases admitted : snap.admits block
    · simp [admitted, stored, PoolSnapshot.advance]
    · simp only [admitted, Bool.false_eq_true, if_false, Option.map_some, PoolSnapshot.advance]
      split
      · subst_vars
        exact stored
      · rfl

@[simp] theorem getState?_advanceSnapshot :
    (c.advanceSnapshot pool block f).getState? q = c.getState? q := by
  unfold advanceSnapshot
  split
  · split <;> simp
  · rfl

/-- The cache after the logs `ls`, each moving its pool's snapshot in turn. -/
def afterLogs (c : PoolCache) (ls : List EventLog) : PoolCache :=
  ls.foldl (fun c l => c.advanceSnapshot l.address l.block.toNat l.write) c

@[simp] theorem afterLogs_nil : c.afterLogs [] = c := rfl

@[simp] theorem afterLogs_cons (l : EventLog) (ls : List EventLog) :
    c.afterLogs (l :: ls) = (c.advanceSnapshot l.address l.block.toNat l.write).afterLogs ls := rfl

theorem getSnapshot?_afterLogs (ls : List EventLog) :
    (c.afterLogs ls).getSnapshot? q = (c.getSnapshot? q).map (·.settle (ls.filter (·.address = q))) := by
  induction ls generalizing c with
  | nil => simp
  | cons l ls ih =>
    rw [afterLogs_cons, ih, getSnapshot?_advanceSnapshot]
    by_cases mine : q = l.address
    · subst mine
      cases c.getSnapshot? l.address <;> simp
    · have other : l.address ≠ q := fun h => mine h.symm
      simp [mine, other]

@[simp] theorem getState?_afterLogs (ls : List EventLog) :
    (c.afterLogs ls).getState? q = c.getState? q := by
  induction ls generalizing c with
  | nil => rfl
  | cons l ls ih => rw [afterLogs_cons, ih, getState?_advanceSnapshot]

/-- Every snapshot of `c` is still in `c'`, at a block not lower. -/
def NoOlder (c c' : PoolCache) : Prop :=
  ∀ p snap, c.getSnapshot? p = some snap →
    ∃ snap', c'.getSnapshot? p = some snap' ∧ ∀ b ∈ snap.block, ∃ b' ∈ snap'.block, b ≤ b'

theorem NoOlder.refl : c.NoOlder c :=
  fun _ snap stored => ⟨snap, stored, fun b at_b => ⟨b, at_b, le_refl b⟩⟩

theorem noOlder_advanceSnapshot : c.NoOlder (c.advanceSnapshot pool block f) := by
  intro p snap stored
  rw [getSnapshot?_advanceSnapshot]
  by_cases mine : p = pool
  · subst mine
    refine ⟨snap.advance block f, by simp [stored], fun b at_b => ?_⟩
    by_cases admitted : snap.admits block
    · exact ⟨block, by simp [PoolSnapshot.advance, admitted], PoolSnapshot.admits_iff.1 admitted b at_b⟩
    · exact ⟨b, by simpa [PoolSnapshot.advance, admitted] using at_b, le_refl b⟩
  · exact ⟨snap, by simpa [mine] using stored, fun b at_b => ⟨b, at_b, le_refl b⟩⟩

end PoolCache

theorem afterLogs_step {l : EventLog} {rest : List EventLog} {c₀ c₁ c₂ : PoolCache} {d₀ d₁ : Dedup}
    (distinct : ((l :: rest).map (·.id)).Nodup) (handled : d₀.Handled l.id d₁)
    (cache : c₁ = if l.id ∈ d₀.keys then c₀ else c₀.advanceSnapshot l.address l.block.toNat l.write)
    (rested : (∀ l' ∈ rest, l'.id ∉ d₁.keys) → c₂ = c₁.afterLogs rest)
    (fresh : ∀ l' ∈ l :: rest, l'.id ∉ d₀.keys) : c₂ = c₀.afterLogs (l :: rest) := by
  have first : l.id ∉ d₀.keys := fresh l (by simp)
  have later : ∀ l' ∈ rest, l'.id ∉ d₁.keys := by
    intro l' mem known
    rcases handled.mem known with old | same
    · exact fresh l' (by simp [mem]) old
    · exact (List.nodup_cons.1 distinct).1 (List.mem_map.2 ⟨l', mem, same⟩)
  rw [rested later, cache, if_neg first, PoolCache.afterLogs_cons]

namespace Engine

variable {σ : Type} [LogSink (StateM σ)] [Recorder (StateM σ)] (e : Engine (StateM σ))

theorem handleLog_snapshot_spec {l : EventLog} (moving : l.MovesSnapshot) (s₀ : EngineState) :
    ⦃fun s _ => ⌜s = s₀⌝⦄ e.handleLog l
      ⦃⇓ _ s _ => ⌜s₀.seen.Handled l.id s.seen ∧
        s.cache = if l.id ∈ s₀.seen.keys then s₀.cache
          else s₀.cache.advanceSnapshot l.address l.block.toNat l.write⌝⦄ := by
  obtain ⟨live, ev, decoded, moves⟩ := moving
  by_cases known : l.id ∈ s₀.seen.keys
  · have skipped := e.handleLog_skip_spec l s₀ (.inr known)
    mvcgen [skipped]
    simp_all [Dedup.Handled]
  · have moved := e.handleLog_moves_spec decoded moves live s₀ known
    have pool := PoolEvent.decode_pool decoded moves
    obtain ⟨-, -, -, -, -, block⟩ := PoolEvent.decode_eq_ok decoded
    mvcgen [moved]
    simp_all [Dedup.Handled, EventLog.write_of_decode decoded]

theorem handleLog_noOlder {l : EventLog} (moving : l.MovesSnapshot) (s₀ : EngineState) :
    ⦃fun s _ => ⌜s = s₀⌝⦄ e.handleLog l ⦃⇓ _ s _ => ⌜s₀.cache.NoOlder s.cache⌝⦄ := by
  have step := e.handleLog_snapshot_spec moving s₀
  mvcgen [step]
  intro _ cache
  rw [cache]
  split
  · exact PoolCache.NoOlder.refl _
  · exact PoolCache.noOlder_advanceSnapshot _ _ _ _

theorem handleBatch_snapshots (ls : List EventLog) (moving : ∀ l ∈ ls, l.MovesSnapshot)
    (distinct : (ls.map (·.id)).Nodup) (s₀ : EngineState) :
    ⦃fun s _ => ⌜s = s₀⌝⦄ e.handleBatch ls
      ⦃⇓ _ s _ => ⌜(∀ l ∈ ls, l.id ∉ s₀.seen.keys) → s.cache = s₀.cache.afterLogs ls⌝⦄ := by
  induction ls generalizing s₀ with
  | nil =>
    unfold handleBatch
    mvcgen
    simp_all
  | cons l rest ih =>
    have step := e.handleLog_snapshot_spec (moving l (by simp))
    have next := ih (fun l' mem => moving l' (by simp [mem])) (List.nodup_cons.1 distinct).2
    unfold handleBatch
    mvcgen [step, next, world_spec, Log.warn, emit_stateT]
    all_goals
      subst_vars
      intro rested fresh
      obtain ⟨handled, cache⟩ := ‹_ ∧ _›
      exact afterLogs_step distinct handled cache rested fresh

theorem handleBatch_reordered {ls order : List EventLog} (perm : order.Perm ls)
    (moving : ∀ l ∈ ls, l.MovesSnapshot) (distinct : (ls.map (·.id)).Nodup) (s₀ : EngineState)
    (fresh : ∀ l ∈ ls, l.id ∉ s₀.seen.keys) :
    ⦃fun s _ => ⌜s = s₀⌝⦄ e.handleBatch order ⦃⇓ _ s _ => ⌜s.cache = s₀.cache.afterLogs order⌝⦄ := by
  have run := e.handleBatch_snapshots order (fun l mem => moving l (perm.subset mem))
    ((perm.map _).nodup_iff.2 distinct) s₀
  mvcgen [run]
  intro cache
  exact cache fun l mem => fresh l (perm.subset mem)

/-- What delivering the snapshot logs `ls`, in any order, from the state `s₀` guarantees. -/
structure SettlesSnapshots (ls : List EventLog) (s₀ : EngineState) : Prop where
  /-- No log of `ls` moves a snapshot back or drops it, whatever the state it is handled in. -/
  monotone : ∀ l ∈ ls, ∀ s₁, ⦃fun s _ => ⌜s = s₁⌝⦄ e.handleLog l
    ⦃⇓ _ s _ => ⌜s₁.cache.NoOlder s.cache⌝⦄
  /-- Delivered in any order, the logs leave the pools' metadata and the pools without a
  snapshot alone, and take each snapshot where its own logs in that order take it. -/
  settles : ∀ order, order.Perm ls → ⦃fun s _ => ⌜s = s₀⌝⦄ e.handleBatch order
    ⦃⇓ _ s _ => ⌜∀ p, s.cache.getState? p = s₀.cache.getState? p ∧
      Option.Rel (fun snap snap' => snap.SettlesTo (order.filter (·.address = p)) snap')
        (s₀.cache.getSnapshot? p) (s.cache.getSnapshot? p)⌝⦄
  /-- When no pool receives two of the logs at one block, every order ends in one cache. -/
  agrees : (∀ l ∈ ls, ∀ l' ∈ ls, l.address = l'.address → l.block = l'.block → l = l') →
    ∀ order, order.Perm ls → ⦃fun s _ => ⌜s = s₀⌝⦄ e.handleBatch order
      ⦃⇓ _ s _ => ⌜∀ p, s.cache.getSnapshot? p = (s₀.cache.afterLogs ls).getSnapshot? p⌝⦄

/-- Live sync and swap logs delivered in any order: no snapshot moves back, each ends at its pool's
last delivered log of the greatest block, and without two logs of one block per pool every order
agrees. -/
theorem snapshot_logs_settle (ls : List EventLog) (s₀ : EngineState)
    (moving : ∀ l ∈ ls, l.MovesSnapshot) (distinct : (ls.map (·.id)).Nodup)
    (fresh : ∀ l ∈ ls, l.id ∉ s₀.seen.keys)
    (oneKind : ∀ l ∈ ls, ∀ l' ∈ ls, l.address = l'.address → l.kind = l'.kind) :
    e.SettlesSnapshots ls s₀ where
  monotone l mem s₁ := e.handleLog_noOlder (moving l mem) s₁
  settles order perm := by
    have run := e.handleBatch_reordered perm moving distinct s₀ fresh
    mvcgen [run]
    rename_i s _
    intro cache p
    rw [cache, PoolCache.getState?_afterLogs, PoolCache.getSnapshot?_afterLogs]
    refine ⟨rfl, ?_⟩
    cases s₀.cache.getSnapshot? p with
    | none => exact .none
    | some snap =>
      exact .some (PoolSnapshot.settlesTo_settle snap _ (EventLog.kind_of_filter perm oneKind p))
  agrees oneBlock order perm := by
    have run := e.handleBatch_reordered perm moving distinct s₀ fresh
    mvcgen [run]
    rename_i s _
    intro cache p
    rw [cache, PoolCache.getSnapshot?_afterLogs, PoolCache.getSnapshot?_afterLogs]
    cases s₀.cache.getSnapshot? p with
    | none => rfl
    | some snap =>
      have mine := PoolSnapshot.settlesTo_settle snap _ (EventLog.kind_of_filter perm oneKind p)
      have theirs := PoolSnapshot.settlesTo_settle snap _
        (EventLog.kind_of_filter (List.Perm.refl ls) oneKind p)
      refine congrArg some (theirs.eq_of_perm mine (perm.filter _) fun l mem l' mem' same => ?_)
      simp only [List.mem_filter, decide_eq_true_eq] at mem mem'
      exact oneBlock l mem.1 l' mem'.1 (mem.2.trans mem'.2.symm) same

end Engine

/-- The data of a concentrated-liquidity swap to the price `price` at tick 7 (the amounts and the
liquidity are 1). -/
def swapData (price : Nat) : Bytes :=
  Bytes.ofNat 32 1 ++ Bytes.ofNat 32 1 ++ Bytes.ofNat 32 price ++ Bytes.ofNat 32 1 ++ Bytes.ofNat 32 7

/-- A swap of pool 2 to the price `price` in block 12, the `index`-th log of its transaction. -/
def blockSwap (price index : Nat) : EventLog :=
  { address := Address.ofNat 2, topics := [Topic.concentratedSwap, Hash.zero, Hash.zero],
    data := swapData price, block := 12, index }

@[simp] theorem blockSwap_address (price index : Nat) : (blockSwap price index).address = Address.ofNat 2 :=
  rfl

@[simp] theorem blockSwap_block (price index : Nat) : (blockSwap price index).block = 12 := rfl

theorem decode_blockSwap (price index : Nat)
    (data : Abi.decodeArgs [.int 256, .int 256, .uint 160, .uint 128, .int 24] (swapData price) =
      .ok [.int 1, .int 1, .uint price, .uint 1, .int 7]) :
    PoolEvent.decode (blockSwap price index) =
      .ok
        { pool := Address.ofNat 2, block := 12, txHash := Hash.zero, logIndex := index,
          body := .concentratedSwap price 7 } := by
  simp only [PoolEvent.decode, blockSwap, canDecode, Topic.pool, List.contains_cons,
    beq_self_eq_true, Bool.true_or, Bool.not_true, PoolEvent.read, Bool.false_eq_true, ↓reduceIte,
    PoolEvent.readData, data, PoolEvent.indexedTopics, PoolEvent.lift]
  rfl

/-- Pool 2, a concentrated-liquidity pool, read at block 10. -/
def poolTwoCache : PoolCache :=
  PoolCache.empty.upsert
    { address := Address.ofNat 2, kind := .concentrated, token0 := Address.ofNat 5,
      token1 := Address.ofNat 6 }
    { address := Address.ofNat 2, kind := .concentrated, sqrtPrice := some 500, tick := some 3,
      block := some 10 }

theorem decode_blockSwap_1000_5 :
    PoolEvent.decode (blockSwap 1000 5) =
      .ok
        { pool := Address.ofNat 2, block := 12, txHash := Hash.zero, logIndex := 5,
          body := .concentratedSwap 1000 7 } :=
  decode_blockSwap 1000 5 (by cbv)

theorem decode_blockSwap_3000_4 :
    PoolEvent.decode (blockSwap 3000 4) =
      .ok
        { pool := Address.ofNat 2, block := 12, txHash := Hash.zero, logIndex := 4,
          body := .concentratedSwap 3000 7 } :=
  decode_blockSwap 3000 4 (by cbv)

theorem blockSwaps_move :
    (blockSwap 1000 5).MovesSnapshot ∧ (blockSwap 3000 4).MovesSnapshot ∧
      (blockSwap 1000 5).kind = (blockSwap 3000 4).kind ∧ (blockSwap 1000 5).id ≠ (blockSwap 3000 4).id := by
  have late := decode_blockSwap_1000_5
  have early := decode_blockSwap_3000_4
  refine ⟨⟨rfl, _, late, rfl⟩, ⟨rfl, _, early, rfl⟩, ?_, ?_⟩
  · rw [EventLog.kind, EventLog.kind, late, early]
    rfl
  · simp [EventLog.id, blockSwap]

/-- Delivered from a fresh engine holding pool 2 at block 10, the two swaps of block 12 settle
the snapshot in either order. -/
theorem block_swaps_settle :
    let s₀ : EngineState :=
      { cache := poolTwoCache, seen := { capacity := 4096 }, checkpoint := { path := [], enabled := false } }
    let ls := [blockSwap 1000 5, blockSwap 3000 4]
    ((∀ l ∈ ls, l.MovesSnapshot) ∧ (ls.map (·.id)).Nodup ∧ (∀ l ∈ ls, l.id ∉ s₀.seen.keys) ∧
      (∀ l ∈ ls, ∀ l' ∈ ls, l.address = l'.address → l.kind = l'.kind)) ∧
    quietEngine.SettlesSnapshots ls s₀ := by
  intro s₀ ls
  obtain ⟨late, early, sameKind, distinctIds⟩ := blockSwaps_move
  have moving : ∀ l ∈ ls, l.MovesSnapshot := by simp [ls, late, early]
  have distinct : (ls.map (·.id)).Nodup := by simp [ls, distinctIds]
  have fresh : ∀ l ∈ ls, l.id ∉ s₀.seen.keys := by simp [s₀]
  have oneKind : ∀ l ∈ ls, ∀ l' ∈ ls, l.address = l'.address → l.kind = l'.kind := by
    simp [ls, sameKind]
  exact ⟨⟨moving, distinct, fresh, oneKind⟩,
    Engine.snapshot_logs_settle quietEngine ls s₀ moving distinct fresh oneKind⟩

/-- Two swaps of one pool in one block leave different snapshots in the two delivery orders: the log
delivered last wins, not the one of the greater log index. -/
theorem last_swap_of_block_wins :
    let s₀ : EngineState :=
      { cache := poolTwoCache, seen := { capacity := 4096 }, checkpoint := { path := [], enabled := false } }
    (⦃fun s _ => ⌜s = s₀⌝⦄ quietEngine.handleBatch [blockSwap 1000 5, blockSwap 3000 4]
      ⦃⇓ _ s _ => ⌜(s.cache.getSnapshot? (Address.ofNat 2)).bind (·.sqrtPrice) = some 3000⌝⦄) ∧
    (⦃fun s _ => ⌜s = s₀⌝⦄ quietEngine.handleBatch [blockSwap 3000 4, blockSwap 1000 5]
      ⦃⇓ _ s _ => ⌜(s.cache.getSnapshot? (Address.ofNat 2)).bind (·.sqrtPrice) = some 1000⌝⦄) := by
  intro s₀
  obtain ⟨late, early, -, distinctIds⟩ := blockSwaps_move
  have written : (blockSwap 1000 5).write = (EventBody.concentratedSwap 1000 7).write ∧
      (blockSwap 3000 4).write = (EventBody.concentratedSwap 3000 7).write :=
    ⟨EventLog.write_of_decode decode_blockSwap_1000_5, EventLog.write_of_decode decode_blockSwap_3000_4⟩
  constructor
  · have run := quietEngine.handleBatch_snapshots [blockSwap 1000 5, blockSwap 3000 4]
      (by simp [late, early]) (by simp [distinctIds]) s₀
    mvcgen [run]
    intro cache
    rw [cache (by simp [s₀])]
    simp [s₀, poolTwoCache, written, PoolSnapshot.advance, PoolSnapshot.admits]
  · have run := quietEngine.handleBatch_snapshots [blockSwap 3000 4, blockSwap 1000 5]
      (by simp [late, early]) (by simp [Ne.symm distinctIds]) s₀
    mvcgen [run]
    intro cache
    rw [cache (by simp [s₀])]
    simp [s₀, poolTwoCache, written, PoolSnapshot.advance, PoolSnapshot.admits]

end FlashArb
