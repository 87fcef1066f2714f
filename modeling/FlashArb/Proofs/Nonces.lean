import Mathlib
import FlashArb.Submit.Nonce

/-! The nonce manager's history, request by request. -/
namespace FlashArb.NonceManager

variable {m : Type → Type} [Monad m] {mgr : NonceManager} {l n : Nat}

theorem next_of_last_some (pending : Address → m (Outcome Nat)) (h : mgr.last = some l) :
    mgr.next pending =
      pure (.ok ((l + 1) % 2 ^ 64), { mgr with last := some ((l + 1) % 2 ^ 64) }) := by
  simp [next, h]

theorem next_of_last_none (pending : Address → m (Outcome Nat)) (h : mgr.last = none) :
    mgr.next pending = pending mgr.account >>= fun r =>
      pure (r.mapError (·.wrap ("seed nonce for " ++ mgr.account.checksum)),
        { mgr with last := r.toOption }) := by
  simp only [next, h]
  congr 1
  funext r
  cases r with
  | error e => cases mgr; subst h; rfl
  | ok seed => rfl

theorem release_eq (mgr : NonceManager) (n : Nat) :
    mgr.release n = if mgr.last = some n then
      (true, { mgr with last := if n = 0 then none else some (n - 1) }) else (false, mgr) := by
  unfold release
  cases h : mgr.last with
  | none => simp
  | some l =>
    by_cases hl : l = n
    · subst hl
      by_cases h0 : l = 0 <;> simp [h0]
    · simp [hl]

/-- A request to the manager. -/
inductive Request where
  | next (answer : Outcome UInt64)
  | release (nonce : Nat)
  | reset
  | last

/-- What a request returns. -/
inductive Reply where
  | assigned (nonce : Nat)
  | seedFailed
  | released (ok : Bool)
  | done
  | last (nonce : Option Nat)
deriving DecidableEq

/-- The chain answering a pending-count query; the state counts the queries. -/
def chain (answer : Outcome UInt64) (_ : Address) : StateM Nat (Outcome Nat) := do
  modify (· + 1)
  return answer.map UInt64.toNat

/-- Serves one request, counting the queries made to the chain. -/
def serve (mgr : NonceManager) : Request → StateM Nat (Reply × NonceManager)
  | .next answer => do
    let (r, mgr') ← mgr.next (chain answer)
    match r with
    | .ok n => return (.assigned n, mgr')
    | .error _ => return (.seedFailed, mgr')
  | .release n => return (.released (mgr.release n).1, (mgr.release n).2)
  | .reset => return (.done, mgr.reset)
  | .last => return (.last mgr.last, mgr)

theorem serve_next_of_last_some (answer : Outcome UInt64) (q : Nat) (h : mgr.last = some l) :
    (mgr.serve (.next answer)).run q =
      pure ((.assigned ((l + 1) % 2 ^ 64), { mgr with last := some ((l + 1) % 2 ^ 64) }), q) := by
  simp [serve, next_of_last_some _ h]

theorem serve_next_of_last_none (answer : Outcome UInt64) (q : Nat) (h : mgr.last = none) :
    (mgr.serve (.next answer)).run q = match answer with
      | .ok seed => pure ((.assigned seed.toNat, { mgr with last := some seed.toNat }), q + 1)
      | .error _ => pure ((.seedFailed, mgr), q + 1) := by
  have unchanged : ({ mgr with last := none } : NonceManager) = mgr := by cases mgr; simp_all
  cases answer <;>
    simp [serve, next_of_last_none _ h, chain, Except.map, Except.mapError, Except.toOption, unchanged]

/-- An epoch of the history: the seed it started from, and the nonces handed out in it and not
rolled back, in the order they were handed out. -/
structure Epoch where
  seed : Nat
  outstanding : List Nat

/-- The manager's last nonce as an epoch has it: the newest outstanding nonce, or the one before the
seed once everything is rolled back; none when the epoch began at zero and holds nothing. -/
def Epoch.top (e : Epoch) : Option Nat :=
  if e.seed + e.outstanding.length = 0 then none else some (e.seed + e.outstanding.length - 1)

/-- The history after a served request: a seeding starts an epoch, a nonce handed out joins
it, one rolled back leaves it, and a reset ends it. -/
def record : Option Epoch → Bool → Request → Reply → Option Epoch
  | _, true, .next _, .assigned n => some ⟨n, [n]⟩
  | some e, false, .next _, .assigned n => some ⟨e.seed, e.outstanding ++ [n]⟩
  | some e, _, .release n, .released true => some ⟨e.seed, e.outstanding.erase n⟩
  | _, _, .reset, _ => none
  | g, _, _, _ => g

/-- The manager agrees with its history: the epoch's outstanding nonces run without a gap from its
seed to its last nonce. -/
def Holds (mgr : NonceManager) : Option Epoch → Prop
  | none => mgr.last = none
  | some e => e.outstanding = List.range' e.seed e.outstanding.length ∧
      e.seed + e.outstanding.length ≤ 2 ^ 64 ∧ mgr.last = e.top

/-- The requests the history covers: not a release while the whole epoch is rolled back, of
the nonce just below the seed, and not a hand-out after nonce `2 ^ 64 - 1`. -/
def Admits : Option Epoch → Request → Prop
  | some e, .release n => e.outstanding = [] → n + 1 ≠ e.seed
  | some e, .next _ => e.seed + e.outstanding.length < 2 ^ 64
  | _, _ => True

instance : (g : Option Epoch) → (req : Request) → Decidable (Admits g req)
  | some e, .release n => inferInstanceAs (Decidable (e.outstanding = [] → n + 1 ≠ e.seed))
  | some e, .next _ => inferInstanceAs (Decidable (e.seed + e.outstanding.length < 2 ^ 64))
  | some _, .reset | some _, .last | none, _ => isTrue trivial

/-- A served request, with the history and the manager on either side of it. -/
structure Served where
  before : Option Epoch
  mgr : NonceManager
  request : Request
  queried : Bool
  reply : Reply
  after : NonceManager

/-- The newest outstanding nonce before a request. -/
def Served.newest (x : Served) : Option Nat := x.before.bind (·.outstanding.getLast?)

/-- What one served request must do: a release succeeds exactly for the newest outstanding
nonce, and a failed seed leaves the manager as it was. -/
def Served.Sound (x : Served) : Prop :=
  (∀ n, x.request = .release n → x.reply = .released (x.newest = some n)) ∧
    (x.reply = .seedFailed → x.after = x.mgr)

/-- Serves the requests in order, keeping the history beside the manager. -/
def serveAll : NonceManager → Option Epoch → List Request →
    StateM Nat (List Served × NonceManager × Option Epoch)
  | mgr, g, [] => return ([], mgr, g)
  | mgr, g, req :: reqs => do
    let q ← get
    let (reply, mgr') ← mgr.serve req
    let queried := (← get) != q
    let (rest, mgr'', g'') ← serveAll mgr' (record g queried req reply) reqs
    return (⟨g, mgr, req, queried, reply, mgr'⟩ :: rest, mgr'', g'')

end FlashArb.NonceManager

namespace FlashArb.NonceManager

theorem erase_range'_last (s k : Nat) : (List.range' s (k + 1)).erase (s + k) = List.range' s k := by
  rw [List.range'_concat, Nat.one_mul, List.erase_append_right _ (by simp), List.erase_cons_head,
    List.append_nil]

variable {g : Option Epoch} {reply : Reply} {mgr' : NonceManager} {q q' : Nat}

theorem holds_range' {s k : Nat} :
    Holds mgr (some ⟨s, List.range' s k⟩) ↔
      s + k ≤ 2 ^ 64 ∧ mgr.last = if s + k = 0 then none else some (s + k - 1) := by
  simp [Holds, Epoch.top]

theorem Holds.epoch {e : Epoch} (h : Holds mgr (some e)) :
    ∃ s k, e = ⟨s, List.range' s k⟩ ∧ Holds mgr (some ⟨s, List.range' s k⟩) := by
  obtain ⟨seed, outstanding⟩ := e
  have hr : outstanding = List.range' seed outstanding.length := h.1
  exact ⟨seed, outstanding.length, by rw [← hr], by rw [← hr]; exact h⟩

theorem release_step (hold : Holds mgr g) (allowed : Admits g (.release n)) :
    Holds (mgr.release n).2 (record g false (.release n) (.released (mgr.release n).1)) ∧
      (mgr.release n).1 = decide (g.bind (·.outstanding.getLast?) = some n) := by
  cases g with
  | none =>
    have last : mgr.last = none := hold
    simp [release_eq, last, record, Holds]
  | some e =>
    obtain ⟨s, k, rfl, hold⟩ := hold.epoch
    obtain ⟨bound, last⟩ := holds_range'.mp hold
    cases k with
    | zero =>
      have notBelow : n + 1 ≠ s := allowed rfl
      have below : mgr.last ≠ some n := by
        intro h
        rw [last] at h
        split at h <;> simp at h
        omega
      simpa [release_eq, below, record] using hold
    | succ j =>
      have newest : (List.range' s (j + 1)).getLast? = some (s + j) := by
        simp [List.getLast?_range']
      by_cases hn : s + j = n
      · subst hn
        have released : mgr.last = some (s + j) := by simp [last]
        refine ⟨?_, by simp [release_eq, released, newest]⟩
        simp only [release_eq, released, if_true, record, erase_range'_last]
        rw [holds_range']
        refine ⟨by omega, ?_⟩
        by_cases h0 : s + j = 0 <;> simp [h0]
      · have kept : mgr.last ≠ some n := by simp [last]; omega
        simp [release_eq, kept, record, newest, hn, hold]

theorem next_step {a : Outcome UInt64} (hold : Holds mgr g) (allowed : Admits g (.next a))
    (hrun : ((mgr.serve (.next a)).run q).run = ((reply, mgr'), q')) :
    Holds mgr' (record g (q' != q) (.next a) reply) ∧ (reply = .seedFailed → mgr' = mgr) := by
  cases hlast : mgr.last with
  | none =>
    rw [serve_next_of_last_none a q hlast] at hrun
    cases a with
    | ok seed =>
      simp only [Id.run_pure, Prod.mk.injEq] at hrun
      obtain ⟨⟨rfl, rfl⟩, rfl⟩ := hrun
      have bound : seed.toNat < 2 ^ 64 := seed.toNat_lt
      have asked : (q + 1 != q) = true := bne_iff_ne.mpr (Nat.succ_ne_self q)
      simp [asked, record, Holds, Epoch.top]
      omega
    | error e =>
      simp only [Id.run_pure, Prod.mk.injEq] at hrun
      obtain ⟨⟨rfl, rfl⟩, rfl⟩ := hrun
      simpa [record] using hold
  | some l =>
    rw [serve_next_of_last_some a q hlast] at hrun
    simp only [Id.run_pure, Prod.mk.injEq] at hrun
    obtain ⟨⟨rfl, rfl⟩, rfl⟩ := hrun
    cases g with
    | none => simp [Holds, hlast] at hold
    | some e =>
      obtain ⟨s, k, rfl, hold⟩ := hold.epoch
      obtain ⟨-, last⟩ := holds_range'.mp hold
      have noWrap : s + k < 2 ^ 64 := by simpa [Admits] using allowed
      have top : l + 1 = s + k := by
        rw [hlast] at last
        split at last <;> simp at last
        omega
      have following : (l + 1) % 2 ^ 64 = s + k := by rw [top]; exact Nat.mod_eq_of_lt noWrap
      have extend : List.range' s k ++ [s + k] = List.range' s (k + 1) := by
        simp [List.range'_concat]
      simp only [following, bne_self_eq_false, record, extend, holds_range']
      simp
      omega

theorem serve_step {req : Request} (hold : Holds mgr g) (allowed : Admits g req)
    (hrun : ((mgr.serve req).run q).run = ((reply, mgr'), q')) :
    Holds mgr' (record g (q' != q) req reply) ∧ Served.Sound ⟨g, mgr, req, q' != q, reply, mgr'⟩ := by
  cases req with
  | next a =>
    obtain ⟨holds, failed⟩ := next_step hold allowed hrun
    exact ⟨holds, by simp, failed⟩
  | release n =>
    simp only [serve, StateT.run_pure, Id.run_pure, Prod.mk.injEq] at hrun
    obtain ⟨⟨rfl, rfl⟩, rfl⟩ := hrun
    obtain ⟨holds, released⟩ := release_step hold allowed
    refine ⟨by simpa using holds, fun k hk => ?_, by simp⟩
    cases hk
    simp only [Served.newest]
    rw [released]
    exact congrArg Reply.released (decide_eq_decide.mpr Iff.rfl)
  | reset =>
    simp only [serve, StateT.run_pure, Id.run_pure, Prod.mk.injEq] at hrun
    obtain ⟨⟨rfl, rfl⟩, rfl⟩ := hrun
    exact ⟨by cases g <;> simp [record, Holds, reset], by simp, by simp⟩
  | last =>
    simp only [serve, StateT.run_pure, Id.run_pure, Prod.mk.injEq] at hrun
    obtain ⟨⟨rfl, rfl⟩, rfl⟩ := hrun
    exact ⟨by cases g <;> simpa [record] using hold, by simp, by simp⟩

theorem serveAll_cons (g : Option Epoch) (req : Request) (reqs : List Request) (q : Nat) :
    ((serveAll mgr g (req :: reqs)).run q).run =
      let r := ((mgr.serve req).run q).run
      let rest := ((serveAll r.1.2 (record g (r.2 != q) req r.1.1) reqs).run r.2).run
      ((⟨g, mgr, req, r.2 != q, r.1.1, r.1.2⟩ :: rest.1.1, rest.1.2), rest.2) := rfl

theorem serveAll_holds (reqs : List Request) :
    ∀ (mgr : NonceManager) (g : Option Epoch) (q : Nat), Holds mgr g →
      (∀ x ∈ ((serveAll mgr g reqs).run q).run.1.1, Admits x.before x.request) →
        Holds ((serveAll mgr g reqs).run q).run.1.2.1 ((serveAll mgr g reqs).run q).run.1.2.2 ∧
          ∀ x ∈ ((serveAll mgr g reqs).run q).run.1.1, x.Sound := by
  induction reqs with
  | nil =>
    intro mgr g q hold _
    exact ⟨hold, by simp [serveAll]⟩
  | cons req reqs ih =>
    intro mgr g q hold admits
    rw [serveAll_cons] at admits ⊢
    dsimp only at admits ⊢
    generalize hrun : ((mgr.serve req).run q).run = r at admits ⊢
    obtain ⟨⟨reply, mgr'⟩, q'⟩ := r
    obtain ⟨hold', sound⟩ := serve_step hold (admits _ List.mem_cons_self) hrun
    obtain ⟨holdEnd, soundRest⟩ :=
      ih mgr' _ q' hold' fun x hx => admits x (List.mem_cons_of_mem _ hx)
    refine ⟨holdEnd, ?_⟩
    intro x hx
    rcases List.mem_cons.mp hx with rfl | hx
    · exact sound
    · exact soundRest x hx

theorem serveAll_next_of_last_some (answers : List (Outcome UInt64)) :
    ∀ (mgr : NonceManager) (l : Nat) (g : Option Epoch) (q : Nat), mgr.last = some l →
      ((serveAll mgr g (answers.map .next)).run q).run.1.1.map (·.reply) =
          (List.range answers.length).map (fun i => .assigned ((l + 1 + i) % 2 ^ 64)) ∧
        ((serveAll mgr g (answers.map .next)).run q).run.2 = q := by
  induction answers with
  | nil => intro mgr l g q _; simp [serveAll]
  | cons a as ih =>
    intro mgr l g q hlast
    rw [List.map_cons, serveAll_cons, serve_next_of_last_some a q hlast]
    obtain ⟨replies, count⟩ := ih { mgr with last := some ((l + 1) % 2 ^ 64) } ((l + 1) % 2 ^ 64)
      (record g (q != q) (.next a) (.assigned ((l + 1) % 2 ^ 64))) q rfl
    refine ⟨?_, count⟩
    simp only [Id.run_pure, List.map_cons, replies, List.length_cons, List.range_succ_eq_map,
      List.map_map, Nat.add_zero]
    congr 1
    refine List.map_congr_left fun i _ => ?_
    simp only [Function.comp_apply, Reply.assigned.injEq]
    omega

theorem serveAll_nexts_of_empty (account : Address) (seed : UInt64)
    (answers : List (Outcome UInt64)) (g : Option Epoch) :
    ((serveAll { account } g (.next (.ok seed) :: answers.map .next)).run 0).run.1.1.map (·.reply) =
        (List.range (answers.length + 1)).map (fun i => .assigned ((seed.toNat + i) % 2 ^ 64)) ∧
      ((serveAll { account } g (.next (.ok seed) :: answers.map .next)).run 0).run.2 = 1 := by
  rw [serveAll_cons, serve_next_of_last_none (.ok seed) 0 rfl]
  obtain ⟨replies, count⟩ :=
    serveAll_next_of_last_some answers { account, last := some seed.toNat } seed.toNat
      (record g (0 + 1 != 0) (.next (.ok seed)) (.assigned seed.toNat)) (0 + 1) rfl
  refine ⟨?_, count⟩
  have bound : seed.toNat < 2 ^ 64 := seed.toNat_lt
  simp only [Id.run_pure, List.map_cons, replies, List.range_succ_eq_map, List.map_map, Nat.add_zero,
    Nat.mod_eq_of_lt bound]
  congr 1
  refine List.map_congr_left fun i _ => ?_
  simp only [Function.comp_apply, Reply.assigned.injEq]
  omega

theorem Holds.nodup {e : Epoch} (h : Holds mgr (some e)) : e.outstanding.Nodup := by
  rw [h.1]
  exact List.nodup_range'

/-- A run of requests on a fresh manager, within its history: the epoch's outstanding nonces run
from its seed each once, a release succeeds exactly for the newest, and a failed seed changes
nothing. -/
theorem nonce_epochs (account : Address) (reqs : List Request)
    (covered : ∀ x ∈ ((serveAll { account } none reqs).run 0).run.1.1, Admits x.before x.request) :
    Holds ((serveAll { account } none reqs).run 0).run.1.2.1
        ((serveAll { account } none reqs).run 0).run.1.2.2 ∧
      (∀ e ∈ ((serveAll { account } none reqs).run 0).run.1.2.2, e.outstanding.Nodup) ∧
      (∀ x ∈ ((serveAll { account } none reqs).run 0).run.1.1, x.Sound) ∧
      ∀ (seed : UInt64) (answers : List (Outcome UInt64)),
        ((serveAll { account } none (.next (.ok seed) :: answers.map .next)).run 0).run.1.1.map
            (·.reply) =
          (List.range (answers.length + 1)).map (fun i => .assigned ((seed.toNat + i) % 2 ^ 64)) ∧
        ((serveAll { account } none (.next (.ok seed) :: answers.map .next)).run 0).run.2 = 1 := by
  obtain ⟨hold, sound⟩ := serveAll_holds reqs { account } none 0 rfl covered
  refine ⟨hold, fun e he => ?_, sound, fun seed answers => serveAll_nexts_of_empty account seed answers none⟩
  cases hg : ((serveAll { account } none reqs).run 0).run.1.2.2 with
  | none => simp [hg] at he
  | some e' =>
    simp only [hg, Option.mem_def, Option.some.injEq] at he
    subst he
    exact (hg ▸ hold).nodup

/-- Two hand-outs from the chain's count of five, the newest given back twice (the second time
refused), a reset and a failed seed. -/
theorem nonce_epochs_five :
    (∀ x ∈ ((serveAll { account := Address.zero } none
        [.next (.ok 5), .next (.ok 9), .release 6, .release 6, .last, .reset,
          .next (.error (Failure.plain "rpc down"))]).run 0).run.1.1, Admits x.before x.request) ∧
      Holds ((serveAll { account := Address.zero } none
          [.next (.ok 5), .next (.ok 9), .release 6, .release 6, .last, .reset,
            .next (.error (Failure.plain "rpc down"))]).run 0).run.1.2.1
        ((serveAll { account := Address.zero } none
          [.next (.ok 5), .next (.ok 9), .release 6, .release 6, .last, .reset,
            .next (.error (Failure.plain "rpc down"))]).run 0).run.1.2.2 := by
  have covered : ∀ x ∈ ((serveAll { account := Address.zero } none
      [.next (.ok 5), .next (.ok 9), .release 6, .release 6, .last, .reset,
        .next (.error (Failure.plain "rpc down"))]).run 0).run.1.1, Admits x.before x.request := by
    decide
  exact ⟨covered, (nonce_epochs _ _ covered).1⟩

/-- Once a whole epoch is rolled back, releasing the nonce below its seed still succeeds, and the
next request hands that nonce out again without asking the chain: without the condition on
releases the epochs break. -/
theorem release_below_seed_accepted :
    ((serveAll { account := Address.zero } none
        [.next (.ok 5), .release 5, .release 4, .next (.ok 5)]).run 0).run.1.1.map (·.reply) =
      [.assigned 5, .released true, .released true, .assigned 4] := by
  decide

end FlashArb.NonceManager
