import Mathlib
import FlashArb.Proofs.SubmitPhases

/-! The stages a submission goes through, and how it ends. -/
namespace FlashArb

/-- A stage that ends a submission with a receipt. -/
def Stage.Receipted (t : Stage) : Prop := t = .confirmed ∨ t = .reverted

/-- A stage that ends a submission without a receipt. -/
def Stage.Failed (t : Stage) : Prop := t = .timedOut ∨ t = .failedAll

/-- The words of stages a finished submission through `n` relays can go through. -/
inductive StageWord (n : Nat) : List Stage → Prop
  | unassigned {t : Stage} : t.Failed → StageWord n [.built, t]
  | unsent {t : Stage} : t.Failed → StageWord n [.built, .nonceAssigned, t]
  | direct {t : Stage} : t.Receipted → StageWord n [.built, .nonceAssigned, .broadcastAttempted, t]
  | relayed {k : Nat} {t : Stage} : k ≤ n → t.Receipted ∨ t.Failed →
      StageWord n ([.built, .nonceAssigned, .broadcastAttempted, .failedDirect] ++
        List.replicate k .relayAttempted ++ [t])

theorem Receipt.stage_receipted (r : Receipt) : r.stage.Receipted := by
  unfold Receipt.stage Stage.Receipted
  split <;> simp

theorem Stage.ofFailure_failed (late : Bool) : (Stage.ofFailure late).Failed := by
  unfold Stage.ofFailure Stage.Failed
  split <;> simp

theorem Stage.Receipted.ne_relayAttempted {t : Stage} (h : t.Receipted) : t ≠ .relayAttempted := by
  rcases h with rfl | rfl <;> decide

theorem Stage.Failed.ne_relayAttempted {t : Stage} (h : t.Failed) : t ≠ .relayAttempted := by
  rcases h with rfl | rfl <;> decide

theorem deadlinePassed_overall (timeout start stop : Nat) :
    deadlinePassed (if 0 < timeout then some (start + timeout) else none) stop = true ↔
      0 < timeout ∧ start + timeout ≤ stop := by
  by_cases positive : 0 < timeout <;> simp [deadlinePassed, positive]

/-- What the end of a submission decides. -/
structure Ends (res : Submission) (err : Option Failure) (late : Prop) : Prop where
  outcome_last : res.outcome = res.stages.getLast?
  ok_iff_receipted : err = none ↔ ∃ t, res.outcome = some t ∧ t.Receipted
  receipt_iff_ok : res.receipt.isSome ↔ err = none
  confirmed_iff : res.outcome = some .confirmed ↔ ∃ r, res.receipt = some r ∧ r.status = 1
  timeout_iff : (∃ e, err = some e ∧ Mark.timeout ∈ e.marks) ↔ res.outcome = some .timedOut
  routes_iff : (∃ e, err = some e ∧ Mark.allRoutesFailed ∈ e.marks) ↔ res.outcome = some .failedAll
  timedOut_iff : res.outcome = some .timedOut ↔ err.isSome ∧ late

namespace Ends

variable {late : Prop}

theorem withReceipt (base : Submission) (r : Receipt) (via : String) :
    Ends (base.withReceipt r via) none late where
  outcome_last := by simp [Submission.withReceipt]
  ok_iff_receipted := by simpa [Submission.withReceipt] using r.stage_receipted
  receipt_iff_ok := by simp [Submission.withReceipt]
  confirmed_iff := by
    unfold Submission.withReceipt Receipt.stage
    split <;> simp_all
  timeout_iff := by
    unfold Submission.withReceipt Receipt.stage
    split <;> simp
  routes_iff := by
    unfold Submission.withReceipt Receipt.stage
    split <;> simp
  timedOut_iff := by
    unfold Submission.withReceipt Receipt.stage
    split <;> simp

theorem withFailure {base : Submission} (none : base.receipt = none) {cause : Failure}
    (foreign : cause.Foreign) (passed : Bool) (hlate : passed = true ↔ late) :
    Ends (base.withFailure cause passed).1 (base.withFailure cause passed).2 late := by
  obtain ⟨noTimeout, noRoutes⟩ := foreign
  cases passed with
  | true =>
    constructor <;>
      simp_all [Submission.withFailure, Stage.ofFailure, Stage.Receipted]
  | false =>
    constructor <;>
      simp_all [Submission.withFailure, Stage.ofFailure, Stage.Receipted]

end Ends

/-- Everything a finished submission through the relays of `s` satisfies, from clock `start` to
`stop`. -/
structure Concluded {m : Type → Type} (s : Submitter m) (res : Submission) (err : Option Failure)
    (start stop : Nat) (before after : List Nat) : Prop
    extends Ends res err (0 < s.config.submitTimeout ∧ start + s.config.submitTimeout ≤ stop) where
  word : StageWord s.relays.length res.stages
  relays_in_order : after = before ++ List.range (res.stages.count .relayAttempted)
  route : res.receipt.isSome →
    (res.stages.count .relayAttempted = 0 ∧ res.via = "direct") ∨
      ∃ k relay, res.stages.count .relayAttempted = k + 1 ∧ s.relays[k]? = some relay ∧
        res.via = redactUrl relay.url

/-- A world whose failures are foreign and that records in `sent` the relays sent to, in order. -/
abbrev Submitter.Scripted {σ : Type} [LogSink (StateM σ)] (s : Submitter (StateM σ)) (clock : σ → Nat)
    (sent : σ → List Nat) : Prop :=
  s.World clock sent (fun L _ => L) (fun i L _ => L ++ [i]) Failure.Foreign

theorem afterRelays_record (j : Nat) (L : List Nat) (lefts : List Bool) :
    afterRelays (fun i L _ => L ++ [i]) j L lefts = L ++ List.range' j lefts.length := by
  induction lefts generalizing j L with
  | nil => simp
  | cons b bs ih => simp [ih, List.range'_succ]

theorem concluded_of_submitted {σ : Type} {s : Submitter (StateM σ)} {mgr : NonceManager}
    {start stop : Nat} {before after : List Nat} {result : Submission × Option Failure × NonceManager}
    (submitted : s.Submitted Failure.Foreign
      (if 0 < s.config.submitTimeout then some (start + s.config.submitTimeout) else none) mgr stop
      (fun L _ => L) (fun i L _ => L ++ [i]) before after result) :
    Concluded s result.1 result.2.1 start stop before after := by
  obtain ⟨base, built, -, unreceipted, ended⟩ := submitted
  have late := deadlinePassed_overall s.config.submitTimeout start stop
  have failed := Stage.ofFailure_failed
    (deadlinePassed (if 0 < s.config.submitTimeout then some (start + s.config.submitTimeout) else none) stop)
  rcases ended with ⟨rfl, -, cause, foreign, ended⟩ | ⟨n, -, -, ⟨rfl, ended, -⟩ | ⟨gone, lefts, bound, rfl, ended⟩⟩
  · simp only [Prod.ext_iff] at ended
    rw [ended.1, ended.2]
    exact {
      toEnds := Ends.withFailure unreceipted foreign _ late
      word := by simpa [Submission.withFailure, built] using StageWord.unassigned failed
      relays_in_order := by simp [Submission.withFailure, built, failed.ne_relayAttempted]
      route := by simp [Submission.withFailure, unreceipted] }
  · simp only [Prod.ext_iff] at ended
    rw [ended.1, ended.2]
    exact {
      toEnds := Ends.withFailure (by simpa [Submission.advance] using unreceipted) (foreign_plain _) _ late
      word := by simpa [Submission.withFailure, Submission.advance, built] using StageWord.unsent failed
      relays_in_order := by
        simp [Submission.withFailure, Submission.advance, built, failed.ne_relayAttempted]
      route := by simp [Submission.withFailure, Submission.advance, unreceipted] }
  · rw [afterRelays_record, List.range_eq_range'.symm]
    generalize lefts.length = k at bound ended
    rcases ended with ⟨rfl, settled, r, receipted⟩ | ⟨settled, r, relay, indexed, pos, receipted⟩ |
      ⟨cause, foreign, ended, -⟩
    · rw [receipted, show result.2.1 = none by rw [settled]]
      exact {
        toEnds := Ends.withReceipt _ r "direct"
        word := by
          simpa [Submission.withReceipt, Submission.advance, built] using
            StageWord.direct (n := s.relays.length) r.stage_receipted
        relays_in_order := by
          simp [Submission.withReceipt, Submission.advance, built, r.stage_receipted.ne_relayAttempted]
        route := fun _ => .inl ⟨by
          simp [Submission.withReceipt, Submission.advance, built, r.stage_receipted.ne_relayAttempted],
          rfl⟩ }
    · obtain ⟨j, rfl⟩ : ∃ j, k = j + 1 := ⟨k - 1, by omega⟩
      have count : (((base.advance [.nonceAssigned]).advance (.broadcastAttempted :: .failedDirect ::
          List.replicate (j + 1) .relayAttempted)).withReceipt r (redactUrl relay.url)).stages.count
          .relayAttempted = j + 1 := by
        simp [Submission.withReceipt, Submission.advance, built, r.stage_receipted.ne_relayAttempted]
      rw [receipted, show result.2.1 = none by rw [settled]]
      exact {
        toEnds := Ends.withReceipt _ r _
        word := by
          simpa [Submission.withReceipt, Submission.advance, built] using
            StageWord.relayed bound (.inl r.stage_receipted)
        relays_in_order := by rw [count]
        route := fun _ => .inr ⟨j, relay, count, by simpa using indexed, rfl⟩ }
    · simp only [Prod.ext_iff] at ended
      rw [ended.1, ended.2]
      exact {
        toEnds := Ends.withFailure (by simpa [Submission.advance] using unreceipted) foreign _ late
        word := by
          simpa [Submission.withFailure, Submission.advance, built] using
            StageWord.relayed bound (.inr failed)
        relays_in_order := by
          simp [Submission.withFailure, Submission.advance, built, failed.ne_relayAttempted]
        route := by simp [Submission.withFailure, Submission.advance, unreceipted] }

section Run

variable {σ : Type} [LogSink (StateM σ)] {s : Submitter (StateM σ)} {clock : σ → Nat}
  {sent : σ → List Nat}

/-- Every submission concludes, whatever the chain and relays answer: its stages form a word of the
submission language, it timed out exactly when its deadline passed, and it sent to the first
relays in order. -/
theorem submission_concludes (h : s.Scripted clock sent) (mgr : NonceManager) (req : TxRequest)
    (q : σ) :
    Concluded s ((s.submit mgr req).run q).run.1.1 ((s.submit mgr req).run q).run.1.2.1 (clock q)
      (clock ((s.submit mgr req).run q).run.2) (sent q) (sent ((s.submit mgr req).run q).run.2) :=
  concluded_of_submitted (run_of_triple (Submitter.World.submit_spec h mgr req (clock q) (sent q)) q ⟨rfl, rfl⟩)

end Run

/-- A world of a clock and a record of relay sends, where the node refuses the transaction and
the one relay takes it, after which its receipt is found. -/
def relayedSubmitter : Submitter (StateM (Nat × List Nat)) where
  backend :=
    { estimateGas := fun _ _ => pure (.ok 21000)
      fees := ⟨pure (.ok 1), fun _ => pure (.ok 2), pure (.ok 2)⟩
      pendingNonce := fun _ => pure (.ok 7)
      send := fun _ _ => pure (.error (Failure.plain "connection reset"))
      receipt := fun _ _ q =>
        (if q.2.isEmpty then .error (Failure.plain "not found") else .ok { status := 1 }, q)
      now := do return (← get).1
      sleepUntil := fun t => modify fun q => (max q.1 t, q.2) }
  relays := [{ url := "https://relay.example/rpc", send := fun _ _ => do
    modify fun q => (q.1, q.2 ++ [0])
    return .ok Hash.zero }]
  feeConfig := {}
  secret := 1
  sender := Address.zero
  config := { chainId := 1, receiptTimeout := 30, relayTimeout := 30, pollInterval := 5 }

theorem relayed_submission_concludes :
    relayedSubmitter.Scripted Prod.fst Prod.snd ∧
      Concluded relayedSubmitter
        ((relayedSubmitter.submit { account := Address.zero } ⟨Address.zero, []⟩).run (0, [])).run.1.1
        ((relayedSubmitter.submit { account := Address.zero } ⟨Address.zero, []⟩).run (0, [])).run.1.2.1 0
        ((relayedSubmitter.submit { account := Address.zero } ⟨Address.zero, []⟩).run (0, [])).run.2.1 []
        ((relayedSubmitter.submit { account := Address.zero } ⟨Address.zero, []⟩).run (0, [])).run.2.2 := by
  have scripted : relayedSubmitter.Scripted Prod.fst Prod.snd :=
    { now := fun _ => rfl
      emit := fun _ _ => ⟨rfl, rfl⟩
      estimateGas := fun _ _ _ => ⟨rfl, trivial⟩
      tipCap := fun _ => rfl
      feeCap := fun _ _ => rfl
      gasPrice := fun _ => rfl
      pendingNonce := fun _ _ => ⟨rfl, trivial⟩
      send := fun _ _ _ => ⟨rfl, foreign_plain _⟩
      receipt := fun _ _ _ => rfl
      sleepUntil := fun _ _ => rfl
      relay := fun ⟨0, _⟩ _ _ _ => ⟨rfl, trivial⟩
      wrap := fun context foreign => foreign.wrap context
      deadline := foreign_deadlineExceeded
      unsigned := foreign_plain _ }
  exact ⟨scripted, submission_concludes scripted _ _ (0, [])⟩

end FlashArb
