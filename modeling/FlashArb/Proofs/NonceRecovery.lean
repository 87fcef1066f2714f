import Mathlib
import FlashArb.Proofs.Nonces
import FlashArb.Proofs.SubmitPhases

/-! What a failed submission leaves of the nonce count, in a world that counts the sends after
which the transaction may have left (`Submitter.Departures`). -/
namespace FlashArb

/-- `e` is what a submission reports when it ends on `cause` without a receipt: all routes
failed, or the overall deadline passed. -/
def Failure.Reports (e cause : Failure) : Prop :=
  e = ⟨"all submission routes failed: " ++ cause.message, .allRoutesFailed :: cause.marks⟩ ∨
    e = ⟨"submission timed out: " ++ cause.message, .timeout :: cause.marks⟩

theorem Submission.reports_withFailure {res : Submission} {cause e : Failure} {late : Bool}
    (h : (res.withFailure cause late).2 = some e) : e.Reports cause := by
  cases late <;> simp_all [Submission.withFailure, Failure.Reports]

theorem afterRelays_count (j D : Nat) (lefts : List Bool) :
    afterRelays (fun _ D b => D + b.toNat) j D lefts = D + lefts.count true := by
  induction lefts generalizing j D with
  | nil => simp
  | cons b bs ih =>
    rw [afterRelays_cons, ih, List.count_cons]
    cases b with
    | false => simp
    | true =>
      simp
      omega

theorem decide_lt_departed (D : Nat) (gone : Bool) (lefts : List Bool) :
    decide (D < D + gone.toNat + lefts.count true) = (gone || lefts.any id) := by
  have any : (lefts.any id = true) ↔ 0 < lefts.count true := by
    simp [List.count_pos_iff]
  cases gone <;> by_cases some : lefts.any id = true <;> simp_all <;> omega

/-- What a submission that started from the manager `mgr` leaves of it, when it ends with `res`,
`err` and the manager `mgr'`; `left` says whether the transaction may have left. -/
structure NonceSettled (mgr : NonceManager) (res : Submission) (err : Option Failure)
    (mgr' : NonceManager) (left : Bool) : Prop where
  /-- A submission that ends before a nonce is assigned leaves the manager as it was. -/
  unassigned : Stage.nonceAssigned ∉ res.stages → mgr' = mgr
  /-- One that fails after forgets the count when the transaction may have left or the failure it
  reports mentions the nonce, and steps the count back below its nonce otherwise. -/
  failed : Stage.nonceAssigned ∈ res.stages → ∀ e, err = some e → ∃ cause, e.Reports cause ∧
    mgr' = { mgr with last := if left || isNonceError cause then none
      else if res.nonce = 0 then none else some (res.nonce - 1) }
  /-- A count stepped back hands out the same nonce again, without asking the chain. -/
  reissued : Stage.nonceAssigned ∈ res.stages → err ≠ none → mgr'.last ≠ none →
    ∀ {m : Type → Type} [Monad m] (pending : Address → m (Outcome Nat)),
      mgr'.next pending = pure (.ok res.nonce, { mgr' with last := some res.nonce })

namespace NonceSettled

variable {mgr mgr' : NonceManager} {res : Submission} {err : Option Failure} {left : Bool}

theorem of_unassigned (unassigned : Stage.nonceAssigned ∉ res.stages) (kept : mgr' = mgr) :
    NonceSettled mgr res err mgr' left :=
  ⟨fun _ => kept, fun assigned => absurd assigned unassigned,
    fun assigned => absurd assigned unassigned⟩

theorem of_assigned {n : Nat} (bound : n < 2 ^ 64) (assigned : Stage.nonceAssigned ∈ res.stages)
    (nonce : res.nonce = n)
    (failed : ∀ e, err = some e → ∃ cause, e.Reports cause ∧
      mgr' = if left || isNonceError cause then ({ mgr with last := some n } : NonceManager).reset
        else (({ mgr with last := some n } : NonceManager).release n).2) :
    NonceSettled mgr res err mgr' left where
  unassigned unassigned := absurd assigned unassigned
  failed _ e reported := by
    obtain ⟨cause, reports, settled⟩ := failed e reported
    refine ⟨cause, reports, ?_⟩
    rw [settled, nonce]
    by_cases forgot : (left || isNonceError cause) = true
    · simp [forgot, NonceManager.reset]
    · simp [forgot, NonceManager.release_eq]
  reissued _ failing kept m _ pending := by
    obtain ⟨e, reported⟩ := Option.ne_none_iff_exists'.mp failing
    obtain ⟨cause, -, settled⟩ := failed e reported
    have rolled : mgr'.last = if n = 0 then none else some (n - 1) := by
      by_cases forgot : (left || isNonceError cause) = true
      · simp [settled, forgot, NonceManager.reset] at kept
      · simp [settled, forgot, NonceManager.release_eq]
    have positive : n ≠ 0 := fun zero => kept (by simp [rolled, zero])
    rw [if_neg positive] at rolled
    rw [NonceManager.next_of_last_some pending rolled, Nat.sub_add_cancel (Nat.pos_of_ne_zero positive),
      Nat.mod_eq_of_lt bound, nonce]

end NonceSettled

/-- A world that counts in `departed` the sends after which the transaction may have left: one
to the node or through a relay that succeeded, or that failed once its deadline had passed. -/
abbrev Submitter.Departures {σ : Type} [LogSink (StateM σ)] (s : Submitter (StateM σ)) (clock : σ → Nat)
    (departed : σ → Nat) : Prop :=
  s.World clock departed (fun D b => D + b.toNat) (fun _ D b => D + b.toNat) fun _ => True

theorem drawn_lt {σ : Type} {pending : Address → StateM σ (Outcome Nat)} {mgr : NonceManager} {n : Nat}
    (fits : ∀ a q n, ((pending a).run q).run.1 = .ok n → n < 2 ^ 64) (drawn : mgr.Drawn pending n) :
    n < 2 ^ 64 := by
  rcases drawn with ⟨l, -, rfl⟩ | ⟨-, q, answered⟩
  · exact Nat.mod_lt _ (by decide)
  · exact fits _ q n answered

theorem settled_of_submitted {σ : Type} {s : Submitter (StateM σ)} {overall : Option Nat}
    {mgr : NonceManager} {now D D' : Nat} {result : Submission × Option Failure × NonceManager}
    (fits : ∀ a q n, ((s.backend.pendingNonce a).run q).run.1 = .ok n → n < 2 ^ 64)
    (submitted : s.Submitted (fun _ => True) overall mgr now (fun D b => D + b.toNat)
      (fun _ D b => D + b.toNat) D D' result) :
    NonceSettled mgr result.1 result.2.1 result.2.2 (decide (D < D')) := by
  obtain ⟨base, built, -, -, ended⟩ := submitted
  rcases ended with ⟨-, kept, cause, -, ended⟩ | ⟨n, drawn, nonce, ⟨rfl, ended, released⟩ | ⟨gone, lefts, -, rfl, ended⟩⟩
  · simp only [Prod.ext_iff] at ended
    refine .of_unassigned ?_ kept
    rw [ended.1]
    cases deadlinePassed overall now <;> simp [Submission.withFailure, Stage.ofFailure, built]
  · simp only [Prod.ext_iff] at ended
    refine .of_assigned (drawn_lt fits drawn) (by simp [ended.1, Submission.withFailure, Submission.advance, built])
      (by simp [ended.1, Submission.withFailure, Submission.advance, nonce]) fun e failed => ?_
    refine ⟨_, Submission.reports_withFailure (ended.2 ▸ failed), ?_⟩
    have unsigned : isNonceError (Failure.plain "sign transaction: invalid private key") = false := by
      decide
    simp [released, unsigned]
  · rw [afterRelays_count, decide_lt_departed]
    rcases ended with ⟨-, settled, r, receipted⟩ | ⟨settled, r, relay, -, -, receipted⟩ | ⟨cause, -, ended, manager⟩
    · refine .of_assigned (drawn_lt fits drawn) ?_ ?_ fun e failed => ?_
      · simp [receipted, Submission.withReceipt, Submission.advance, built]
      · simp [receipted, Submission.withReceipt, Submission.advance, nonce]
      · simp [settled] at failed
    · refine .of_assigned (drawn_lt fits drawn) ?_ ?_ fun e failed => ?_
      · simp [receipted, Submission.withReceipt, Submission.advance, built]
      · simp [receipted, Submission.withReceipt, Submission.advance, nonce]
      · simp [settled] at failed
    · simp only [Prod.ext_iff] at ended
      refine .of_assigned (drawn_lt fits drawn) ?_ ?_ fun e failed => ⟨cause, ?_, manager⟩
      · simp [ended.1, Submission.withFailure, Submission.advance, built]
      · simp [ended.1, Submission.withFailure, Submission.advance, nonce]
      · exact Submission.reports_withFailure (ended.2 ▸ failed)

variable {σ : Type} [LogSink (StateM σ)] {s : Submitter (StateM σ)} {clock departed : σ → Nat}

/-- A submission leaves its nonce manager settled: unchanged before a nonce is assigned; after a
failure, the nonce forgotten exactly when it may have left or is reported, else stepped back. -/
theorem submission_settles_nonce (h : s.Departures clock departed)
    (fits : ∀ a q n, ((s.backend.pendingNonce a).run q).run.1 = .ok n → n < 2 ^ 64)
    (mgr : NonceManager) (req : TxRequest) (q : σ) :
    NonceSettled mgr ((s.submit mgr req).run q).run.1.1 ((s.submit mgr req).run q).run.1.2.1
      ((s.submit mgr req).run q).run.1.2.2
      (decide (departed q < departed ((s.submit mgr req).run q).run.2)) :=
  settled_of_submitted fits
    (run_of_triple (Submitter.World.submit_spec h mgr req (clock q) (departed q)) q ⟨rfl, rfl⟩)

/-- A node that refuses the transaction for its nonce and a relay that cannot be reached. -/
def staleNonceSubmitter : Submitter (StateM (Nat × Nat)) where
  backend :=
    { estimateGas := fun _ _ => pure (.ok 400000)
      fees := ⟨pure (.ok 1000000000), fun _ => pure (.ok 3000000000), pure (.ok 2000000000)⟩
      pendingNonce := fun _ => pure (.ok 5)
      send := fun _ d => do
        modify fun q => (q.1, q.2 + (deadlinePassed d q.1).toNat)
        return .error (Failure.plain "nonce too low")
      receipt := fun _ _ => pure (.error (Failure.plain "not found"))
      now := do return (← get).1
      sleepUntil := fun t => modify fun q => (max q.1 t, q.2) }
  relays := [{ url := "https://relay-a.example", send := fun _ d => do
    modify fun q => (q.1, q.2 + (deadlinePassed d q.1).toNat)
    return .error (Failure.plain "connection reset") }]
  feeConfig := {}
  secret := 1
  sender := Address.zero
  config := { chainId := 10, receiptTimeout := 30, relayTimeout := 30, pollInterval := 5 }

theorem stale_nonce_submission_settles :
    staleNonceSubmitter.Departures Prod.fst Prod.snd ∧
      (∀ a q n, ((staleNonceSubmitter.backend.pendingNonce a).run q).run.1 = .ok n → n < 2 ^ 64) ∧
      NonceSettled { account := Address.zero }
        ((staleNonceSubmitter.submit { account := Address.zero } ⟨Address.zero, []⟩).run (0, 0)).run.1.1
        ((staleNonceSubmitter.submit { account := Address.zero } ⟨Address.zero, []⟩).run (0, 0)).run.1.2.1
        ((staleNonceSubmitter.submit { account := Address.zero } ⟨Address.zero, []⟩).run (0, 0)).run.1.2.2
        (decide (0 < ((staleNonceSubmitter.submit { account := Address.zero } ⟨Address.zero, []⟩).run
          (0, 0)).run.2.2)) := by
  have departures : staleNonceSubmitter.Departures Prod.fst Prod.snd :=
    { now := fun _ => rfl
      emit := fun _ _ => ⟨rfl, rfl⟩
      estimateGas := fun _ _ _ => ⟨rfl, trivial⟩
      tipCap := fun _ => rfl
      feeCap := fun _ _ => rfl
      gasPrice := fun _ => rfl
      pendingNonce := fun _ _ => ⟨rfl, trivial⟩
      receipt := fun _ _ _ => rfl
      sleepUntil := fun _ _ => rfl
      send := fun _ _ _ => ⟨rfl, trivial⟩
      relay := fun ⟨0, _⟩ _ _ _ => ⟨rfl, trivial⟩
      wrap := fun _ _ => trivial
      deadline := trivial
      unsigned := trivial }
  have fits : ∀ a q n, ((staleNonceSubmitter.backend.pendingNonce a).run q).run.1 = .ok n →
      n < 2 ^ 64 := by
    intro _ _ n seeded
    cases seeded
    decide
  exact ⟨departures, fits, submission_settles_nonce departures fits _ _ (0, 0)⟩

end FlashArb
