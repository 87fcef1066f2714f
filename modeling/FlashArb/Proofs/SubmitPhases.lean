import Mathlib
import FlashArb.Submit.Submitter
import FlashArb.Proofs.StateTriples

/-! The phases of a submission as Hoare triples, over any world that answers its calls
(`Submitter.World`). -/
namespace FlashArb

open Std.Do

set_option mvcgen.warning false

/-- A failure raised outside the submitter: it carries neither of the marks of a submission's
own outcome. -/
def Failure.Foreign (f : Failure) : Prop :=
  Mark.timeout ∉ f.marks ∧ Mark.allRoutesFailed ∉ f.marks

/-- Every failure an outcome reports satisfies `Ok`. -/
def FailsIn {α : Type} (Ok : Failure → Prop) : Except Failure α → Prop
  | .error e => Ok e
  | .ok _ => True

@[simp] theorem failsIn_ok {α : Type} (Ok : Failure → Prop) (a : α) :
    FailsIn Ok (.ok a : Except Failure α) := trivial

@[simp] theorem failsIn_error {α : Type} (Ok : Failure → Prop) (e : Failure) :
    FailsIn Ok (.error e : Except Failure α) ↔ Ok e :=
  Iff.rfl

theorem Failure.Foreign.wrap {f : Failure} (h : f.Foreign) (context : String) :
    (f.wrap context).Foreign := h

@[simp] theorem foreign_plain (message : String) : (Failure.plain message).Foreign := by
  simp [Failure.Foreign, Failure.plain]

@[simp] theorem foreign_deadlineExceeded : deadlineExceeded.Foreign := by
  simp [Failure.Foreign, deadlineExceeded]

/-- Whether a deadline has passed when the clock reads `now`. -/
def deadlinePassed (deadline : Option Nat) (now : Nat) : Bool :=
  match deadline with
  | none => false
  | some d => d ≤ now

/-- Whether a send may have let the transaction out: it succeeded, or it failed once its deadline
had passed. -/
def mayHaveLeft {α : Type} (deadline : Option Nat) (result : Outcome α) (now : Nat) : Bool :=
  match result with
  | .ok _ => true
  | .error _ => deadlinePassed deadline now

/-- The stage a receipt ends a submission at. -/
def Receipt.stage (r : Receipt) : Stage := if r.status = 1 then .confirmed else .reverted

/-- The stage a submission without a receipt ends at: timed out once its deadline passed. -/
def Stage.ofFailure (late : Bool) : Stage := if late then .timedOut else .failedAll

namespace Submission

/-- The submission after it went through more stages. -/
def advance (res : Submission) (more : List Stage) : Submission :=
  { res with stages := res.stages ++ more }

@[simp] theorem advance_nil (res : Submission) : res.advance [] = res := by
  simp [advance]

@[simp] theorem advance_advance (res : Submission) (more later : List Stage) :
    (res.advance more).advance later = res.advance (more ++ later) := by
  simp [advance]

/-- The submission ended by the receipt `r`, obtained through `via`. -/
def withReceipt (res : Submission) (r : Receipt) (via : String) : Submission :=
  { res with receipt := some r, via, outcome := some r.stage, stages := res.stages ++ [r.stage] }

/-- The submission ended without a receipt, with its error, from the last failure `cause` and
whether the overall deadline had passed. -/
def withFailure (res : Submission) (cause : Failure) (late : Bool) : Submission × Option Failure :=
  ({ res with outcome := some (Stage.ofFailure late), stages := res.stages ++ [Stage.ofFailure late] },
    some (if late then ⟨"submission timed out: " ++ cause.message, .timeout :: cause.marks⟩
      else ⟨"all submission routes failed: " ++ cause.message, .allRoutesFailed :: cause.marks⟩))

end Submission

/-- The view after relay attempts from relay `j` on, moved by `onRelay` for each, told whether
the transaction may have left through it. -/
def afterRelays {β : Type} (onRelay : Nat → β → Bool → β) : Nat → β → List Bool → β
  | _, v, [] => v
  | j, v, b :: bs => afterRelays onRelay (j + 1) (onRelay j v b) bs

@[simp] theorem afterRelays_nil {β : Type} (onRelay : Nat → β → Bool → β) (j : Nat) (v : β) :
    afterRelays onRelay j v [] = v := rfl

@[simp] theorem afterRelays_cons {β : Type} (onRelay : Nat → β → Bool → β) (j : Nat) (v : β)
    (b : Bool) (bs : List Bool) :
    afterRelays onRelay j v (b :: bs) = afterRelays onRelay (j + 1) (onRelay j v b) bs := rfl

/-- A nonce drawn by the manager `mgr`: one past the last handed out, or, when none was, an
answer of the chain. -/
def NonceManager.Drawn {σ : Type} (mgr : NonceManager) (pending : Address → StateM σ (Outcome Nat))
    (n : Nat) : Prop :=
  (∃ l, mgr.last = some l ∧ n = (l + 1) % 2 ^ 64) ∨
    (mgr.last = none ∧ ∃ q, ((pending mgr.account).run q).run.1 = .ok n)

namespace Submitter

variable {σ β : Type} [LogSink (StateM σ)]

/-- What a submission's proofs assume of its world `σ`, read through a clock and a view. -/
structure World (s : Submitter (StateM σ)) (clock : σ → Nat) (view : σ → β)
    (onSend : β → Bool → β) (onRelay : Nat → β → Bool → β) (Ok : Failure → Prop) : Prop where
  now : ∀ q, (s.backend.now.run q).run = (clock q, q)
  emit : ∀ (e : LogEntry) q, clock ((LogSink.emit e : StateM σ Unit).run q).run.2 = clock q ∧
    view ((LogSink.emit e : StateM σ Unit).run q).run.2 = view q
  estimateGas : ∀ c d q, view ((s.backend.estimateGas c d).run q).run.2 = view q ∧
    FailsIn Ok ((s.backend.estimateGas c d).run q).run.1
  tipCap : ∀ q, view (s.backend.fees.tipCap.run q).run.2 = view q
  feeCap : ∀ tip q, view ((s.backend.fees.feeCap tip).run q).run.2 = view q
  gasPrice : ∀ q, view (s.backend.fees.gasPrice.run q).run.2 = view q
  pendingNonce : ∀ a q, view ((s.backend.pendingNonce a).run q).run.2 = view q ∧
    FailsIn Ok ((s.backend.pendingNonce a).run q).run.1
  send : ∀ raw d q, view ((s.backend.send raw d).run q).run.2 = onSend (view q)
      (mayHaveLeft d ((s.backend.send raw d).run q).run.1 (clock ((s.backend.send raw d).run q).run.2)) ∧
    FailsIn Ok ((s.backend.send raw d).run q).run.1
  receipt : ∀ h d q, view ((s.backend.receipt h d).run q).run.2 = view q
  sleepUntil : ∀ t q, view ((s.backend.sleepUntil t).run q).run.2 = view q
  relay : ∀ (i : Fin s.relays.length) raw d q,
    view (((s.relays.get i).send raw d).run q).run.2 = onRelay i (view q)
      (mayHaveLeft d (((s.relays.get i).send raw d).run q).run.1
        (clock (((s.relays.get i).send raw d).run q).run.2)) ∧
    FailsIn Ok (((s.relays.get i).send raw d).run q).run.1
  wrap : ∀ {e : Failure} (context : String), Ok e → Ok (e.wrap context)
  deadline : Ok deadlineExceeded
  unsigned : Ok (Failure.plain "sign transaction: invalid private key")

/-- How `k` relay attempts from relay `j` on end, for the submission `res` and the run `run`. -/
def RelaysEnded {m : Type → Type} (s : Submitter m) (Ok : Failure → Prop) (j k : Nat) (res : Submission)
    (run : RelayRun) (result : Submission × RelayRun) : Prop :=
  (result.2.done = none ∧ result.1 = res.advance (List.replicate k .relayAttempted) ∧
    (Ok run.lastError → Ok result.2.lastError)) ∨
  ∃ r relay, s.relays[j + k - 1]? = some relay ∧ 0 < k ∧
    result.1 = (res.advance (List.replicate k .relayAttempted)).withReceipt r (redactUrl relay.url) ∧
      result.2.done = some result.1

section RelaysEnded

variable {m : Type → Type} {s : Submitter m} {Ok : Failure → Prop} {res : Submission} {run : RelayRun}

theorem RelaysEnded.receipted {j : Nat} {relay : Relay m} (found : s.relays[j]? = some relay)
    (r : Receipt) {result : Submission × RelayRun}
    (receipted : result.1 = (res.advance [.relayAttempted]).withReceipt r (redactUrl relay.url))
    (done : result.2.done = some result.1) : s.RelaysEnded Ok j 1 res run result :=
  .inr ⟨r, relay, found, Nat.one_pos, receipted, done⟩

theorem RelaysEnded.retry {j k : Nat} {run' : RelayRun} {result : Submission × RelayRun}
    (ended : s.RelaysEnded Ok (j + 1) k (res.advance [.relayAttempted]) run' result)
    (failed : Ok run'.lastError) : s.RelaysEnded Ok j (k + 1) res run result := by
  have stages : (res.advance [.relayAttempted]).advance (List.replicate k .relayAttempted) =
      res.advance (List.replicate (k + 1) .relayAttempted) := by
    rw [Submission.advance_advance, List.singleton_append, ← List.replicate_succ]
  rcases ended with ⟨none, tried, kept⟩ | ⟨r, relay, found, _, receipted, done⟩
  · exact .inl ⟨none, tried.trans stages, fun _ => kept failed⟩
  · refine .inr ⟨r, relay, ?_, Nat.succ_pos k, receipted.trans (by rw [stages]), done⟩
    rwa [show j + (k + 1) - 1 = j + 1 + k - 1 by omega]

end RelaysEnded

/-- How delivering a signed transaction holding `nonce` ends, after `k` relay attempts. -/
def Delivered {m : Type → Type} (s : Submitter m) (Ok : Failure → Prop) (overall : Option Nat)
    (res : Submission) (mgr : NonceManager) (nonce k now : Nat) (left : Bool)
    (result : Submission × Option Failure × NonceManager) : Prop :=
  (k = 0 ∧ result.2 = (none, mgr) ∧
    ∃ r, result.1 = (res.advance [.broadcastAttempted]).withReceipt r "direct") ∨
  (result.2 = (none, mgr) ∧ ∃ r relay, s.relays[k - 1]? = some relay ∧ 0 < k ∧
    result.1 = (res.advance (.broadcastAttempted :: .failedDirect :: List.replicate k .relayAttempted)).withReceipt
      r (redactUrl relay.url)) ∨
  ∃ cause, Ok cause ∧
    (result.1, result.2.1) = (res.advance (.broadcastAttempted :: .failedDirect ::
      List.replicate k .relayAttempted)).withFailure cause (deadlinePassed overall now) ∧
    result.2.2 = if left || isNonceError cause then mgr.reset else (mgr.release nonce).2

/-- How a submission from the manager `mgr` ends under the overall deadline `overall`. -/
def Submitted (s : Submitter (StateM σ)) (Ok : Failure → Prop) (overall : Option Nat)
    (mgr : NonceManager) (now : Nat) (onSend : β → Bool → β) (onRelay : Nat → β → Bool → β) (V V' : β)
    (result : Submission × Option Failure × NonceManager) : Prop :=
  ∃ base : Submission, base.stages = [.built] ∧ base.outcome = none ∧ base.receipt = none ∧
    ((V' = V ∧ result.2.2 = mgr ∧ ∃ cause, Ok cause ∧
        (result.1, result.2.1) = base.withFailure cause (deadlinePassed overall now)) ∨
      ∃ n, mgr.Drawn s.backend.pendingNonce n ∧ base.nonce = n ∧
        ((V' = V ∧ (result.1, result.2.1) = (base.advance [.nonceAssigned]).withFailure
            (Failure.plain "sign transaction: invalid private key") (deadlinePassed overall now) ∧
            result.2.2 = ({ mgr with last := some n }.release n).2) ∨
          ∃ gone lefts, lefts.length ≤ s.relays.length ∧ V' = afterRelays onRelay 0 (onSend V gone) lefts ∧
            s.Delivered Ok overall (base.advance [.nonceAssigned]) { mgr with last := some n } n
              lefts.length now (gone || lefts.any id) result))

variable {s : Submitter (StateM σ)} {clock : σ → Nat} {view : σ → β} {onSend : β → Bool → β}
  {onRelay : Nat → β → Bool → β} {Ok : Failure → Prop}

namespace World

variable (h : s.World clock view onSend onRelay Ok)
include h

theorem now_spec (c : Nat) (V : β) :
    ⦃fun q => ⌜clock q = c ∧ view q = V⌝⦄ s.backend.now ⦃⇓ t q => ⌜t = c ∧ clock q = c ∧ view q = V⌝⦄ :=
  triple_of_run fun q pre => by simpa [h.now q] using pre

theorem emit_spec (e : LogEntry) (c : Nat) (V : β) :
    ⦃fun q => ⌜clock q = c ∧ view q = V⌝⦄ (LogSink.emit e : StateM σ Unit)
      ⦃⇓ _ q => ⌜clock q = c ∧ view q = V⌝⦄ :=
  triple_of_run fun q ⟨hc, hv⟩ => ⟨(h.emit e q).1.trans hc, (h.emit e q).2.trans hv⟩

theorem expired_spec (d : Option Nat) (c : Nat) (V : β) :
    ⦃fun q => ⌜clock q = c ∧ view q = V⌝⦄ s.expired d
      ⦃⇓ b q => ⌜b = deadlinePassed d c ∧ clock q = c ∧ view q = V⌝⦄ := by
  have now := h.now_spec
  unfold expired
  mvcgen [now]
  all_goals grind [deadlinePassed]

theorem ended_spec (overall : Option Nat) (c : Nat) (V : β) :
    ⦃fun q => ⌜clock q = c ∧ view q = V⌝⦄ s.ended overall
      ⦃⇓ r q => ⌜r = (if deadlinePassed overall c then some deadlineExceeded else none) ∧
        clock q = c ∧ view q = V⌝⦄ := by
  have expired := h.expired_spec
  unfold ended
  mvcgen [expired]
  all_goals simp_all

theorem attemptDeadline_spec (timeout : Nat) (overall : Option Nat) (c : Nat) (V : β) :
    ⦃fun q => ⌜clock q = c ∧ view q = V⌝⦄ s.attemptDeadline timeout overall
      ⦃⇓ _ q => ⌜clock q = c ∧ view q = V⌝⦄ := by
  have now := h.now_spec
  unfold attemptDeadline
  mvcgen [now]
  all_goals grind

theorem overallDeadline_spec (c : Nat) (V : β) :
    ⦃fun q => ⌜clock q = c ∧ view q = V⌝⦄ s.overallDeadline
      ⦃⇓ d q => ⌜d = (if 0 < s.config.submitTimeout then some (c + s.config.submitTimeout) else none) ∧
        clock q = c ∧ view q = V⌝⦄ := by
  have now := h.now_spec
  unfold overallDeadline
  mvcgen [now]
  all_goals grind

theorem estimateGas_spec (c : CallMsg) (d : Option Nat) (V : β) :
    ⦃fun q => ⌜view q = V⌝⦄ s.backend.estimateGas c d ⦃⇓ r q => ⌜view q = V ∧ FailsIn Ok r⌝⦄ :=
  triple_of_run fun q pre => ⟨(h.estimateGas c d q).1.trans pre, (h.estimateGas c d q).2⟩

theorem send_spec (raw : Bytes) (d : Option Nat) (V : β) :
    ⦃fun q => ⌜view q = V⌝⦄ s.backend.send raw d
      ⦃⇓ r q => ⌜view q = onSend V (mayHaveLeft d r (clock q)) ∧ FailsIn Ok r⌝⦄ :=
  triple_of_run fun q pre => by
    rw [← pre]
    exact h.send raw d q

theorem relay_spec (i : Fin s.relays.length) (raw : Bytes) (d : Option Nat) (V : β) :
    ⦃fun q => ⌜view q = V⌝⦄ (s.relays.get i).send raw d
      ⦃⇓ r q => ⌜view q = onRelay i V (mayHaveLeft d r (clock q)) ∧ FailsIn Ok r⌝⦄ :=
  triple_of_run fun q pre => by
    rw [← pre]
    exact h.relay i raw d q

theorem waitReceipt_spec (hash : Hash) (deadline : Option Nat) (polls : Nat) (V : β) :
    ⦃fun q => ⌜view q = V⌝⦄ s.waitReceipt hash deadline polls ⦃⇓ r q => ⌜view q = V ∧ FailsIn Ok r⌝⦄ := by
  induction polls generalizing deadline with
  | zero =>
    unfold waitReceipt
    mvcgen
    exact ⟨‹_›, h.deadline⟩
  | succ polls ih =>
    have receipt := fun hash d => keeps_spec (h.receipt hash d)
    have expired := h.expired_spec
    have emit := h.emit_spec
    have now := h.now_spec
    have sleep := fun t => keeps_spec (h.sleepUntil t)
    unfold waitReceipt
    mvcgen [receipt, expired, emit, now, sleep, ih, Log.debug]
    all_goals simp_all [h.deadline]

theorem awaitReceipt_spec (hash : Hash) (deadline : Option Nat) (V : β) :
    ⦃fun q => ⌜view q = V⌝⦄ s.awaitReceipt hash deadline ⦃⇓ r q => ⌜view q = V ∧ FailsIn Ok r⌝⦄ := by
  have wait := h.waitReceipt_spec
  have now := h.now_spec
  unfold awaitReceipt pollBudget
  mvcgen [wait, now]
  all_goals simp_all

theorem waitReceipt_past_deadline
    (polled : ∀ hash d q, clock q ≤ clock ((s.backend.receipt hash d).run q).run.2)
    (slept : ∀ t q, t ≤ clock ((s.backend.sleepUntil t).run q).run.2)
    (hash : Hash) (d : Nat) (polls c : Nat) (enough : d < c + polls * s.config.pollInterval) :
    ⦃fun q => ⌜c ≤ clock q⌝⦄ s.waitReceipt hash (some d) polls
      ⦃⇓ r q => ⌜(∃ receipt, r = .ok receipt) ∨ r = .error deadlineExceeded ∧ d ≤ clock q⌝⦄ := by
  induction polls generalizing c with
  | zero =>
    unfold waitReceipt
    mvcgen
    exact .inr ⟨trivial, by omega⟩
  | succ polls ih =>
    have receipt : ∀ d' c, ⦃fun q => ⌜c ≤ clock q⌝⦄ s.backend.receipt hash d'
        ⦃⇓ _ q => ⌜c ≤ clock q⌝⦄ :=
      fun d' c => triple_of_run fun q pre => pre.trans (polled hash d' q)
    have now : ∀ c, ⦃fun q => ⌜c ≤ clock q⌝⦄ s.backend.now ⦃⇓ t q => ⌜c ≤ t ∧ t = clock q⌝⦄ :=
      fun c => triple_of_run fun q pre => by simpa [h.now q] using pre
    have expired : ∀ c, ⦃fun q => ⌜c ≤ clock q⌝⦄ s.expired (some d) ⦃⇓ _ q => ⌜c ≤ clock q⌝⦄ :=
      fun c => triple_of_run fun q pre => by simpa [expired, h.now q] using pre
    have emit : ∀ e c, ⦃fun q => ⌜c ≤ clock q⌝⦄ (LogSink.emit e : StateM σ Unit)
        ⦃⇓ _ q => ⌜c ≤ clock q⌝⦄ :=
      fun e c => triple_of_run fun q pre => (h.emit e q).1 ▸ pre
    have sleep : ∀ t, ⦃fun _ => ⌜True⌝⦄ s.backend.sleepUntil t ⦃⇓ _ q => ⌜t ≤ clock q⌝⦄ :=
      fun t => triple_of_run fun q _ => slept t q
    unfold waitReceipt
    mvcgen [receipt, now, expired, emit, sleep, ih, Log.debug]
    all_goals first
      | exact .inl ⟨_, rfl⟩
      | exact .inr ⟨trivial, by omega⟩
      | intro q later
        have step := add_one_mul polls s.config.pollInterval
        omega

/-- With a deadline the poll budget never cuts a wait short: it ends with a receipt, or with the
deadline passed. -/
theorem awaitReceipt_past_deadline
    (polled : ∀ hash d q, clock q ≤ clock ((s.backend.receipt hash d).run q).run.2)
    (slept : ∀ t q, t ≤ clock ((s.backend.sleepUntil t).run q).run.2)
    (positive : 0 < s.config.pollInterval) (hash : Hash) (d : Nat) :
    ⦃fun _ => ⌜True⌝⦄ s.awaitReceipt hash (some d)
      ⦃⇓ r q => ⌜(∃ receipt, r = .ok receipt) ∨ r = .error deadlineExceeded ∧ d ≤ clock q⌝⦄ := by
  apply triple_of_run
  intro q _
  have fits := Nat.lt_div_mul_add (a := d - clock q) positive
  have budget : d < clock q + ((d - clock q) / s.config.pollInterval + 2) * s.config.pollInterval := by
    rw [add_mul]
    omega
  have waited := run_of_triple (h.waitReceipt_past_deadline polled slept hash d _ _ budget) q le_rfl
  simpa [awaitReceipt, pollBudget, h.now q] using waited

theorem finish_spec (res : Submission) (r : Receipt) (via : String) (context : List (String × Json))
    (c : Nat) (V : β) :
    ⦃fun q => ⌜clock q = c ∧ view q = V⌝⦄ (finish res r via context : StateM σ Submission)
      ⦃⇓ res' q => ⌜res' = res.withReceipt r via ∧ clock q = c ∧ view q = V⌝⦄ := by
  have emit := h.emit_spec
  unfold finish
  mvcgen [emit, Log.info, Log.error]
  all_goals simp_all [Submission.withReceipt, Receipt.stage]

theorem fail_spec (res : Submission) (overall : Option Nat) (cause : Failure) (c : Nat) (V : β) :
    ⦃fun q => ⌜clock q = c ∧ view q = V⌝⦄ s.fail res overall cause
      ⦃⇓ r q => ⌜r = res.withFailure cause (deadlinePassed overall c) ∧ clock q = c ∧ view q = V⌝⦄ := by
  have emit := h.emit_spec
  have expired := h.expired_spec
  unfold fail
  mvcgen [emit, expired, Log.warn, Log.error]
  all_goals simp_all [Submission.withFailure, Stage.ofFailure]

theorem gasLimit_spec (req : TxRequest) (overall : Option Nat) (V : β) :
    ⦃fun q => ⌜view q = V⌝⦄ s.gasLimit req overall ⦃⇓ r q => ⌜view q = V ∧ FailsIn Ok r⌝⦄ := by
  have now := h.now_spec
  have estimate := h.estimateGas_spec
  unfold gasLimit attemptDeadline
  mvcgen [now, estimate]
  all_goals simp_all [h.wrap]

theorem selectFees_spec (overall : Option Nat) (V : β) :
    ⦃fun q => ⌜view q = V⌝⦄ selectFeesUnder (s.ended overall) s.backend.fees s.feeConfig
      ⦃⇓ r q => ⌜view q = V ∧ FailsIn Ok r⌝⦄ := by
  have tip := keeps_spec h.tipCap
  have cap := fun tip => keeps_spec (h.feeCap tip)
  have price := keeps_spec h.gasPrice
  have emit := fun e => keeps_spec fun q => (h.emit e q).2
  have now := h.now_spec
  unfold selectFeesUnder selectFeesUnder.selectDynamic dynamicFees ended expired
  mvcgen [tip, cap, price, emit, now, Log.warn, Log.error]
  all_goals simp_all [h.deadline]

theorem next_spec (mgr : NonceManager) (V : β) :
    ⦃fun q => ⌜view q = V⌝⦄ mgr.next s.backend.pendingNonce
      ⦃⇓ r q => ⌜view q = V ∧ FailsIn Ok r.1 ∧
        (∀ n, r.1 = .ok n → r.2 = { mgr with last := some n } ∧ mgr.Drawn s.backend.pendingNonce n) ∧
        ∀ e, r.1 = .error e → r.2 = mgr⌝⦄ := by
  have pending : ∀ a V, ⦃fun q => ⌜view q = V⌝⦄ s.backend.pendingNonce a
      ⦃⇓ r q => ⌜view q = V ∧ FailsIn Ok r ∧ ∃ q₀, ((s.backend.pendingNonce a).run q₀).run.1 = r⌝⦄ :=
    fun a _ => triple_of_run fun q pre => ⟨(h.pendingNonce a q).1.trans pre, (h.pendingNonce a q).2, q, rfl⟩
  unfold NonceManager.next
  mvcgen [pending]
  all_goals simp_all [NonceManager.Drawn, h.wrap]

theorem direct_spec (raw : Bytes) (hash : Hash) (context : List (String × Json)) (overall : Option Nat)
    (V : β) :
    ⦃fun q => ⌜view q = V⌝⦄ s.direct raw hash context overall
      ⦃⇓ r q => ⌜(∀ rc, r = .ok rc → view q = onSend V true) ∧
        ∀ gone e, r = .error (gone, e) → view q = onSend V gone ∧ Ok e⌝⦄ := by
  have deadline := h.attemptDeadline_spec
  have send := h.send_spec
  have await := h.awaitReceipt_spec
  have expired := h.expired_spec
  have emit := h.emit_spec
  have now := h.now_spec
  unfold direct attemptDeadline
  mvcgen [now, send, await, expired, emit, Log.warn]
  all_goals simp_all [mayHaveLeft, h.wrap]

theorem relayAttempt_spec (i : Fin s.relays.length) (raw : Bytes) (hash : Hash) (overall : Option Nat)
    (V : β) :
    ⦃fun q => ⌜view q = V⌝⦄ s.relayAttempt (s.relays.get i) raw hash overall
      ⦃⇓ r q => ⌜view q = onRelay i V r.1 ∧ FailsIn Ok r.2⌝⦄ := by
  have relay := h.relay_spec
  have await := h.awaitReceipt_spec
  have expired := h.expired_spec
  have now := h.now_spec
  unfold relayAttempt attemptDeadline
  mvcgen [now, relay, await, expired]
  all_goals simp_all [mayHaveLeft, h.wrap]

theorem tryRelays_spec (raw : Bytes) (context : List (String × Json)) (overall : Option Nat)
    (rs : List (Relay (StateM σ))) :
    ∀ j, s.relays.drop j = rs → ∀ (res : Submission) (run : RelayRun), run.done = none → ∀ V : β,
      ⦃fun q => ⌜view q = V⌝⦄ s.tryRelays raw context overall rs res run
        ⦃⇓ r q => ⌜∃ lefts : List Bool, lefts.length ≤ rs.length ∧
          view q = afterRelays onRelay j V lefts ∧ r.2.broadcast = (run.broadcast || lefts.any id) ∧
          s.RelaysEnded Ok j lefts.length res run r⌝⦄ := by
  induction rs with
  | nil =>
    intro j _ res run fresh V
    unfold tryRelays
    mvcgen
    rename_i q pre
    exact ⟨[], le_refl _, pre, by simp, .inl ⟨fresh, by simp, id⟩⟩
  | cons relay rest ih =>
    intro j hj res run fresh V
    have hlen : j < s.relays.length := by
      have := congrArg List.length hj
      simp at this
      omega
    have hrelay : s.relays.get ⟨j, hlen⟩ = relay := by
      have := congrArg List.head? hj
      simp [List.head?_drop] at this
      simpa [List.getElem?_eq_getElem hlen] using this
    have hrest : s.relays.drop (j + 1) = rest := by
      rw [← List.drop_drop, hj]
      rfl
    have next := ih (j + 1) hrest
    have attempt := h.relayAttempt_spec ⟨j, hlen⟩ raw
    rw [hrelay] at attempt
    have expired := h.expired_spec
    have finish := h.finish_spec
    have emit := h.emit_spec
    rw [tryRelays]
    mvcgen [expired, attempt, finish, emit, next, Log.warn]
    · rename_i q₀ pre _ _ q₁ checked
      exact ⟨[], Nat.zero_le _, by simp_all, by simp, .inl ⟨fresh, by simp, id⟩⟩
    · rename_i q₀ pre _ _ _ _ q₁ checked attempted _ r got q₂ sent₂ _ q₃ finished
      have found : s.relays[j]? = some relay := by
        rw [← hrelay, List.get_eq_getElem, List.getElem?_eq_getElem hlen]
      obtain ⟨receipted, -, moved⟩ := finished
      refine ⟨[attempted.1], by simp, ?_, ?_, RelaysEnded.receipted found r receipted rfl⟩
      · rw [moved, sent₂.1, checked.2.2, pre]
        rfl
      · show (run.broadcast || attempted.1) = _
        simp
    · rename_i q₀ pre _ _ _ _ q₁ checked attempted _ e failed q₂ sent₂ _ q₃ logged result q₄
      rintro ⟨lefts, bound, moved, broadcast, ended⟩
      refine ⟨attempted.1 :: lefts, by simpa using bound, ?_, ?_, ended.retry ?_⟩
      · rw [moved, logged.2, sent₂.1, checked.2.2, pre]
        rfl
      · rw [broadcast]
        show (run.broadcast || attempted.1 || lefts.any id) = _
        simp [Bool.or_assoc]
      · have := sent₂.2
        rw [failed] at this
        exact h.wrap _ this
    · exact fun _ _ _ => trivial

theorem deliver_spec (mgr : NonceManager) (nonce : Nat) (raw : Bytes) (context : List (String × Json))
    (overall : Option Nat) (res : Submission) (V : β) :
    ⦃fun q => ⌜view q = V⌝⦄ s.deliver mgr nonce raw context overall res
      ⦃⇓ r q => ⌜∃ gone lefts, lefts.length ≤ s.relays.length ∧
        view q = afterRelays onRelay 0 (onSend V gone) lefts ∧
        s.Delivered Ok overall res mgr nonce lefts.length (clock q) (gone || lefts.any id) r⌝⦄ := by
  have direct := h.direct_spec
  have relays := h.tryRelays_spec raw context overall s.relays 0 List.drop_zero
  have finish := h.finish_spec
  have fail := h.fail_spec
  unfold deliver
  mvcgen [direct, relays, finish, fail]
  · rename_i _ q₀ pre _ r _ q₁ directed _ q₂ finished
    refine ⟨true, [], Nat.zero_le _, ?_, .inl ⟨rfl, rfl, r, finished.1⟩⟩
    rw [finished.2.2, directed.1 r rfl, pre]
    rfl
  · rename_i _ q₀ pre _ broadcast lastError _ q₁ directed result done found q₂ relayed
    obtain ⟨lefts, bound, moved, -, ended⟩ := relayed
    have ended : s.RelaysEnded Ok 0 lefts.length ((res.advance [.broadcastAttempted]).advance [.failedDirect])
        ⟨broadcast, lastError, none⟩ result := ended
    rcases ended with ⟨none, -, -⟩ | ⟨r, relay, indexed, pos, receipted, finished⟩
    · rw [found] at none
      cases none
    · have same : done = result.1 := Option.some.inj (found.symm.trans finished)
      refine ⟨broadcast, lefts, bound, ?_, .inr (.inl ⟨rfl, r, relay, by simpa using indexed, pos, ?_⟩)⟩
      · rw [moved, (directed.2 broadcast lastError rfl).1, pre]
      · rw [same, receipted]
        simp
  · rename_i _ q₀ pre _ broadcast lastError _ q₁ directed result unfinished q₂ relayed r q₃ concluded
    obtain ⟨lefts, bound, moved, broadcasted, ended⟩ := relayed
    have ended : s.RelaysEnded Ok 0 lefts.length ((res.advance [.broadcastAttempted]).advance [.failedDirect])
        ⟨broadcast, lastError, none⟩ result := ended
    rcases ended with ⟨-, tried, kept⟩ | ⟨_, _, _, _, _, finished⟩
    · refine ⟨broadcast, lefts, bound, ?_,
        .inr (.inr ⟨result.2.lastError, kept (directed.2 broadcast lastError rfl).2, ?_, ?_⟩)⟩
      · rw [concluded.2.2, moved, (directed.2 broadcast lastError rfl).1, pre]
      · rw [Prod.mk.eta, concluded.1, tried, concluded.2.1]
        simp
      · show (if result.2.broadcast || isNonceError result.2.lastError then mgr.reset
          else (mgr.release nonce).2) = _
        rw [broadcasted]
    · rw [unfinished] at finished
      cases finished

theorem deliverSigned_spec (mgr : NonceManager) (nonce gasLimit : Nat) (fees : Fees)
    (overall : Option Nat) (res : Submission) (signature : Option Bytes) (V : β) :
    ⦃fun q => ⌜view q = V⌝⦄ s.deliverSigned mgr nonce gasLimit fees overall res signature
      ⦃⇓ r q => ⌜(view q = V ∧ (r.1, r.2.1) = res.withFailure
            (Failure.plain "sign transaction: invalid private key") (deadlinePassed overall (clock q)) ∧
            r.2.2 = (mgr.release nonce).2) ∨
          ∃ hash gone lefts, lefts.length ≤ s.relays.length ∧
            view q = afterRelays onRelay 0 (onSend V gone) lefts ∧
            s.Delivered Ok overall { res with txHash := hash } mgr nonce lefts.length (clock q)
              (gone || lefts.any id) r⌝⦄ := by
  have fail := h.fail_spec
  have emit := h.emit_spec
  have deliver := h.deliver_spec
  cases signature with
  | none =>
    unfold deliverSigned
    mvcgen [fail]
    rename_i q₀ pre result q₁ failed
    refine .inl ⟨by rw [failed.2.2, pre], ?_⟩
    rw [Prod.mk.eta, failed.1, failed.2.1]
  | some raw =>
    unfold deliverSigned
    mvcgen [emit, deliver, Log.info]
    rename_i _ _ q₀ pre _ q₁ logged result q₂
    rintro ⟨gone, lefts, bound, moved, delivered⟩
    exact .inr ⟨_, gone, lefts, bound, by rw [moved, logged.2, pre], delivered⟩

theorem submit_spec (mgr : NonceManager) (req : TxRequest) (c : Nat) (V : β) :
    ⦃fun q => ⌜clock q = c ∧ view q = V⌝⦄ s.submit mgr req
      ⦃⇓ r q => ⌜s.Submitted Ok (if 0 < s.config.submitTimeout then some (c + s.config.submitTimeout) else none)
        mgr (clock q) onSend onRelay V (view q) r⌝⦄ := by
  have deadline := h.overallDeadline_spec
  have gas := h.gasLimit_spec
  have fees := h.selectFees_spec
  have next := h.next_spec
  have fail := h.fail_spec
  have deliver := h.deliverSigned_spec
  unfold submit
  mvcgen [deadline, gas, fees, next, fail, deliver]
  · rename_i q₀ pre overall q₁ timed _ e _ q₂ estimated result q₃ concluded
    refine ⟨{}, rfl, rfl, rfl, .inl ⟨?_, rfl, e, estimated.2, ?_⟩⟩
    · rw [concluded.2.2, estimated.1, timed.2.2, pre.2]
    · rw [Prod.mk.eta, concluded.1, concluded.2.1, timed.1, pre.1]
  · rename_i q₀ pre overall q₁ timed _ units _ q₂ estimated _ e _ q₃ priced result q₄ concluded
    refine ⟨{ gasLimit := units }, rfl, rfl, rfl, .inl ⟨?_, rfl, e.wrap "select fees", h.wrap _ priced.2, ?_⟩⟩
    · rw [concluded.2.2, priced.1, estimated.1, timed.2.2, pre.2]
    · rw [Prod.mk.eta, concluded.1, concluded.2.1, timed.1, pre.1]
  · rename_i q₀ pre overall q₁ timed _ units _ q₂ estimated _ fees _ res q₃ priced drawn e failed q₄ nexted
      result q₅ concluded
    have seedFailed := nexted.2.1
    rw [failed] at seedFailed
    refine ⟨res, rfl, rfl, rfl, .inl ⟨?_, nexted.2.2.2 e failed, e, seedFailed, ?_⟩⟩
    · rw [concluded.2.2, nexted.1, priced.1, estimated.1, timed.2.2, pre.2]
    · rw [Prod.mk.eta, concluded.1, concluded.2.1, timed.1, pre.1]
  · rename_i q₀ pre overall q₁ timed _ units _ q₂ estimated _ fees _ res q₃ priced drawn n assigned q₄ nexted
      result q₅
    obtain ⟨manager, fromCount⟩ := nexted.2.2.1 n assigned
    have start : view q₄ = V := by rw [nexted.1, priced.1, estimated.1, timed.2.2, pre.2]
    have deadline : overall = if 0 < s.config.submitTimeout then some (c + s.config.submitTimeout) else none := by
      rw [timed.1, pre.1]
    subst deadline
    rw [manager, start]
    rintro (⟨unchanged, unsigned, released⟩ | ⟨hash, gone, lefts, bound, moved, delivered⟩)
    · exact ⟨{ res with nonce := n }, rfl, rfl, rfl,
        .inr ⟨n, fromCount, rfl, .inl ⟨unchanged, unsigned, released⟩⟩⟩
    · exact ⟨{ res with nonce := n, txHash := hash }, rfl, rfl, rfl,
        .inr ⟨n, fromCount, rfl, .inr ⟨gone, lefts, bound, moved, delivered⟩⟩⟩

end World

end Submitter

end FlashArb
