import Mathlib
import FlashArb.Log
import FlashArb.Measure

/-! Hoare triples over a state monad, read as facts about runs. -/
namespace FlashArb

open Std.Do

variable {σ α : Type}

theorem triple_of_run {x : StateM σ α} {P : σ → Prop} {Q : α → σ → Prop}
    (h : ∀ q, P q → Q (x.run q).run.1 (x.run q).run.2) : ⦃fun q => ⌜P q⌝⦄ x ⦃⇓ a q => ⌜Q a q⌝⦄ := by
  intro q hq
  simpa [wp] using h q hq

theorem run_of_triple {x : StateM σ α} {P : σ → Prop} {Q : α → σ → Prop}
    (h : ⦃fun q => ⌜P q⌝⦄ x ⦃⇓ a q => ⌜Q a q⌝⦄) (q : σ) (hq : P q) :
    Q (x.run q).run.1 (x.run q).run.2 := by
  simpa [wp] using h q hq

theorem triple_with_fact {x : StateM σ α} {P : σ → Prop} {Q : α → σ → Prop} {H : Prop}
    (h : H → ⦃fun q => ⌜P q⌝⦄ x ⦃⇓ a q => ⌜Q a q⌝⦄) :
    ⦃fun q => ⌜P q ∧ H⌝⦄ x ⦃⇓ a q => ⌜Q a q⌝⦄ :=
  triple_of_run fun q pre => run_of_triple (h pre.2) q pre.1

theorem keeps_spec {β : Type} {f : σ → β} {x : StateM σ α} (keeps : ∀ q, f (x.run q).run.2 = f q)
    (b : β) : ⦃fun q => ⌜f q = b⌝⦄ x ⦃⇓ _ q => ⌜f q = b⌝⦄ :=
  triple_of_run fun q pre => (keeps q).trans pre

/-- Logging and measuring leave the quantity `obs` of the world alone. -/
structure Quiet [LogSink (StateM σ)] [Recorder (StateM σ)] {β : Type} (obs : σ → β) : Prop where
  emit : ∀ (e : LogEntry) q, obs ((LogSink.emit e : StateM σ Unit).run q).run.2 = obs q
  record : ∀ (x : Measure) q, obs ((Recorder.record x : StateM σ Unit).run q).run.2 = obs q

namespace Quiet

variable [LogSink (StateM σ)] [Recorder (StateM σ)] {β : Type} {obs : σ → β}

theorem emit_spec (h : Quiet obs) (e : LogEntry) (b : β) :
    ⦃fun q => ⌜obs q = b⌝⦄ (LogSink.emit e : StateM σ Unit) ⦃⇓ _ q => ⌜obs q = b⌝⦄ :=
  keeps_spec (h.emit e) b

theorem record_spec (h : Quiet obs) (x : Measure) (b : β) :
    ⦃fun q => ⌜obs q = b⌝⦄ (Recorder.record x : StateM σ Unit) ⦃⇓ _ q => ⌜obs q = b⌝⦄ :=
  keeps_spec (h.record x) b

end Quiet

end FlashArb
