import Mathlib
import FlashArb.Sim.Profit
import FlashArb.Submit.Fees
import FlashArb.Proofs.StateTriples

/-! The gas limit and fees a transaction may pay. -/
namespace FlashArb

open Std.Do

set_option mvcgen.warning false

section GasLimit

variable {estimate bufferPercent floor : Nat}

theorem bufferedGasLimit_eq (word : floor ≤ maxWord64) :
    bufferedGasLimit estimate bufferPercent floor =
      max floor (min maxWord64 (estimate * ((100 + bufferPercent) % 2 ^ 64) / 100)) := by
  unfold bufferedGasLimit
  generalize estimate * ((100 + bufferPercent) % 2 ^ 64) / 100 = limit
  dsimp only
  split_ifs <;> omega

theorem floor_le_bufferedGasLimit (word : floor ≤ maxWord64) :
    floor ≤ bufferedGasLimit estimate bufferPercent floor := by
  rw [bufferedGasLimit_eq word]
  exact le_max_left _ _

theorem bufferedGasLimit_of_lt (word : floor ≤ maxWord64) (fits : 100 + bufferPercent < 2 ^ 64) :
    bufferedGasLimit estimate bufferPercent floor =
      max floor (min maxWord64 (estimate * (100 + bufferPercent) / 100)) := by
  rw [bufferedGasLimit_eq word, Nat.mod_eq_of_lt fits]

theorem le_bufferedGasLimit (word : floor ≤ maxWord64) (fits : 100 + bufferPercent < 2 ^ 64)
    (small : estimate ≤ maxWord64) :
    estimate ≤ bufferedGasLimit estimate bufferPercent floor := by
  have grown : estimate ≤ estimate * (100 + bufferPercent) / 100 := by
    rw [Nat.le_div_iff_mul_le (by norm_num)]
    exact Nat.mul_le_mul_left _ (by omega)
  rw [bufferedGasLimit_of_lt word fits]
  exact le_max_of_le_right (le_min small grown)

/-- The gas limit of a 64-bit floor: the estimate scaled by the buffer taken as a 64-bit word,
saturated and floored; never under the floor, and, while the scale does not wrap, the buffered
estimate itself and never under a 64-bit estimate. -/
theorem gas_limit_buffers_estimate (word : floor ≤ maxWord64) :
    bufferedGasLimit estimate bufferPercent floor =
        max floor (min maxWord64 (estimate * ((100 + bufferPercent) % 2 ^ 64) / 100)) ∧
      floor ≤ bufferedGasLimit estimate bufferPercent floor ∧
      (100 + bufferPercent < 2 ^ 64 →
        bufferedGasLimit estimate bufferPercent floor =
            max floor (min maxWord64 (estimate * (100 + bufferPercent) / 100)) ∧
          (estimate ≤ maxWord64 → estimate ≤ bufferedGasLimit estimate bufferPercent floor)) :=
  ⟨bufferedGasLimit_eq word, floor_le_bufferedGasLimit word,
    fun fits => ⟨bufferedGasLimit_of_lt word fits, le_bufferedGasLimit word fits⟩⟩

example : bufferedGasLimit 200000 20 100000 = 240000 := by decide

end GasLimit

theorem twenty_percent_gas_buffer :
    100000 ≤ maxWord64 ∧ 100 + 20 < 2 ^ 64 ∧ 200000 ≤ maxWord64 ∧
      200000 ≤ bufferedGasLimit 200000 20 100000 :=
  ⟨by decide, by decide, by decide,
    ((gas_limit_buffers_estimate (by decide : 100000 ≤ maxWord64)).2.2 (by decide)).2 (by decide)⟩

/-- A buffer of `2^64 - 1` percent wraps the scale to 99 percent. -/
theorem wrapped_buffer_undercuts_estimate : bufferedGasLimit 200000 (2 ^ 64 - 1) 0 < 200000 := by
  decide

namespace FeeConfig

/-- The configured fixed gas price, when it is positive. -/
def fixedPrice (c : FeeConfig) : Option Int := c.fixedGasPrice.filter (0 < ·)

/-- Both sources of the fee oracle answer: the tip, and the fee cap for the tip capped at the
largest tip. -/
def DynamicAnswers (c : FeeConfig) (tip : Outcome Int) (cap : Int → Outcome Int) : Prop :=
  ∃ t k, tip = .ok t ∧ cap (min t c.maxTip) = .ok k

theorem fallbackTip_le_maxTip (c : FeeConfig) : c.fallbackTip ≤ c.maxTip := by
  unfold fallbackTip
  split
  · split <;> simp_all [le_of_lt]
  · exact le_rfl

theorem fallbackTip_nonneg {c : FeeConfig} (nonneg : 0 ≤ c.maxTip) : 0 ≤ c.fallbackTip := by
  unfold fallbackTip
  split
  · split <;> simp_all [le_of_lt]
  · exact nonneg

/-- The fees of the first source that answers, for the oracle's answers `tip`, `cap` (for a
tip) and `price`. -/
inductive Picks (c : FeeConfig) (tip : Outcome Int) (cap : Int → Outcome Int) (price : Outcome Int) :
    Fees → Prop where
  | fixed {x : Int} : c.fixedPrice = some x → Picks c tip cap price ⟨x, x, x, .fixed⟩
  | eip1559 {t k : Int} : c.fixedPrice = none → tip = .ok t → cap (min t c.maxTip) = .ok k →
      Picks c tip cap price
        ⟨min t c.maxTip, max k (min t c.maxTip), max k (min t c.maxTip), .eip1559⟩
  | legacy {p : Int} : c.fixedPrice = none → ¬ c.DynamicAnswers tip cap → price = .ok p →
      Picks c tip cap price ⟨c.fallbackTip, p + c.fallbackTip, p + c.fallbackTip, .legacy⟩
  | config : c.fixedPrice = none → ¬ c.DynamicAnswers tip cap → (∀ p, price ≠ .ok p) →
      Picks c tip cap price ⟨c.fallbackTip, c.fallbackTip * 2, c.fallbackTip * 2, .config⟩

variable {c : FeeConfig} {tip : Outcome Int} {cap : Int → Outcome Int} {price : Outcome Int}
  {f : Fees}

theorem Picks.gasPrice_eq (h : c.Picks tip cap price f) : f.gasPrice = f.feeCap := by
  cases h <;> rfl

theorem Picks.tipCap_le_maxTip (h : c.Picks tip cap price f) (paid : f.source ≠ .fixed) :
    f.tipCap ≤ c.maxTip := by
  cases h with
  | fixed => exact absurd rfl paid
  | eip1559 => exact min_le_right _ _
  | legacy | config => exact c.fallbackTip_le_maxTip

theorem Picks.tipCap_le_feeCap (h : c.Picks tip cap price f) (nonneg : 0 ≤ c.maxTip)
    (priced : ∀ p, price = .ok p → 0 ≤ p) : f.tipCap ≤ f.feeCap := by
  cases h with
  | fixed => exact le_rfl
  | eip1559 => exact le_max_right _ _
  | legacy _ _ answered =>
    have := priced _ answered
    dsimp only
    omega
  | config =>
    have := fallbackTip_nonneg nonneg
    dsimp only
    omega

end FeeConfig

variable {σ : Type}

/-- Reads the caller's context, kept in the world: its failure once it has ended. -/
def readContext (ctx : σ → Option Failure) : StateM σ (Option Failure) := do
  return ctx (← get)

theorem readContext_spec (ctx : σ → Option Failure) :
    ⦃fun _ => ⌜True⌝⦄ readContext ctx ⦃⇓ r q => ⌜r = ctx q⌝⦄ := by
  unfold readContext
  mvcgen

/-- The oracle answers `tip`, `cap` (for a tip) and `price`, whatever the world. -/
structure FeeOracle.Answers (o : FeeOracle (StateM σ)) (tip : Outcome Int)
    (cap : Int → Outcome Int) (price : Outcome Int) : Prop where
  tipCap : ⦃fun _ => ⌜True⌝⦄ o.tipCap ⦃⇓ r _ => ⌜tip = r⌝⦄
  feeCap : ∀ t, ⦃fun _ => ⌜True⌝⦄ o.feeCap t ⦃⇓ r _ => ⌜cap t = r⌝⦄
  gasPrice : ⦃fun _ => ⌜True⌝⦄ o.gasPrice ⦃⇓ r _ => ⌜price = r⌝⦄

variable {o : FeeOracle (StateM σ)} {tip : Outcome Int} {cap : Int → Outcome Int}
  {price : Outcome Int}

theorem dynamicFees_spec (h : o.Answers tip cap price) (c : FeeConfig) :
    ⦃fun _ => ⌜True⌝⦄ dynamicFees o c
      ⦃⇓ r _ => ⌜(∀ f, r = .ok f → ∃ t k, tip = .ok t ∧ cap (min t c.maxTip) = .ok k ∧
          f = ⟨min t c.maxTip, max k (min t c.maxTip), max k (min t c.maxTip), .eip1559⟩) ∧
        (∀ e, r = .error e → ¬ c.DynamicAnswers tip cap)⌝⦄ := by
  have tipCap := h.tipCap
  have feeCap := h.feeCap
  unfold dynamicFees
  mvcgen [tipCap, feeCap]
  -- the code caps and raises with comparisons, the statement with `min` and `max`
  all_goals simp_all +zetaDelta [FeeConfig.DynamicAnswers, ← min_def_lt', ← max_def_lt]

variable [LogSink (StateM σ)]

theorem selectDynamic_picks (h : o.Answers tip cap price) (ctx : σ → Option Failure)
    {c : FeeConfig} (unfixed : c.fixedPrice = none) :
    ⦃fun _ => ⌜True⌝⦄ selectFeesUnder.selectDynamic (readContext ctx) o c
      ⦃⇓ r q => ⌜(∀ e, r = .error e → ctx q = some e) ∧
        ∀ f, r = .ok f → c.Picks tip cap price f⌝⦄ := by
  have dynamic := dynamicFees_spec h c
  have gasPrice := h.gasPrice
  have read := readContext_spec ctx
  have emit : ∀ entry, ⦃fun _ => ⌜True⌝⦄ (LogSink.emit entry : StateM σ Unit) ⦃⇓ _ _ => ⌜True⌝⦄ :=
    fun _ => triple_of_run fun _ _ => trivial
  unfold selectFeesUnder.selectDynamic
  mvcgen [dynamic, gasPrice, read, emit, Log.warn, Log.error]
  all_goals simp_all
  · obtain ⟨t, answered, k, capped, rfl⟩ := ‹∃ t, tip = .ok t ∧ _›
    exact .eip1559 unfixed answered capped
  · exact .legacy unfixed ‹_› rfl
  · exact .config unfixed ‹_› (by simp_all)

theorem selectFeesUnder_picks (h : o.Answers tip cap price) (ctx : σ → Option Failure)
    (c : FeeConfig) :
    ⦃fun _ => ⌜True⌝⦄ selectFeesUnder (readContext ctx) o c
      ⦃⇓ r q => ⌜(∀ e, r = .error e → ctx q = some e) ∧
        ∀ f, r = .ok f → c.Picks tip cap price f⌝⦄ := by
  unfold selectFeesUnder
  cases fixed : c.fixedGasPrice with
  | none => exact selectDynamic_picks h ctx (by simp [FeeConfig.fixedPrice, fixed])
  | some x =>
    by_cases positive : x > 0
    · simp only [positive, if_true]
      mvcgen
      refine ⟨nofun, ?_⟩
      rintro _ ⟨⟩
      exact .fixed (by simp [FeeConfig.fixedPrice, fixed, positive])
    · simp only [positive, if_false]
      exact selectDynamic_picks h ctx (by simp [FeeConfig.fixedPrice, fixed]; omega)

/-- A fee selection fails only with the failure of an ended context and otherwise picks the first
source that answers; those fees price gas at their fee cap and tip no more than the cap. -/
theorem fees_of_first_answering_source (h : o.Answers tip cap price) (ctx : σ → Option Failure)
    {c : FeeConfig} (nonneg : 0 ≤ c.maxTip) (priced : ∀ p, price = .ok p → 0 ≤ p) :
    ⦃fun _ => ⌜True⌝⦄ selectFeesUnder (readContext ctx) o c
      ⦃⇓ r q => ⌜(∀ e, r = .error e → ctx q = some e) ∧
        ∀ f, r = .ok f → c.Picks tip cap price f ∧ f.gasPrice = f.feeCap ∧
          f.tipCap ≤ f.feeCap ∧ (f.source ≠ .fixed → f.tipCap ≤ c.maxTip)⌝⦄ :=
  triple_of_run fun q _ =>
    have picked := run_of_triple (selectFeesUnder_picks h ctx c) q trivial
    ⟨picked.1, fun f chosen =>
      have picks := picked.2 f chosen
      ⟨picks, picks.gasPrice_eq, picks.tipCap_le_feeCap nonneg priced, picks.tipCap_le_maxTip⟩⟩

/-- An oracle whose calls each take 20 ns: the EIP-1559 sources are unavailable and the legacy
gas price is 7. -/
def slowLegacyOracle : FeeOracle (StateM Nat) where
  tipCap := do modify (· + 20); return .error (Failure.plain "unavailable")
  feeCap _ := do modify (· + 20); return .error (Failure.plain "unavailable")
  gasPrice := do modify (· + 20); return .ok 7

theorem slowLegacyOracle_answers :
    slowLegacyOracle.Answers (.error (Failure.plain "unavailable"))
      (fun _ => .error (Failure.plain "unavailable")) (.ok 7) where
  tipCap := triple_of_run fun _ _ => rfl
  feeCap := fun _ => triple_of_run fun _ _ => rfl
  gasPrice := triple_of_run fun _ _ => rfl

/-- Fees from the slow oracle under a context whose deadline is 30 ns away. -/
theorem slow_oracle_fees_before_deadline :
    let c : FeeConfig := { maxPriorityFee := some 2, fallbackPriorityFee := some 1 }
    let ctx : Nat → Option Failure := fun q => if 30 ≤ q then some ⟨"context deadline exceeded", [.deadlineExceeded]⟩ else none
    0 ≤ c.maxTip ∧ (∀ p, (.ok 7 : Outcome Int) = .ok p → 0 ≤ p) ∧
      ⦃fun _ => ⌜True⌝⦄ selectFeesUnder (readContext ctx) slowLegacyOracle c
        ⦃⇓ r q => ⌜(∀ e, r = .error e → ctx q = some e) ∧
          ∀ f, r = .ok f → c.Picks (.error (Failure.plain "unavailable"))
              (fun _ => .error (Failure.plain "unavailable")) (.ok 7) f ∧
            f.gasPrice = f.feeCap ∧ f.tipCap ≤ f.feeCap ∧
            (f.source ≠ .fixed → f.tipCap ≤ c.maxTip)⌝⦄ :=
  ⟨by decide, by rintro _ ⟨⟩; decide,
    fees_of_first_answering_source slowLegacyOracle_answers _ (by decide) (by rintro _ ⟨⟩; decide)⟩

end FlashArb
