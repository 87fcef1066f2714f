import Mathlib
import FlashArb.Sim.Profit
import FlashArb.Proofs.StateTriples

/-! The net profit a simulation gives a route. -/
namespace FlashArb

open Std.Do

set_option mvcgen.warning false

/-- A call a simulation makes to its services: a quote of a leg for an amount, or a gas
estimate of the route's call for a loan amount. -/
inductive SimCall where
  | quote (leg : Leg) (amountIn : Int)
  | estimate (amount : Int)

/-- What the services of a simulation answer: the quote of a leg for an amount, and the gas
estimate of a route's call for a loan amount. -/
structure Answers where
  quote : Leg → Int → Outcome Int
  gas : Route → Int → Outcome Nat

namespace Simulator

variable {m : Type → Type}

/-- The calls of the estimator made for a gas limit: one when there is an estimator. -/
def estimateCalls (s : Simulator m) (amount : Int) : List SimCall :=
  match s.estimateGas with
  | some _ => [.estimate amount]
  | none => []

/-- The gas limit under estimates `gas`: the estimate, or the fallback limit when there is no
estimator or it fails, buffered and raised to the minimum. -/
def scriptedGasLimit (s : Simulator m) (gas : Route → Int → Outcome Nat) (r : Route)
    (amount : Int) : Nat :=
  bufferedGasLimit
    (match s.estimateGas, gas r amount with
      | some _, .ok units => units
      | _, _ => s.config.fallbackGasLimit)
    s.config.gasBufferPercent s.config.minGasLimit

/-- The gas cost of a limit at a gas price; nothing without a price. -/
def gasCost (limit : Nat) : Option Int → Int
  | some price => limit * price
  | none => 0

/-- How a simulation of route `r` with `amountIn` at `gasPrice` under answers `ans` ends, with
the calls it made. -/
inductive Simulated (s : Simulator m) (ans : Answers) (r : Route) (amountIn : Int)
    (gasPrice : Option Int) : Outcome Int → List SimCall → Prop where
  /-- The first quote fails. -/
  | firstFails {f : Failure} :
      ans.quote r.sellLeg amountIn = .error f →
      Simulated s ans r amountIn gasPrice (.error (f.wrap ("first leg " ++ r.sellLeg.pool.checksum)))
        [.quote r.sellLeg amountIn]
  /-- The first leg gives nothing: no second quote and no estimate. -/
  | empty :
      ans.quote r.sellLeg amountIn = .ok 0 →
      Simulated s ans r amountIn gasPrice (.ok minProfit) [.quote r.sellLeg amountIn]
  /-- The second quote fails. -/
  | secondFails {mid : Int} {f : Failure} :
      ans.quote r.sellLeg amountIn = .ok mid → mid ≠ 0 → ans.quote r.buyLeg mid = .error f →
      Simulated s ans r amountIn gasPrice
        (.error (f.wrap ("second leg " ++ r.buyLeg.pool.checksum)))
        [.quote r.sellLeg amountIn, .quote r.buyLeg mid]
  /-- The route loses before gas: the loss, without an estimate. -/
  | loses {mid final : Int} :
      ans.quote r.sellLeg amountIn = .ok mid → mid ≠ 0 → ans.quote r.buyLeg mid = .ok final →
      final - amountIn ≤ 0 →
      Simulated s ans r amountIn gasPrice (.ok (final - amountIn))
        [.quote r.sellLeg amountIn, .quote r.buyLeg mid]
  /-- The route gains before gas: the gain less the gas cost and the flash-loan fee. -/
  | profits {mid final : Int} :
      ans.quote r.sellLeg amountIn = .ok mid → mid ≠ 0 → ans.quote r.buyLeg mid = .ok final →
      0 < final - amountIn →
      Simulated s ans r amountIn gasPrice
        (.ok (final - amountIn - gasCost (s.scriptedGasLimit ans.gas r amountIn) gasPrice -
          s.loanFee amountIn))
        ([.quote r.sellLeg amountIn, .quote r.buyLeg mid] ++ s.estimateCalls amountIn)

theorem loanFee_of_zero_bps (s : Simulator m) (amountIn : Int)
    (zero : s.config.flashLoanFeeBps = 0) : s.loanFee amountIn = 0 := by
  simp [loanFee, zero]

theorem sub_loanFee_eq_ite (s : Simulator m) (x amountIn : Int) :
    x - s.loanFee amountIn =
      if s.config.flashLoanFeeBps > 0 then x - s.loanFee amountIn else x := by
  by_cases bps : s.config.flashLoanFeeBps > 0
  · rw [if_pos bps]
  · rw [if_neg bps, loanFee_of_zero_bps s amountIn (by omega), Int.sub_zero]

theorem loanFee_nonneg (s : Simulator m) {amountIn : Int} (lent : 0 ≤ amountIn) :
    0 ≤ s.loanFee amountIn :=
  Int.tdiv_nonneg (Int.mul_nonneg lent (Int.natCast_nonneg _)) (by decide)

theorem gasCost_nonneg (limit : Nat) {gasPrice : Option Int}
    (priced : ∀ price, gasPrice = some price → 0 ≤ price) : 0 ≤ gasCost limit gasPrice := by
  cases gasPrice with
  | none => exact Int.le_refl 0
  | some price => exact Int.mul_nonneg (Int.natCast_nonneg limit) (priced price rfl)

theorem sub_gasCost_eq_match (gross : Int) (limit : Nat) (gasPrice : Option Int) :
    gross - gasCost limit gasPrice = match gasPrice with
      | some price => gross - limit * price
      | none => gross := by
  cases gasPrice with
  | none => exact Int.sub_zero gross
  | some price => rfl

theorem Simulated.le_gain {s : Simulator m} {ans : Answers} {r : Route} {amountIn : Int}
    {gasPrice : Option Int} {p : Int} {trace : List SimCall}
    (h : s.Simulated ans r amountIn gasPrice (.ok p) trace)
    (priced : ∀ price, gasPrice = some price → 0 ≤ price) (lent : 0 ≤ amountIn)
    {mid final : Int} (first : ans.quote r.sellLeg amountIn = .ok mid) (nonzero : mid ≠ 0)
    (second : ans.quote r.buyLeg mid = .ok final) : p ≤ final - amountIn := by
  cases h with
  | empty first' =>
    cases first.symm.trans first'
    exact absurd rfl nonzero
  | loses first' _ second' _ =>
    cases first.symm.trans first'
    cases second.symm.trans second'
    exact Int.le_refl _
  | profits first' _ second' _ =>
    cases first.symm.trans first'
    cases second.symm.trans second'
    have gas := gasCost_nonneg (s.scriptedGasLimit ans.gas r amountIn) priced
    have fee := s.loanFee_nonneg lent
    omega

variable {σ : Type} [LogSink (StateM σ)] [Recorder (StateM σ)]

/-- What a simulation's proofs assume of its world `σ`: quotes and gas estimates answer `ans`,
each appending its call to `calls`, which logging and measuring leave alone. -/
structure Scripted (s : Simulator (StateM σ)) (ans : Answers) (calls : σ → List SimCall) : Prop
    extends Quiet calls where
  quote : ∀ leg a q, ((s.quote leg a).run q).run.1 = ans.quote leg a ∧
    calls ((s.quote leg a).run q).run.2 = calls q ++ [.quote leg a]
  estimate : ∀ est, s.estimateGas = some est → ∀ r a q, ((est r a).run q).run.1 = ans.gas r a ∧
    calls ((est r a).run q).run.2 = calls q ++ [.estimate a]

namespace Scripted

variable {s : Simulator (StateM σ)} {ans : Answers} {calls : σ → List SimCall}

variable (h : s.Scripted ans calls)
include h

theorem quote_spec (leg : Leg) (a : Int) (E : List SimCall) :
    ⦃fun q => ⌜calls q = E⌝⦄ s.quote leg a
      ⦃⇓ o q => ⌜ans.quote leg a = o ∧ calls q = E ++ [.quote leg a]⌝⦄ :=
  triple_of_run fun q start => by
    obtain ⟨answered, called⟩ := h.quote leg a q
    exact ⟨answered.symm, by rw [called, start]⟩

theorem swap_spec (leg : Leg) (a : Int) (E : List SimCall) :
    ⦃fun q => ⌜calls q = E⌝⦄ s.swap leg a
      ⦃⇓ o q => ⌜ans.quote leg a = o ∧ calls q = E ++ [.quote leg a]⌝⦄ := by
  have quote := h.quote_spec
  have record := h.record_spec
  unfold swap
  mvcgen [quote, record]
  all_goals simp_all

theorem gasLimit_spec (r : Route) (amount : Int) (E : List SimCall) :
    ⦃fun q => ⌜calls q = E⌝⦄ s.gasLimit r amount
      ⦃⇓ limit q => ⌜limit = s.scriptedGasLimit ans.gas r amount ∧
        calls q = E ++ s.estimateCalls amount⌝⦄ := by
  have emit := h.emit_spec
  cases hEst : s.estimateGas with
  | none =>
    simp only [gasLimit, hEst]
    mvcgen
    simp_all [scriptedGasLimit, estimateCalls]
  | some est =>
    have estimate : ∀ E, ⦃fun q => ⌜calls q = E⌝⦄ est r amount
        ⦃⇓ o q => ⌜ans.gas r amount = o ∧ calls q = E ++ [.estimate amount]⌝⦄ :=
      fun E => triple_of_run fun q start => by
        obtain ⟨answered, called⟩ := h.estimate est hEst r amount q
        exact ⟨answered.symm, by rw [called, start]⟩
    simp only [gasLimit, hEst]
    mvcgen [estimate, emit, Log.warn]
    all_goals simp_all [scriptedGasLimit, estimateCalls]

theorem netProfit_spec (r : Route) (amountIn : Int) (gasPrice : Option Int) (E : List SimCall) :
    ⦃fun q => ⌜calls q = E⌝⦄ s.netProfit r amountIn gasPrice
      ⦃⇓ out q => ⌜∃ trace, calls q = E ++ trace ∧ s.Simulated ans r amountIn gasPrice out trace⌝⦄ := by
  have swap := h.swap_spec
  have gas := h.gasLimit_spec
  have emit := h.emit_spec
  unfold netProfit
  mvcgen [swap, gas, emit, Log.debug]
  next s₀ start _ f _ s₁ quoted =>
    obtain ⟨answered, called⟩ := quoted
    exact ⟨_, by rw [called, start], .firstFails answered⟩
  next s₀ start _ mid _ zero s₁ quoted =>
    obtain ⟨answered, called⟩ := quoted
    obtain rfl := beq_iff_eq.mp zero
    exact ⟨_, by rw [called, start], .empty answered⟩
  next s₀ start _ mid _ nonzero s₁ quoted _ f _ s₂ quoted' =>
    obtain ⟨answered, called⟩ := quoted
    obtain ⟨answered', called'⟩ := quoted'
    refine ⟨_, ?_, .secondFails answered (by simpa using nonzero) answered'⟩
    simp only [called', called, start, List.append_assoc, List.singleton_append]
  next s₀ start _ mid _ nonzero s₁ quoted _ final _ gross loss s₂ quoted' =>
    obtain ⟨answered, called⟩ := quoted
    obtain ⟨answered', called'⟩ := quoted'
    refine ⟨_, ?_, .loses answered (by simpa using nonzero) answered' loss⟩
    simp only [called', called, start, List.append_assoc, List.singleton_append]
  next s₀ start _ mid _ nonzero s₁ quoted _ final _ gross gain s₂ quoted' limit net₁ net s₃
      limitSpec _ s₄ logged =>
    obtain ⟨answered, called⟩ := quoted
    obtain ⟨answered', called'⟩ := quoted'
    obtain ⟨rfl, estimated⟩ := limitSpec
    -- the two lemmas spell out the code's net profit; the last step unfolds the code's own match,
    -- which a rewrite closes only where that match and this module's are one matcher
    have charged : final - amountIn - gasCost (s.scriptedGasLimit ans.gas r amountIn) gasPrice -
        s.loanFee amountIn = net :=
      ((congrArg (· - s.loanFee amountIn) (sub_gasCost_eq_match _ _ _)).trans
        (sub_loanFee_eq_ite s _ amountIn)).trans rfl
    rw [← charged]
    refine ⟨_, ?_, .profits answered (by simpa using nonzero) answered' (by omega)⟩
    simp only [logged, estimated, called', called, start, List.append_assoc, List.cons_append,
      List.nil_append]

end Scripted

/-- A simulation ends in one of the ways `Simulated` lists, having made exactly its calls; with a
non-negative loan and gas price, a route scores no more than what came back less the loan. -/
theorem netProfit_by_exit (s : Simulator (StateM σ)) (ans : Answers) (calls : σ → List SimCall)
    (world : s.Scripted ans calls) (r : Route) (amountIn : Int) (gasPrice : Option Int) (q : σ) :
    let run := ((s.netProfit r amountIn gasPrice).run q).run
    ∃ trace, calls run.2 = calls q ++ trace ∧ s.Simulated ans r amountIn gasPrice run.1 trace ∧
      ((∀ price, gasPrice = some price → 0 ≤ price) → 0 ≤ amountIn →
        ∀ p mid final, run.1 = .ok p → ans.quote r.sellLeg amountIn = .ok mid → mid ≠ 0 →
          ans.quote r.buyLeg mid = .ok final → p ≤ final - amountIn) := by
  intro run
  obtain ⟨trace, called, simulated⟩ : ∃ trace, calls run.2 = calls q ++ trace ∧
      s.Simulated ans r amountIn gasPrice run.1 trace :=
    run_of_triple (world.netProfit_spec r amountIn gasPrice (calls q)) q rfl
  refine ⟨trace, called, simulated, ?_⟩
  intro priced lent p mid final ok first nonzero second
  rw [ok] at simulated
  exact simulated.le_gain priced lent first nonzero second

/-- A world whose state is the list of calls made so far is scripted. -/
theorem netProfit_by_exit_recorded :
    let ans : Answers := { quote := fun _ a => .ok (2 * a), gas := fun _ _ => .ok 21000 }
    let s : Simulator (StateM (List SimCall)) :=
      { quote := fun leg a => do modify (· ++ [.quote leg a]); pure (ans.quote leg a)
        estimateGas := some fun r a => do modify (· ++ [.estimate a]); pure (ans.gas r a)
        config := { flashLoanFeeBps := 9 } }
    let run := ((s.netProfit default 3 (some 1)).run []).run
    s.Scripted ans id ∧
      ∃ trace, id run.2 = id [] ++ trace ∧ s.Simulated ans default 3 (some 1) run.1 trace ∧
        ((∀ price : Int, some 1 = some price → 0 ≤ price) → 0 ≤ (3 : Int) →
          ∀ p mid final, run.1 = .ok p → ans.quote (default : Route).sellLeg 3 = .ok mid →
            mid ≠ 0 → ans.quote (default : Route).buyLeg mid = .ok final → p ≤ final - 3) := by
  intro ans s run
  have world : s.Scripted ans id := by
    refine ⟨⟨fun _ _ => rfl, fun _ _ => rfl⟩, fun _ _ _ => ⟨rfl, rfl⟩, ?_⟩
    intro est known r a q
    cases known
    exact ⟨rfl, rfl⟩
  exact ⟨world, netProfit_by_exit s ans id world default 3 (some 1) []⟩

/-- For a negative loan the fee is truncated toward zero rather than floored: a loan of `-1` at
one basis point pays no fee, where the floor of the exact fee would be `-1`, and the route scores
`11` rather than `12`. -/
theorem loanFee_truncates_negative_loan :
    let s : Simulator Id :=
      { quote := fun _ a => if a = -1 then .ok 5 else .ok 10, estimateGas := none,
        config := { flashLoanFeeBps := 1 } }
    (s.netProfit default (-1) none).run = .ok 11 ∧ (10 - (-1) - Int.fdiv (-1 * 1) 10000 : Int) = 12 :=
  ⟨rfl, by decide⟩

end Simulator

end FlashArb
