import Mathlib
import FlashArb.Sim.LoanSearch.Concurrent
import FlashArb.Proofs.LoanGrid
import FlashArb.Proofs.SampleGrid

/-! What a loan search returns, whatever order its scores complete in. -/
namespace FlashArb

open Std.Do

set_option mvcgen.warning false

/-- What a search reports on a grid scored as `scored`: the samples that could be scored in grid
order, how many could not, and the first of the most profitable samples when it is profitable. -/
def LoanResult.ofScored (effMax : Int) (scored : List (Option LoanSample)) : LoanResult :=
  { effectiveMax := effMax, samples := scored.filterMap id,
    failed := (scored.filter Option.isNone).length,
    best := (bestSample (scored.filterMap id)).filter fun b => 0 < b.profit }

namespace LoanResult

variable {effMax : Int} {scored : List (Option LoanSample)} {b : LoanSample}

theorem ofScored_nil : ofScored effMax [] = { effectiveMax := effMax } := rfl

theorem ofScored_of_profitable (found : bestSample (scored.filterMap id) = some b)
    (positive : b.profit > 0) :
    ofScored effMax scored =
      { effectiveMax := effMax, samples := scored.filterMap id,
        failed := (scored.filter Option.isNone).length, best := some b } := by
  unfold ofScored
  rw [found]
  simp [positive]

theorem ofScored_of_unprofitable (found : bestSample (scored.filterMap id) = some b)
    (unprofitable : ¬b.profit > 0) :
    ofScored effMax scored =
      { effectiveMax := effMax, samples := scored.filterMap id,
        failed := (scored.filter Option.isNone).length } := by
  unfold ofScored
  rw [found]
  simpa using Int.not_lt.mp unprofitable

theorem ofScored_of_none (found : bestSample (scored.filterMap id) = none) :
    ofScored effMax scored =
      { effectiveMax := effMax, samples := scored.filterMap id,
        failed := (scored.filter Option.isNone).length } := by
  unfold ofScored
  rw [found]
  rfl

end LoanResult

/-- The slots after the scoring tasks at the positions of `order` have each written the value
`v` of their position into their own slot. -/
def fillSlots {n : Nat} {α : Type} (v : Fin n → α) (order : List (Fin n)) (slots : Fin n → α) :
    Fin n → α :=
  fun j => if j ∈ order then v j else slots j

theorem fillSlots_cons {n : Nat} {α : Type} (v : Fin n → α) (i : Fin n) (order : List (Fin n))
    (slots : Fin n → α) :
    fillSlots v order (fun j => if j = i then v i else slots j) = fillSlots v (i :: order) slots := by
  funext j
  by_cases mem : j ∈ order
  · simp [fillSlots, mem]
  · by_cases here : j = i
    · subst here
      simp [fillSlots]
    · simp [fillSlots, mem, here]

theorem fillSlots_of_perm {n : Nat} {α : Type} (v : Fin n → α) {order : List (Fin n)}
    (complete : order.Perm (List.finRange n)) (slots : Fin n → α) : fillSlots v order slots = v := by
  funext j
  simp [fillSlots, complete.mem_iff]

namespace LoanSearch

variable {m : Type → Type}

/-- The result of a search whose simulation answers `answer` for each amount. -/
def outcome (l : LoanSearch m) (r : Route) (answer : Int → Outcome Int) : Outcome LoanResult :=
  match Units.toBase l.config.minLoan l.config.loanDecimals with
  | .error f => .error (f.wrap "min loan")
  | .ok lo =>
    match Units.toBase l.config.maxLoan l.config.loanDecimals with
    | .error f => .error (f.wrap "max loan")
    | .ok hi =>
      .ok (LoanResult.ofScored (l.cappedMax r hi)
        ((sampleAmounts lo (l.cappedMax r hi) l.config.iterations).map (sampleOf answer)))

section Outcome

variable {l : LoanSearch m} {r : Route} {answer : Int → Outcome Int} {lo hi effMax : Int}
  {f : Failure}

theorem outcome_of_min_error (fails : Units.toBase l.config.minLoan l.config.loanDecimals = .error f) :
    l.outcome r answer = .error (f.wrap "min loan") := by
  simp only [outcome, fails]

theorem outcome_of_max_error (minOk : Units.toBase l.config.minLoan l.config.loanDecimals = .ok lo)
    (fails : Units.toBase l.config.maxLoan l.config.loanDecimals = .error f) :
    l.outcome r answer = .error (f.wrap "max loan") := by
  simp only [outcome, minOk, fails]

theorem outcome_of_grid {scored : List (Option LoanSample)} {res : LoanResult}
    (minOk : Units.toBase l.config.minLoan l.config.loanDecimals = .ok lo)
    (maxOk : Units.toBase l.config.maxLoan l.config.loanDecimals = .ok hi)
    (eff : l.cappedMax r hi = effMax)
    (grid : scored = (sampleAmounts lo effMax l.config.iterations).map (sampleOf answer))
    (report : LoanResult.ofScored effMax scored = res) : .ok res = l.outcome r answer := by
  simp only [outcome, minOk, maxOk, eff, ← grid, report]

end Outcome

variable {σ : Type}

theorem emit_unconstrained [LogSink (StateM σ)] (e : LogEntry) :
    ⦃fun _ => ⌜True⌝⦄ (LogSink.emit e : StateM σ Unit) ⦃⇓ _ _ => ⌜True⌝⦄ :=
  triple_of_run fun _ _ => trivial

theorem record_unconstrained [Recorder (StateM σ)] (x : Measure) :
    ⦃fun _ => ⌜True⌝⦄ (Recorder.record x : StateM σ Unit) ⦃⇓ _ _ => ⌜True⌝⦄ :=
  triple_of_run fun _ _ => trivial

variable [LogSink (StateM σ)] [Recorder (StateM σ)]

/-- The simulation answers `answer` for each amount along the route at the gas price, whatever
state the world is in. -/
def Deterministic (l : LoanSearch (StateM σ)) (r : Route) (gasPrice : Option Int)
    (answer : Int → Outcome Int) : Prop :=
  ∀ a q, ((l.profit r a gasPrice).run q).run.1 = answer a

omit [Recorder (StateM σ)] in
theorem dynamicCap_eq_reserveCap (l : LoanSearch (StateM σ)) (r : Route) :
    ⦃fun _ => ⌜True⌝⦄ l.dynamicCap r ⦃⇓ cap _ => ⌜cap = l.reserveCap r⌝⦄ := by
  have emit := @emit_unconstrained σ _
  unfold dynamicCap
  mvcgen [emit, Log.warn, Log.error]
  all_goals simp_all [reserveCap]

namespace Deterministic

variable {l : LoanSearch (StateM σ)} {r : Route} {gasPrice : Option Int}
  {answer : Int → Outcome Int}

variable (h : l.Deterministic r gasPrice answer)
include h

omit [LogSink (StateM σ)] [Recorder (StateM σ)] in
theorem profit_spec (a : Int) :
    ⦃fun _ => ⌜True⌝⦄ l.profit r a gasPrice ⦃⇓ o _ => ⌜answer a = o⌝⦄ :=
  triple_of_run fun q _ => (h a q).symm

theorem score_spec (a : Int) :
    ⦃fun _ => ⌜True⌝⦄ l.score r gasPrice a ⦃⇓ o _ => ⌜o = sampleOf answer a⌝⦄ := by
  have emit := @emit_unconstrained σ _
  have record := @record_unconstrained σ _
  have profit := h.profit_spec
  unfold score
  mvcgen [emit, record, profit, Log.warn]
  all_goals simp_all [sampleOf]

theorem mapM_score_spec (amounts : List Int) :
    ⦃fun _ => ⌜True⌝⦄ amounts.mapM (l.score r gasPrice)
      ⦃⇓ xs _ => ⌜xs = amounts.map (sampleOf answer)⌝⦄ := by
  induction amounts with
  | nil =>
    mvcgen
    simp_all
  | cons a rest ih =>
    have score := h.score_spec
    simp only [List.mapM_cons]
    mvcgen [score, ih]
    all_goals simp_all

theorem fanOut_spec (amounts : List Int) (order : List (Fin amounts.length))
    (slots : Fin amounts.length → Option LoanSample) :
    ⦃fun _ => ⌜True⌝⦄ l.fanOut r gasPrice amounts order slots
      ⦃⇓ out _ => ⌜out = fillSlots (fun i => sampleOf answer (amounts.get i)) order slots⌝⦄ := by
  induction order generalizing slots with
  | nil =>
    simp only [fanOut]
    mvcgen
  | cons i rest ih =>
    have score := h.score_spec
    simp only [fanOut]
    mvcgen [score, ih]
    rename_i _ sample _ scored out _
    intro filled
    rw [filled, scored]
    exact fillSlots_cons (fun i => sampleOf answer (amounts.get i)) i rest slots

theorem findOptimal_returns_outcome :
    ⦃fun _ => ⌜True⌝⦄ l.findOptimal r gasPrice ⦃⇓ out _ => ⌜out = l.outcome r answer⌝⦄ := by
  have emit := @emit_unconstrained σ _
  have cap := dynamicCap_eq_reserveCap l r
  have grid := h.mapM_score_spec
  unfold findOptimal
  mvcgen [emit, cap, grid, Log.info]
  next _ f fails _ => exact (outcome_of_min_error fails).symm
  next _ lo minOk f fails _ => exact (outcome_of_max_error minOk fails).symm
  next _ lo minOk hi maxOk _ capped effMax amounts _ capEq _ empty _ =>
    have nothing : ([] : List (Option LoanSample)) = amounts.map (sampleOf answer) := by
      rw [List.isEmpty_iff.mp empty, List.map_nil]
    exact outcome_of_grid minOk maxOk (cappedMax_of_cap hi capEq) nothing LoanResult.ofScored_nil
  next _ lo minOk hi maxOk _ capped effMax amounts _ capEq _ _ _ scored _ _ _ b found positive _
      scoredEq _ _ =>
    exact outcome_of_grid minOk maxOk (cappedMax_of_cap hi capEq) scoredEq
      (LoanResult.ofScored_of_profitable found positive)
  next _ lo minOk hi maxOk _ capped effMax amounts _ capEq _ _ _ scored _ _ _ b found unprofitable _
      scoredEq _ _ =>
    exact outcome_of_grid minOk maxOk (cappedMax_of_cap hi capEq) scoredEq
      (LoanResult.ofScored_of_unprofitable found unprofitable)
  next _ lo minOk hi maxOk _ capped effMax amounts _ capEq _ _ _ scored _ _ _ found _ scoredEq _ _ =>
    exact outcome_of_grid minOk maxOk (cappedMax_of_cap hi capEq) scoredEq
      (LoanResult.ofScored_of_none found)

theorem fanOut_complete (amounts : List Int) {order : List (Fin amounts.length)}
    (complete : order.Perm (List.finRange amounts.length)) :
    ⦃fun _ => ⌜True⌝⦄ l.fanOut r gasPrice amounts order (fun _ => none)
      ⦃⇓ slots _ => ⌜List.ofFn slots = amounts.map (sampleOf answer)⌝⦄ :=
  triple_of_run fun q _ => by
    have filled := run_of_triple (h.fanOut_spec amounts order fun _ => none) q trivial
    rw [filled, fillSlots_of_perm _ complete]
    exact List.ofFn_getElem_eq_map amounts _

theorem findOptimalUnder_returns_outcome {order : CompletionOrder}
    (complete : ∀ n, (order n).Perm (List.finRange n)) :
    ⦃fun _ => ⌜True⌝⦄ l.findOptimalUnder order r gasPrice ⦃⇓ out _ => ⌜out = l.outcome r answer⌝⦄ := by
  have emit := @emit_unconstrained σ _
  have cap := dynamicCap_eq_reserveCap l r
  have scoreAll := fun amounts : List Int => h.fanOut_complete amounts (complete amounts.length)
  unfold findOptimalUnder
  mvcgen [emit, cap, scoreAll, Log.info]
  next _ f fails _ => exact (outcome_of_min_error fails).symm
  next _ lo minOk f fails _ => exact (outcome_of_max_error minOk fails).symm
  next _ lo minOk hi maxOk _ capped effMax amounts _ capEq _ empty _ =>
    have nothing : ([] : List (Option LoanSample)) = amounts.map (sampleOf answer) := by
      rw [List.isEmpty_iff.mp empty, List.map_nil]
    exact outcome_of_grid minOk maxOk (cappedMax_of_cap hi capEq) nothing LoanResult.ofScored_nil
  next _ lo minOk hi maxOk _ capped effMax amounts _ capEq _ _ _ slots scored _ _ _ b found positive
      _ scoredEq _ _ =>
    exact outcome_of_grid minOk maxOk (cappedMax_of_cap hi capEq) scoredEq
      (LoanResult.ofScored_of_profitable found positive)
  next _ lo minOk hi maxOk _ capped effMax amounts _ capEq _ _ _ slots scored _ _ _ b found
      unprofitable _ scoredEq _ _ =>
    exact outcome_of_grid minOk maxOk (cappedMax_of_cap hi capEq) scoredEq
      (LoanResult.ofScored_of_unprofitable found unprofitable)
  next _ lo minOk hi maxOk _ capped effMax amounts _ capEq _ _ _ slots scored _ _ _ found _ scoredEq
      _ _ =>
    exact outcome_of_grid minOk maxOk (cappedMax_of_cap hi capEq) scoredEq
      (LoanResult.ofScored_of_none found)

end Deterministic

/-- A loan search returns the same result, from any state of the world, whether its grid is
scored one amount after the other in grid order or by concurrent tasks that complete in any
order: each task writes only its own slot, and the selection reads them once all are done. -/
theorem loan_search_ignores_completion_order (l : LoanSearch (StateM σ)) (r : Route)
    (gasPrice : Option Int) (answer : Int → Outcome Int) (world : l.Deterministic r gasPrice answer)
    (order : CompletionOrder) (complete : ∀ n, (order n).Perm (List.finRange n)) (q q' : σ) :
    ((l.findOptimalUnder order r gasPrice).run q).run.1 = ((l.findOptimal r gasPrice).run q').run.1 :=
  (run_of_triple (world.findOptimalUnder_returns_outcome complete) q trivial).trans
    (run_of_triple world.findOptimal_returns_outcome q' trivial).symm

end LoanSearch

/-- Scoring tasks that complete in reverse grid order give the search's result. -/
theorem reversed_completion_same_search :
    let answer : Int → Outcome Int := fun a => .ok (a % 7)
    let l : LoanSearch (StateM Unit) :=
      { profit := fun _ a _ => pure (answer a), snapshot := none, config := { iterations := 5 } }
    l.Deterministic default none answer ∧ (∀ n, (List.finRange n).reverse.Perm (List.finRange n)) ∧
      ((l.findOptimalUnder (fun n => (List.finRange n).reverse) default none).run ()).run.1 =
        ((l.findOptimal default none).run ()).run.1 := by
  intro answer l
  have world : l.Deterministic default none answer := fun _ _ => rfl
  have complete : ∀ n, (List.finRange n).reverse.Perm (List.finRange n) :=
    fun n => List.reverse_perm _
  exact ⟨world, complete,
    LoanSearch.loan_search_ignores_completion_order l default none answer world _ complete () ()⟩

end FlashArb
