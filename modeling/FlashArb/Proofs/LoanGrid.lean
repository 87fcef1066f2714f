import Mathlib
import FlashArb.Sim.LoanSearch
import FlashArb.Proofs.StateTriples

/-! How a loan search bounds and scores its grid of amounts. -/
namespace FlashArb

open Std.Do

set_option mvcgen.warning false

/-- The sample an amount gives when its profit is known. -/
def sampleOf (answer : Int → Outcome Int) (a : Int) : Option LoanSample :=
  match answer a with
  | .ok p => some ⟨a, p⟩
  | .error _ => none

/-- `b` is the first of the samples of highest profit: those before it are less profitable and
those after it no more. -/
def FirstBest (samples : List LoanSample) (b : LoanSample) : Prop :=
  ∃ before after, samples = before ++ b :: after ∧
    (∀ s ∈ before, s.profit < b.profit) ∧ ∀ s ∈ after, s.profit ≤ b.profit

namespace FirstBest

variable {samples : List LoanSample} {b s : LoanSample}

theorem mem (h : FirstBest samples b) : b ∈ samples := by
  obtain ⟨before, after, rfl, -, -⟩ := h
  simp

theorem bound (h : FirstBest samples b) (hs : s ∈ samples) : s.profit ≤ b.profit := by
  obtain ⟨before, after, rfl, less, noMore⟩ := h
  rcases List.mem_append.mp hs with hs | hs
  · exact Int.le_of_lt (less s hs)
  · rcases List.mem_cons.mp hs with rfl | hs
    · exact Int.le_refl _
    · exact noMore s hs

theorem cons_lt (h : FirstBest samples b) (less : s.profit < b.profit) :
    FirstBest (s :: samples) b := by
  obtain ⟨before, after, rfl, lessBefore, noMore⟩ := h
  refine ⟨s :: before, after, rfl, ?_, noMore⟩
  intro k hk
  rcases List.mem_cons.mp hk with rfl | hk
  · exact less
  · exact lessBefore k hk

theorem cons_of_le (h : FirstBest samples b) (atLeast : b.profit ≤ s.profit) :
    FirstBest (s :: samples) s :=
  ⟨[], samples, rfl, by simp, fun k hk => Int.le_trans (h.bound hk) atLeast⟩

end FirstBest

theorem bestSample_eq_none {samples : List LoanSample} : bestSample samples = none ↔ samples = [] := by
  cases samples with
  | nil => simp [bestSample]
  | cons s rest =>
    simp only [bestSample, reduceCtorEq, iff_false]
    split
    · simp
    · split <;> simp

theorem bestSample_firstBest {samples : List LoanSample} {b : LoanSample}
    (h : bestSample samples = some b) : FirstBest samples b := by
  induction samples generalizing b with
  | nil => simp [bestSample] at h
  | cons s rest ih =>
    unfold bestSample at h
    cases hr : bestSample rest with
    | none =>
      rw [hr] at h
      cases h
      rw [bestSample_eq_none.mp hr]
      exact ⟨[], [], rfl, by simp, by simp⟩
    | some b' =>
      simp only [hr] at h
      have behind := ih hr
      by_cases better : b'.profit > s.profit
      · rw [if_pos better] at h
        cases h
        exact behind.cons_lt better
      · rw [if_neg better] at h
        cases h
        exact behind.cons_of_le (Int.not_lt.mp better)

theorem length_filter_isNone {α : Type} (xs : List (Option α)) :
    (xs.filter Option.isNone).length + (xs.filterMap id).length = xs.length := by
  induction xs with
  | nil => rfl
  | cons x xs ih =>
    cases x with
    | none =>
      rw [List.filter_cons_of_pos rfl, List.filterMap_cons_none rfl]
      simp only [List.length_cons]
      omega
    | some a =>
      rw [List.filter_cons_of_neg (by simp), List.filterMap_cons_some (show id (some a) = some a from rfl)]
      simp only [List.length_cons]
      omega

/-- What a search that scored `amounts`, with profits `answer`, reports. -/
structure Reports (answer : Int → Outcome Int) (effMax : Int) (amounts : List Int)
    (res : LoanResult) : Prop where
  effectiveMax : res.effectiveMax = effMax
  samples : res.samples = amounts.filterMap (sampleOf answer)
  failed : res.failed = amounts.length - res.samples.length
  profitable : res.best.isSome ↔ ∃ s ∈ res.samples, 0 < s.profit
  best : ∀ b, res.best = some b → FirstBest res.samples b

namespace Reports

variable {answer : Int → Outcome Int} {effMax : Int} {amounts : List Int}
  {xs : List (Option LoanSample)}

theorem samples_of_scored (scored : xs = amounts.map (sampleOf answer)) :
    xs.filterMap id = amounts.filterMap (sampleOf answer) := by
  rw [scored, List.filterMap_map]
  rfl

theorem failed_of_scored (scored : xs = amounts.map (sampleOf answer)) :
    (xs.filter Option.isNone).length = amounts.length - (xs.filterMap id).length := by
  have split := length_filter_isNone xs
  rw [scored, List.length_map] at split
  rw [scored]
  omega

theorem of_best {b : LoanSample} (scored : xs = amounts.map (sampleOf answer))
    (found : bestSample (xs.filterMap id) = some b) (positive : 0 < b.profit) :
    Reports answer effMax amounts
      { best := some b, effectiveMax := effMax, samples := xs.filterMap id,
        failed := (xs.filter Option.isNone).length } where
  effectiveMax := rfl
  samples := samples_of_scored scored
  failed := failed_of_scored scored
  profitable := by
    simp only [Option.isSome_some, true_iff]
    exact ⟨b, (bestSample_firstBest found).mem, positive⟩
  best := by
    rintro b' ⟨⟩
    exact bestSample_firstBest found

theorem of_none (scored : xs = amounts.map (sampleOf answer))
    (unprofitable : ∀ b, bestSample (xs.filterMap id) = some b → b.profit ≤ 0) :
    Reports answer effMax amounts
      { effectiveMax := effMax, samples := xs.filterMap id,
        failed := (xs.filter Option.isNone).length } where
  effectiveMax := rfl
  samples := samples_of_scored scored
  failed := failed_of_scored scored
  profitable := by
    simp only [Option.isSome_none, Bool.false_eq_true, false_iff, not_exists, not_and, Int.not_lt]
    intro s hs
    cases hb : bestSample (xs.filterMap id) with
    | none =>
      rw [bestSample_eq_none.mp hb] at hs
      cases hs
    | some b => exact Int.le_trans ((bestSample_firstBest hb).bound hs) (unprofitable b hb)
  best := by
    rintro b ⟨⟩

theorem of_empty : Reports answer effMax [] { effectiveMax := effMax } where
  effectiveMax := rfl
  samples := rfl
  failed := rfl
  profitable := by simp
  best := by
    rintro b ⟨⟩

end Reports

namespace LoanSearch

variable {m : Type → Type}

/-- The loan cap: `dynamicCapPercent` percent of a constant-product buy pool's loan reserve. -/
def reserveCap (l : LoanSearch m) (r : Route) : Option Int := do
  let read ← l.snapshot
  if r.buyKind.isConstantProduct then
    let snap ← read r.buyPool
    let reserve ← snap.reserveOf r.loanToken
    some ((reserve * l.config.dynamicCapPercent).tdiv 100)
  else none

/-- The largest loan a search tries: the configured largest loan `hi`, lowered to the reserve
cap when there is one. -/
def cappedMax (l : LoanSearch m) (r : Route) (hi : Int) : Int :=
  match l.reserveCap r with
  | some cap => min cap hi
  | none => hi

theorem cappedMax_eq (l : LoanSearch m) (r : Route) (hi : Int) :
    l.cappedMax r hi = match l.reserveCap r with
      | some cap => if cap < hi then cap else hi
      | none => hi := by
  unfold cappedMax
  split
  · rename_i cap _
    by_cases below : cap < hi
    · rw [if_pos below, min_eq_left (Int.le_of_lt below)]
    · rw [if_neg below, min_eq_right (Int.not_lt.mp below)]
  · rfl

/-- How a search from `before` evaluated ends: it scores the capped grid, or fails having scored
nothing. -/
def Searched (l : LoanSearch m) (r : Route) (answer : Int → Outcome Int) (before : List Int)
    (out : Outcome LoanResult) (after : List Int) : Prop :=
  match Units.toBase l.config.minLoan l.config.loanDecimals,
      Units.toBase l.config.maxLoan l.config.loanDecimals with
  | .ok lo, .ok hi =>
    after = before ++ sampleAmounts lo (l.cappedMax r hi) l.config.iterations ∧
      ∃ res, out = .ok res ∧
        Reports answer (l.cappedMax r hi) (sampleAmounts lo (l.cappedMax r hi) l.config.iterations) res
  | _, _ => after = before ∧ ∃ f, out = .error f

section Searched

variable {l : LoanSearch m} {r : Route} {answer : Int → Outcome Int} {before after : List Int}
  {out : Outcome LoanResult}

theorem searched_of_ok {lo hi : Int}
    (minOk : Units.toBase l.config.minLoan l.config.loanDecimals = .ok lo)
    (maxOk : Units.toBase l.config.maxLoan l.config.loanDecimals = .ok hi) :
    l.Searched r answer before out after ↔
      after = before ++ sampleAmounts lo (l.cappedMax r hi) l.config.iterations ∧
        ∃ res, out = .ok res ∧
          Reports answer (l.cappedMax r hi) (sampleAmounts lo (l.cappedMax r hi) l.config.iterations) res := by
  simp only [Searched, minOk, maxOk]

theorem searched_of_min_error {f : Failure}
    (fails : Units.toBase l.config.minLoan l.config.loanDecimals = .error f) (g : Failure) :
    l.Searched r answer before (.error g) before := by
  simp only [Searched, fails, true_and]
  exact ⟨g, rfl⟩

theorem searched_of_max_error {lo : Int} {f : Failure}
    (minOk : Units.toBase l.config.minLoan l.config.loanDecimals = .ok lo)
    (fails : Units.toBase l.config.maxLoan l.config.loanDecimals = .error f) (g : Failure) :
    l.Searched r answer before (.error g) before := by
  simp only [Searched, minOk, fails, true_and]
  exact ⟨g, rfl⟩

theorem searched_of_grid {lo hi capped : Int} {res : LoanResult}
    (minOk : Units.toBase l.config.minLoan l.config.loanDecimals = .ok lo)
    (maxOk : Units.toBase l.config.maxLoan l.config.loanDecimals = .ok hi)
    (eff : l.cappedMax r hi = capped)
    (logged : after = before ++ sampleAmounts lo capped l.config.iterations)
    (reports : Reports answer capped (sampleAmounts lo capped l.config.iterations) res) :
    l.Searched r answer before (.ok res) after := by
  rw [searched_of_ok minOk maxOk, eff]
  exact ⟨logged, res, rfl, reports⟩

theorem cappedMax_of_cap {capped : Option Int} (hi : Int) :
    capped = l.reserveCap r → l.cappedMax r hi = match capped with
      | some cap => if cap < hi then cap else hi
      | none => hi := by
  rintro rfl
  exact cappedMax_eq l r hi

end Searched

variable {σ : Type} [LogSink (StateM σ)] [Recorder (StateM σ)]

/-- A world whose profits are `answer` and whose scorings append their amounts to `evaluated`. -/
structure Scripted (l : LoanSearch (StateM σ)) (r : Route) (gasPrice : Option Int)
    (answer : Int → Outcome Int) (evaluated : σ → List Int) : Prop extends Quiet evaluated where
  profit : ∀ a q, ((l.profit r a gasPrice).run q).run.1 = answer a ∧
    evaluated ((l.profit r a gasPrice).run q).run.2 = evaluated q ++ [a]

namespace Scripted

variable {l : LoanSearch (StateM σ)} {r : Route} {gasPrice : Option Int} {answer : Int → Outcome Int}
  {evaluated : σ → List Int}

variable (h : l.Scripted r gasPrice answer evaluated)
include h

theorem profit_spec (a : Int) (E : List Int) :
    ⦃fun q => ⌜evaluated q = E⌝⦄ l.profit r a gasPrice
      ⦃⇓ o q => ⌜answer a = o ∧ evaluated q = E ++ [a]⌝⦄ :=
  triple_of_run fun q pre => by
    rw [← pre]
    exact ⟨(h.profit a q).1.symm, (h.profit a q).2⟩

theorem dynamicCap_spec (E : List Int) :
    ⦃fun q => ⌜evaluated q = E⌝⦄ l.dynamicCap r ⦃⇓ cap q => ⌜cap = l.reserveCap r ∧ evaluated q = E⌝⦄ := by
  have emit := h.emit_spec
  unfold dynamicCap
  mvcgen [emit, Log.warn, Log.error]
  all_goals simp_all [reserveCap]

theorem score_spec (a : Int) (E : List Int) :
    ⦃fun q => ⌜evaluated q = E⌝⦄ l.score r gasPrice a
      ⦃⇓ o q => ⌜o = sampleOf answer a ∧ evaluated q = E ++ [a]⌝⦄ := by
  have emit := h.emit_spec
  have record := h.record_spec
  have profit := h.profit_spec
  unfold score
  mvcgen [emit, record, profit, Log.warn]
  all_goals simp_all [sampleOf]

theorem mapM_score_spec (amounts : List Int) (E : List Int) :
    ⦃fun q => ⌜evaluated q = E⌝⦄ amounts.mapM (l.score r gasPrice)
      ⦃⇓ xs q => ⌜xs = amounts.map (sampleOf answer) ∧ evaluated q = E ++ amounts⌝⦄ := by
  induction amounts generalizing E with
  | nil =>
    mvcgen
    simp_all
  | cons a rest ih =>
    have score := h.score_spec
    simp only [List.mapM_cons]
    mvcgen [score, ih]
    all_goals simp_all

theorem findOptimal_spec (E : List Int) :
    ⦃fun q => ⌜evaluated q = E⌝⦄ l.findOptimal r gasPrice
      ⦃⇓ out q => ⌜l.Searched r answer E out (evaluated q)⌝⦄ := by
  have emit := h.emit_spec
  have cap := h.dynamicCap_spec
  have grid := h.mapM_score_spec
  unfold findOptimal
  mvcgen [emit, cap, grid, Log.info]
  next _ f fails s₀ start =>
    rw [start]
    exact searched_of_min_error fails _
  next _ lo minOk f fails s₀ start =>
    rw [start]
    exact searched_of_max_error minOk fails _
  next _ lo minOk hi maxOk s₀ start capped effMax amounts s₁ capSpec _ empty s₂ logged =>
    obtain ⟨capEq, kept⟩ := capSpec
    have eff : l.cappedMax r hi = effMax := cappedMax_of_cap hi capEq
    have none : sampleAmounts lo effMax l.config.iterations = [] := List.isEmpty_iff.mp empty
    refine searched_of_grid minOk maxOk eff ?_ (none ▸ Reports.of_empty)
    rw [logged, kept, start, none, List.append_nil]
  next _ lo minOk hi maxOk s₀ start capped effMax amounts s₁ capSpec _ _ s₂ logged xs _ _ _ b found
      positive s₃ scoredSpec _ s₄ logged' =>
    obtain ⟨capEq, kept⟩ := capSpec
    obtain ⟨scored, tried⟩ := scoredSpec
    have eff : l.cappedMax r hi = effMax := cappedMax_of_cap hi capEq
    refine searched_of_grid minOk maxOk eff ?_
      (Reports.of_best scored found positive)
    rw [logged', tried, logged, kept, start]
  next _ lo minOk hi maxOk s₀ start capped effMax amounts s₁ capSpec _ _ s₂ logged xs _ _ _ b found
      unprofitable s₃ scoredSpec _ s₄ logged' =>
    obtain ⟨capEq, kept⟩ := capSpec
    obtain ⟨scored, tried⟩ := scoredSpec
    have eff : l.cappedMax r hi = effMax := cappedMax_of_cap hi capEq
    refine searched_of_grid minOk maxOk eff ?_ (Reports.of_none scored ?_)
    · rw [logged', tried, logged, kept, start]
    · intro b' found'
      cases found'.symm.trans found
      exact Int.not_lt.mp unprofitable
  next _ lo minOk hi maxOk s₀ start capped effMax amounts s₁ capSpec _ _ s₂ logged xs _ _ _ found
      s₃ scoredSpec _ s₄ logged' =>
    obtain ⟨capEq, kept⟩ := capSpec
    obtain ⟨scored, tried⟩ := scoredSpec
    have eff : l.cappedMax r hi = effMax := cappedMax_of_cap hi capEq
    refine searched_of_grid minOk maxOk eff ?_ (Reports.of_none scored ?_)
    · rw [logged', tried, logged, kept, start]
    · intro b' found'
      cases found'.symm.trans found

end Scripted

/-- A search run from any state of a scripted world evaluates, in order, exactly the grid from
the smallest loan to the capped largest loan, reports its samples, failures and first best
profitable sample, and fails only when a bound does not convert, having evaluated nothing. -/
theorem findOptimal_scores_capped_grid (l : LoanSearch (StateM σ)) (r : Route)
    (gasPrice : Option Int) (answer : Int → Outcome Int) (evaluated : σ → List Int)
    (world : l.Scripted r gasPrice answer evaluated) (q : σ) :
    l.Searched r answer (evaluated q) ((l.findOptimal r gasPrice).run q).run.1
      (evaluated ((l.findOptimal r gasPrice).run q).run.2) :=
  run_of_triple (world.findOptimal_spec (evaluated q)) q rfl

/-- A world whose state is the list of amounts scored so far is scripted. -/
theorem findOptimal_scores_recorded_amounts :
    let answer : Int → Outcome Int := fun a => .ok (a % 7)
    let l : LoanSearch (StateM (List Int)) :=
      { profit := fun _ a _ => do modify (· ++ [a]); pure (answer a), snapshot := none, config := {} }
    l.Scripted default none answer id ∧
      l.Searched default answer [] ((l.findOptimal default none).run []).run.1
        ((l.findOptimal default none).run []).run.2 := by
  intro answer l
  have world : l.Scripted default none answer id :=
    ⟨⟨fun _ _ => rfl, fun _ _ => rfl⟩, fun _ _ => ⟨rfl, rfl⟩⟩
  exact ⟨world, findOptimal_scores_capped_grid l default none answer id world []⟩

end LoanSearch

end FlashArb
