import Mathlib
import FlashArb.Engine.Evaluate
import FlashArb.Proofs.StateTriples
import FlashArb.Proofs.EngineSteps
import FlashArb.Proofs.ScanSafety

/-! One evaluation pass: what it reports, searches, stores and submits, for every fee outcome,
candidate list, loan-search answer and moment at which the caller's context ends. -/
namespace FlashArb

open Std.Do

set_option mvcgen.warning false

/-- A call of an evaluation that the pass must make a fixed number of times. -/
inductive Consult where
  | list
  | search (r : Route)
  | putOpportunity (o : Opportunity)
  | putSubmission (record : SubmissionRecord)
  | submit (req : TxRequest)

namespace Consult

/-- The route a loan search was asked about. -/
@[simp] def searched : Consult → Option Route
  | search r => some r
  | list | putOpportunity _ | putSubmission _ | submit _ => none

/-- The opportunity handed to the sink. -/
@[simp] def stored : Consult → Option Opportunity
  | putOpportunity o => some o
  | list | search _ | putSubmission _ | submit _ => none

/-- The submission record handed to the sink. -/
@[simp] def persisted : Consult → Option SubmissionRecord
  | putSubmission record => some record
  | list | search _ | putOpportunity _ | submit _ => none

/-- The call handed to the submitter. -/
@[simp] def sent : Consult → Option TxRequest
  | submit req => some req
  | list | search _ | putOpportunity _ | putSubmission _ => none

end Consult

/-! ### The first of the most profitable candidates -/

section Selection

variable {cands : List (Route × LoanSample)} {i : Nat} {c d : Route × LoanSample}

/-- `c` is the first of the most profitable candidates of `cands`, at position `i`. -/
def FirstMostAt (cands : List (Route × LoanSample)) (i : Nat) (c : Route × LoanSample) : Prop :=
  ∃ before after, cands = before ++ c :: after ∧ before.length = i ∧
    (∀ d ∈ before, d.2.profit < c.2.profit) ∧ ∀ d ∈ after, d.2.profit ≤ c.2.profit

theorem FirstMostAt.lt_length (h : FirstMostAt cands i c) : i < cands.length := by
  obtain ⟨before, after, rfl, rfl, -⟩ := h
  simp

theorem FirstMostAt.append_le (h : FirstMostAt cands i c) (le : d.2.profit ≤ c.2.profit) :
    FirstMostAt (cands ++ [d]) i c := by
  obtain ⟨before, after, rfl, len, lt, ge⟩ := h
  refine ⟨before, after ++ [d], by simp, len, lt, fun x mem => ?_⟩
  rcases List.mem_append.mp mem with old | new
  · exact ge x old
  · rw [List.mem_singleton.mp new]
    exact le

theorem FirstMostAt.append_gt (h : FirstMostAt cands i c) (gt : c.2.profit < d.2.profit) :
    FirstMostAt (cands ++ [d]) cands.length d := by
  obtain ⟨before, after, rfl, -, lt, ge⟩ := h
  refine ⟨before ++ c :: after, [], by simp, rfl, fun x mem => ?_, by simp⟩
  rcases List.mem_append.mp mem with old | new
  · exact (lt x old).trans gt
  · rcases List.mem_cons.mp new with rfl | later
    · exact gt
    · exact lt_of_le_of_lt (ge x later) gt

end Selection

namespace Engine

/-- The best after the sizing loop considers one more profitable candidate, recorded as `o` at
position `index`: the candidate takes the place of the best only when strictly more profitable. -/
def Best.consider (best : Option Best) (r : Route) (sample : LoanSample) (o : Opportunity)
    (index : Nat) : Option Best :=
  if (match best with
      | none => true
      | some b => decide (sample.profit > b.sample.profit)) = true then
    some ⟨r, sample, o, index⟩
  else best

/-- The best kept so far is the first of the most profitable candidates `cands` found so far,
and sits at its position among the opportunities `opps` recorded for them, one for each. -/
def Leads (cands : List (Route × LoanSample)) (opps : List Opportunity) : Option Best → Prop
  | none => cands = [] ∧ opps = []
  | some b => opps.length = cands.length ∧ FirstMostAt cands b.index (b.route, b.sample) ∧
    opps[b.index]? = some b.opportunity

theorem Leads.push {cands : List (Route × LoanSample)} {opps : List Opportunity}
    {best : Option Best} (h : Leads cands opps best) (r : Route) (sample : LoanSample)
    (o : Opportunity) :
    Leads (cands ++ [(r, sample)]) (opps ++ [o]) (Best.consider best r sample o opps.length) := by
  cases best with
  | none =>
    obtain ⟨rfl, rfl⟩ := h
    exact ⟨rfl, ⟨[], [], rfl, rfl, by simp, by simp⟩, rfl⟩
  | some b =>
    obtain ⟨len, first, at_index⟩ := h
    by_cases gt : sample.profit > b.sample.profit
    · simp only [Best.consider, gt, decide_true, ↓reduceIte]
      exact ⟨by simp [len], len ▸ first.append_gt gt, by simp⟩
    · simp only [Best.consider, gt, decide_false, Bool.false_eq_true, ↓reduceIte]
      have inside : b.index < opps.length := len ▸ first.lt_length
      refine ⟨by simp [len], first.append_le (Int.not_lt.mp gt), ?_⟩
      rw [List.getElem?_append_left inside, at_index]

end Engine

/-! ### What a pass reports and consults -/

/-- The profitable sample that the loan search of `r` found, if any. -/
def found (answer : Route → Outcome LoanResult) (r : Route) : Option LoanSample :=
  match answer r with
  | .ok res => res.best
  | .error _ => none

/-- The candidates whose loan search found a profitable amount, with its sample, in order. -/
def profitable (answer : Route → Outcome LoanResult) (routes : List Route) :
    List (Route × LoanSample) :=
  routes.filterMap fun r => (found answer r).map (r, ·)

/-- An opportunity names a route's pools and a sample's amount and profit at a gas price, and
whether the engine runs dry. -/
structure Opportunity.Describes (o : Opportunity) (config : EngineConfig) (gasPrice : Int)
    (r : Route) (sample : LoanSample) : Prop where
  buyPool : o.buyPool = r.buyPool.checksum
  sellPool : o.sellPool = r.sellPool.checksum
  loanAmount : o.loanAmount = toString sample.amount
  netProfit : o.netProfit = toString sample.profit
  gasPrice : o.gasPrice = toString gasPrice
  dryRun : o.dryRun = config.dryRun

/-- A loop over `n` items, with a context check answering `stop j` before item `j`, ran `k` items
and ended with `err`. -/
def Checked (stop : Nat → Option Failure) (n k : Nat) (err : Option Failure) : Prop :=
  (∀ j < k, stop j = none) ∧ (k = n ∧ err = none ∨ k < n ∧ ∃ f, stop k = some f ∧ err = some f)

namespace Checked

variable {stop : Nat → Option Failure} {n k base : Nat} {err : Option Failure}

theorem finished : Checked stop 0 0 none := ⟨by simp, .inl ⟨rfl, rfl⟩⟩

theorem ended {f : Failure} (h : stop base = some f) :
    Checked (fun j => stop (base + j)) (n + 1) 0 (some f) :=
  ⟨by simp, .inr ⟨by omega, f, h, rfl⟩⟩

theorem live (h : stop base = none) (rest : Checked (fun j => stop (base + 1 + j)) n k err) :
    Checked (fun j => stop (base + j)) (n + 1) (k + 1) err := by
  obtain ⟨passed, done | early⟩ := rest
  · refine ⟨fun j lt => ?_, .inl ⟨by omega, done.2⟩⟩
    cases j with
    | zero => exact h
    | succ j => simpa [Nat.add_assoc, Nat.add_comm 1 j] using passed j (by omega)
  · obtain ⟨lt, f, ended, failed⟩ := early
    refine ⟨fun j lt => ?_, .inr ⟨by omega, f, ?_, failed⟩⟩
    · cases j with
      | zero => exact h
      | succ j => simpa [Nat.add_assoc, Nat.add_comm 1 j] using passed j (by omega)
    · simpa [Nat.add_assoc, Nat.add_comm 1 k] using ended

theorem eq_of_none (h : Checked stop n k none) : k = n := by
  obtain ⟨-, done | ⟨-, f, -, failed⟩⟩ := h
  · exact done.1
  · cases failed

theorem take_all {α : Type} {l : List α} (h : Checked stop l.length k none) : l.take k = l := by
  rw [h.eq_of_none, List.take_length]

theorem lt_of_some {f : Failure} (h : Checked stop n k (some f)) : k < n := by
  obtain ⟨-, ⟨-, failed⟩ | ⟨lt, -⟩⟩ := h
  · cases failed
  · exact lt

end Checked

namespace Engine

/-- What sizing `routes` returned and the calls `made`: one search a route, profitable ones stored,
the best kept. -/
structure Sized (config : EngineConfig) (gasPrice : Int) (answer : Route → Outcome LoanResult)
    (routes : List Route) (opps : List Opportunity) (best : Option Best)
    (out : List Opportunity × Option Best) (made : List Consult) : Prop where
  searched : made.filterMap Consult.searched = routes
  stored : out.1 = opps ++ made.filterMap Consult.stored
  describes : List.Forall₂ (fun o c => o.Describes config gasPrice c.1 c.2)
    (made.filterMap Consult.stored) (profitable answer routes)
  persisted : made.filterMap Consult.persisted = []
  sent : made.filterMap Consult.sent = []
  leads : ∀ cands, Leads cands opps best → Leads (cands ++ profitable answer routes) out.1 out.2

namespace Sized

variable {config : EngineConfig} {gasPrice : Int} {answer : Route → Outcome LoanResult}
  {r : Route} {rest : List Route} {opps : List Opportunity} {best : Option Best}
  {out : List Opportunity × Option Best} {made : List Consult}

theorem done : Sized config gasPrice answer [] opps best (opps, best) [] where
  searched := rfl
  stored := by simp
  describes := by simp [profitable]
  persisted := rfl
  sent := rfl
  leads := fun cands lead => by simpa [profitable] using lead

theorem skip (nothing : found answer r = none)
    (h : Sized config gasPrice answer rest opps best out made) :
    Sized config gasPrice answer (r :: rest) opps best out (.search r :: made) where
  searched := by simp [h.searched]
  stored := by simpa [List.filterMap_cons] using h.stored
  describes := by simpa [List.filterMap_cons, profitable, nothing] using h.describes
  persisted := by simpa [List.filterMap_cons] using h.persisted
  sent := by simpa [List.filterMap_cons] using h.sent
  leads := fun cands lead => by simpa [profitable, nothing] using h.leads cands lead

theorem push {sample : LoanSample} {o : Opportunity} (some_found : found answer r = some sample)
    (describes : o.Describes config gasPrice r sample)
    (h : Sized config gasPrice answer rest (opps ++ [o]) (Best.consider best r sample o opps.length)
      out made) :
    Sized config gasPrice answer (r :: rest) opps best out
      (.search r :: .putOpportunity o :: made) where
  searched := by simp [List.filterMap_cons, h.searched]
  stored := by simpa [List.filterMap_cons] using h.stored
  describes := by
    simp only [List.filterMap_cons, Consult.stored, profitable, some_found, Option.map_some]
    exact List.Forall₂.cons describes h.describes
  persisted := by simpa [List.filterMap_cons] using h.persisted
  sent := by simpa [List.filterMap_cons] using h.sent
  leads := fun cands lead => by
    simpa [profitable, some_found] using h.leads _ (lead.push r sample o)

end Sized

variable {m : Type → Type}

/-- The submission of `(r, sample)` recorded as `record`, with the calls `sent` to the submitter. -/
def Submitted (e : Engine m) (r : Route) (sample : LoanSample) (record : SubmissionRecord)
    (sent : List TxRequest) : Prop :=
  ∃ salt, match e.builder.calldata r (some sample.amount)
      (some (minProfitGuard (some sample.profit) e.config.minProfitBufferBps
        e.config.minProfitBufferWei)) (some salt) with
    | .ok data => sent = [{ target := e.builder.vault, data }]
    | .error f => sent = [] ∧ record.outcome = "failed_all" ∧ record.error = f.message

section Submitted

variable {e : Engine m} {r : Route} {sample : LoanSample} {record : SubmissionRecord} {salt : Nat}

theorem submitted_of_error {f : Failure} (fails : e.builder.calldata r (some sample.amount)
      (some (minProfitGuard (some sample.profit) e.config.minProfitBufferBps
        e.config.minProfitBufferWei)) (some salt) = .error f)
    (outcome : record.outcome = "failed_all") (error : record.error = f.message) :
    Submitted e r sample record [] :=
  ⟨salt, by rw [fails]; exact ⟨rfl, outcome, error⟩⟩

theorem submitted_of_ok {data : Bytes} (built : e.builder.calldata r (some sample.amount)
      (some (minProfitGuard (some sample.profit) e.config.minProfitBufferBps
        e.config.minProfitBufferWei)) (some salt) = .ok data) :
    Submitted e r sample record [{ target := e.builder.vault, data }] :=
  ⟨salt, by rw [built]⟩

end Submitted

/-- The calls `made` in submitting the opportunity `opp` of `(r, sample)`, recorded as `record`. -/
structure SubmitsBest (e : Engine m) (r : Route) (sample : LoanSample) (opp : Opportunity)
    (record : SubmissionRecord) (made : List Consult) : Prop where
  searched : made.filterMap Consult.searched = []
  stored : made.filterMap Consult.stored = []
  persisted : made.filterMap Consult.persisted = [record]
  names : record.opportunityId = opp.id
  sent : Submitted e r sample record (made.filterMap Consult.sent)

/-- What an evaluation that sized every candidate reported, and the calls `made` in it. -/
structure Evaluated (e : Engine m) (gasPrice : Int) (routes : List Route)
    (answer : Route → Outcome LoanResult) (report : Report) (made : List Consult) : Prop where
  candidates : report.candidates = routes.length
  searched : made.filterMap Consult.searched = routes
  opportunities : List.Forall₂ (fun o c => o.Describes e.config gasPrice c.1 c.2)
    report.opportunities (profitable answer routes)
  stored : made.filterMap Consult.stored = report.opportunities
  idle : e.config.dryRun = true ∨ e.submitter = none ∨ profitable answer routes = [] →
    report.submission = none ∧ report.submittedIndex = none ∧
      made.filterMap Consult.persisted = [] ∧ made.filterMap Consult.sent = []
  submits : e.config.dryRun = false → e.submitter ≠ none → profitable answer routes ≠ [] →
    ∃ i c record, FirstMostAt (profitable answer routes) i c ∧ report.submittedIndex = some i ∧
      report.submission = some record ∧ made.filterMap Consult.persisted = [record] ∧
      some record.opportunityId = report.opportunities[i]?.map Opportunity.id ∧
      Submitted e c.1 c.2 record (made.filterMap Consult.sent)

/-- What an evaluation stopped by its context before candidate `k` reported, and the calls `made` in
it. -/
structure Stopped (e : Engine m) (gasPrice : Int) (routes : List Route) (k : Nat)
    (answer : Route → Outcome LoanResult) (report : Report) (made : List Consult) : Prop where
  candidates : report.candidates = routes.length
  searched : made.filterMap Consult.searched = routes.take k
  opportunities : List.Forall₂ (fun o c => o.Describes e.config gasPrice c.1 c.2)
    report.opportunities (profitable answer (routes.take k))
  stored : made.filterMap Consult.stored = report.opportunities
  idle : report.submission = none ∧ report.submittedIndex = none ∧
    made.filterMap Consult.persisted = [] ∧ made.filterMap Consult.sent = []

/-- What an evaluation returned, and the calls `made` in it, for the script of its world. -/
def Passed (e : Engine m) (fees : Outcome Fees) (routes : List Route)
    (answer : Option Int → Route → Outcome LoanResult) (stop : Nat → Option Failure)
    (result : Report × Option Failure) (made : List Consult) : Prop :=
  match fees with
  | .error f => result = ({ candidates := 0 }, some (f.wrap "select fees")) ∧ made = []
  | .ok fees => ∃ k, Checked stop routes.length k result.2 ∧
    (k = routes.length → e.Evaluated fees.gasPrice routes (answer (some fees.gasPrice)) result.1 made) ∧
    (k < routes.length → e.Stopped fees.gasPrice routes k (answer (some fees.gasPrice)) result.1 made)

namespace Evaluated

variable {e : Engine m} {g : Int} {answer : Route → Outcome LoanResult} {routes : List Route}
  {out : List Opportunity × Option Best} {made : List Consult}

theorem of_no_candidates {rs : List Route} (none : rs = []) :
    Evaluated e g [] answer { candidates := rs.length } [.list] where
  candidates := by simp [none]
  searched := rfl
  opportunities := by simp [profitable]
  stored := rfl
  idle := fun _ => ⟨rfl, rfl, rfl, rfl⟩
  submits := fun _ _ some => absurd rfl some

theorem of_idle (sized : Sized e.config g answer routes [] none out made)
    (idle : e.config.dryRun = true ∨ e.submitter = none ∨ out.2 = none) :
    Evaluated e g routes answer { candidates := routes.length, opportunities := out.1 }
      (.list :: made) := by
  have lead : Leads (profitable answer routes) out.1 out.2 := by
    simpa using sized.leads [] ⟨rfl, rfl⟩
  have stored : out.1 = made.filterMap Consult.stored := by simpa using sized.stored
  refine ⟨rfl, sized.searched, stored ▸ sized.describes, stored.symm,
    fun _ => ⟨rfl, rfl, sized.persisted, sized.sent⟩, fun wet armed nonempty => ?_⟩
  rcases idle with dry | unarmed | noBest
  · simp [wet] at dry
  · exact absurd unarmed armed
  · rw [noBest] at lead
    exact absurd lead.1 nonempty

theorem of_submitted {b : Best} {made' : List Consult} {submit : TxSubmit m}
    {record : SubmissionRecord} (sized : Sized e.config g answer routes [] none out made)
    (kept : out.2 = some b) (wet : e.config.dryRun = false) (armed : e.submitter = some submit)
    (submits : SubmitsBest e b.route b.sample b.opportunity record made') :
    Evaluated e g routes answer
      { candidates := routes.length, opportunities := out.1, submission := some record,
        submittedIndex := some b.index } (.list :: (made ++ made')) := by
  obtain ⟨-, first, at_index⟩ : Leads (profitable answer routes) out.1 (some b) := by
    simpa [kept] using sized.leads [] ⟨rfl, rfl⟩
  have stored : out.1 = made.filterMap Consult.stored := by simpa using sized.stored
  refine ⟨rfl, by simp [List.filterMap_cons, submits.searched, sized.searched], stored ▸ sized.describes,
    by simp [List.filterMap_cons, submits.stored, stored], fun idle => ?_, fun _ _ _ => ?_⟩
  · rcases idle with dry | unarmed | nothing
    · simp [wet] at dry
    · simp [armed] at unarmed
    · have inside := first.lt_length
      simp [nothing] at inside
  · refine ⟨b.index, (b.route, b.sample), record, first, rfl, rfl, ?_, ?_, ?_⟩
    · simp [List.filterMap_cons, submits.persisted, sized.persisted]
    · simp [at_index, submits.names]
    · simpa [List.filterMap_cons, sized.sent] using submits.sent

end Evaluated

theorem Stopped.of_sized {e : Engine m} {g : Int} {answer : Route → Outcome LoanResult}
    {routes : List Route} {k : Nat} {out : List Opportunity × Option Best} {made : List Consult}
    (sized : Sized e.config g answer (routes.take k) [] none out made) :
    Stopped e g routes k answer { candidates := routes.length, opportunities := out.1 }
      (.list :: made) := by
  have stored : out.1 = made.filterMap Consult.stored := by simpa using sized.stored
  exact ⟨rfl, sized.searched, stored ▸ sized.describes, stored.symm,
    ⟨rfl, rfl, sized.persisted, sized.sent⟩⟩

namespace Passed

variable {e : Engine m} {fs : Fees} {routes : List Route}
  {answer : Option Int → Route → Outcome LoanResult} {stop : Nat → Option Failure}
  {report : Report} {made : List Consult} {k : Nat}

theorem finished (checked : Checked stop routes.length k none)
    (evaluated : e.Evaluated fs.gasPrice routes (answer (some fs.gasPrice)) report made) :
    e.Passed (.ok fs) routes answer stop (report, none) made :=
  ⟨k, checked, fun _ => evaluated, fun lt => absurd checked.eq_of_none (Nat.ne_of_lt lt)⟩

theorem stopped {f : Failure} (checked : Checked stop routes.length k (some f))
    (stopped : e.Stopped fs.gasPrice routes k (answer (some fs.gasPrice)) report made) :
    e.Passed (.ok fs) routes answer stop (report, some f) made :=
  ⟨k, checked, fun eq => absurd eq (Nat.ne_of_lt checked.lt_of_some), fun _ => stopped⟩

end Passed

end Engine

/-! ### Evaluating in a scripted world -/

variable {σ : Type}

/-- A world answering an evaluation under `ended` from the script `fees`, `routes`, `answer` and
`stop`. -/
structure Engine.Scripted [LogSink (StateM σ)] [Recorder (StateM σ)] (e : Engine (StateM σ))
    (ended : StateM σ (Option Failure)) (fees : Outcome Fees) (routes : List Route)
    (answer : Option Int → Route → Outcome LoanResult) (stop : Nat → Option Failure)
    (calls : σ → List Consult) : Prop extends Quiet calls where
  selects : ∀ q, ((e.fees ended).run q).run.1 = fees ∧ calls ((e.fees ended).run q).run.2 = calls q
  context : ∀ q, (ended.run q).run.1 = stop ((calls q).filterMap Consult.searched).length ∧
    calls (ended.run q).run.2 = calls q
  lists : ∀ c q, ((e.finder c).run q).run.1 = routes ∧
    calls ((e.finder c).run q).run.2 = calls q ++ [.list]
  searches : ∀ c g r q, ((e.loans c r g).run q).run.1 = answer g r ∧
    calls ((e.loans c r g).run q).run.2 = calls q ++ [.search r]
  stores : ∀ o q, calls ((e.sink.putOpportunity o).run q).run.2 = calls q ++ [.putOpportunity o]
  persists : ∀ record q,
    calls ((e.sink.putSubmission record).run q).run.2 = calls q ++ [.putSubmission record]
  submits : ∀ submit, e.submitter = some submit →
    ∀ req q, calls ((submit req).run q).run.2 = calls q ++ [.submit req]
  ticks : ∀ q, calls (e.clock.run q).run.2 = calls q
  draws : ∀ q, calls (e.salt.run q).run.2 = calls q

namespace Engine

variable [LogSink (StateM σ)] [Recorder (StateM σ)] {e : Engine (StateM σ)}
  {ended : StateM σ (Option Failure)} {fees : Outcome Fees} {routes : List Route}
  {answer : Option Int → Route → Outcome LoanResult} {stop : Nat → Option Failure}
  {calls : σ → List Consult} (world : e.Scripted ended fees routes answer stop calls)
include world

namespace Scripted

theorem fees_spec (C : List Consult) :
    ⦃fun q => ⌜calls q = C⌝⦄ e.fees ended ⦃⇓ r q => ⌜fees = r ∧ calls q = C⌝⦄ :=
  triple_of_run fun q pre => ⟨(world.selects q).1.symm, pre ▸ (world.selects q).2⟩

theorem context_spec (C : List Consult) :
    ⦃fun q => ⌜calls q = C⌝⦄ ended
      ⦃⇓ r q => ⌜stop (C.filterMap Consult.searched).length = r ∧ calls q = C⌝⦄ :=
  triple_of_run fun q pre => ⟨pre ▸ (world.context q).1.symm, pre ▸ (world.context q).2⟩

theorem finder_spec (c : PoolCache) (C : List Consult) :
    ⦃fun q => ⌜calls q = C⌝⦄ e.finder c ⦃⇓ rs q => ⌜routes = rs ∧ calls q = C ++ [.list]⌝⦄ :=
  triple_of_run fun q pre => ⟨(world.lists c q).1.symm, pre ▸ (world.lists c q).2⟩

theorem search_spec (c : PoolCache) (g : Option Int) (r : Route) (C : List Consult) :
    ⦃fun q => ⌜calls q = C⌝⦄ e.loans c r g ⦃⇓ res q => ⌜answer g r = res ∧ calls q = C ++ [.search r]⌝⦄ :=
  triple_of_run fun q pre => ⟨(world.searches c g r q).1.symm, pre ▸ (world.searches c g r q).2⟩

theorem store_spec (o : Opportunity) (C : List Consult) :
    ⦃fun q => ⌜calls q = C⌝⦄ e.sink.putOpportunity o
      ⦃⇓ _ q => ⌜calls q = C ++ [.putOpportunity o]⌝⦄ :=
  triple_of_run fun q pre => pre ▸ world.stores o q

theorem persist_spec (record : SubmissionRecord) (C : List Consult) :
    ⦃fun q => ⌜calls q = C⌝⦄ e.sink.putSubmission record
      ⦃⇓ _ q => ⌜calls q = C ++ [.putSubmission record]⌝⦄ :=
  triple_of_run fun q pre => pre ▸ world.persists record q

theorem submit_spec {submit : TxSubmit (StateM σ)} (known : e.submitter = some submit)
    (req : TxRequest) (C : List Consult) :
    ⦃fun q => ⌜calls q = C⌝⦄ submit req ⦃⇓ _ q => ⌜calls q = C ++ [.submit req]⌝⦄ :=
  triple_of_run fun q pre => pre ▸ world.submits submit known req q

theorem clock_spec (C : List Consult) : ⦃fun q => ⌜calls q = C⌝⦄ e.clock ⦃⇓ _ q => ⌜calls q = C⌝⦄ :=
  keeps_spec world.ticks C

theorem salt_spec (C : List Consult) : ⦃fun q => ⌜calls q = C⌝⦄ e.salt ⦃⇓ _ q => ⌜calls q = C⌝⦄ :=
  keeps_spec world.draws C

end Scripted

theorem opportunity_spec (r : Route) (sample : LoanSample) (gasPrice : Int) (C : List Consult) :
    ⦃fun _ q => ⌜calls q = C⌝⦄ e.opportunity r sample gasPrice
      ⦃⇓ o _ q => ⌜calls q = C ∧ o.Describes e.config gasPrice r sample⌝⦄ := by
  have clock := world.clock_spec
  unfold opportunity
  mvcgen [clock]
  next _ _ pre _ _ kept _ => exact ⟨kept.trans pre, ⟨rfl, rfl, rfl, rfl, rfl, rfl⟩⟩

theorem sizeRoutes_spec (g : Int) (rs : List Route) (opps : List Opportunity)
    (best : Option Best) (C : List Consult) :
    ⦃fun _ q => ⌜calls q = C⌝⦄ e.sizeRoutes ended g rs opps best
      ⦃⇓ out _ q => ⌜∃ made k, calls q = C ++ made ∧
        Checked (fun j => stop ((C.filterMap Consult.searched).length + j)) rs.length k out.2.2 ∧
        Sized e.config g (answer (some g)) (rs.take k) opps best (out.1, out.2.1) made⌝⦄ := by
  induction rs generalizing opps best C with
  | nil =>
    unfold sizeRoutes
    mvcgen
    next _ q logged => exact ⟨[], 0, by rw [logged, List.append_nil], Checked.finished, Sized.done⟩
  | cons r rest ih =>
    have context := world.context_spec
    have search := world.search_spec
    have opportunity := opportunity_spec world
    have store := world.store_spec
    have emit := world.emit_spec
    unfold sizeRoutes
    mvcgen [context, search, opportunity, store, ih, emit, emit_stateT, Log.warn, Log.debug, Log.info]
    next _ q logged _ f _ _ read =>
      exact ⟨[], 0, by rw [read.2, logged, List.append_nil], Checked.ended (logged ▸ read.1), Sized.done⟩
    all_goals rintro ⟨made, k, logged, checked, sized⟩
    iterate 2
      exact ⟨_, k + 1, by simp_all,
        Checked.live (by simp_all [Option.eq_none_iff_forall_ne_some]) (by simp_all),
        sized.skip (by simp_all [found])⟩
    all_goals
      exact ⟨_, k + 1, by simp_all,
        Checked.live (by simp_all [Option.eq_none_iff_forall_ne_some]) (by simp_all [List.filterMap_cons]),
        sized.push (by simp_all [found]) (by simp_all)⟩

theorem nowText_spec (C : List Consult) :
    ⦃fun _ q => ⌜calls q = C⌝⦄ e.nowText ⦃⇓ _ _ q => ⌜calls q = C⌝⦄ := by
  have clock := world.clock_spec
  unfold nowText
  mvcgen [clock]
  all_goals simp_all

theorem submitBest_spec {submit : TxSubmit (StateM σ)} (known : e.submitter = some submit)
    (r : Route) (sample : LoanSample) (opp : Opportunity) (C : List Consult) :
    ⦃fun _ q => ⌜calls q = C⌝⦄ e.submitBest submit r sample opp
      ⦃⇓ record _ q => ⌜∃ made, calls q = C ++ made ∧ SubmitsBest e r sample opp record made⌝⦄ := by
  have now := nowText_spec world
  have salt := world.salt_spec
  have sent := world.submit_spec known
  have persist := world.persist_spec
  have emit := world.emit_spec
  have record := world.record_spec
  unfold submitBest
  mvcgen [now, salt, sent, persist, emit, record, emit_stateT, record_stateT, Log.error, Log.info,
    Log.warn]
  iterate 2
    refine ⟨[.putSubmission _], ?_, rfl, rfl, rfl, rfl, submitted_of_error ‹_› rfl rfl⟩
    simp_all
  iterate 2
    refine ⟨[.submit _, .putSubmission _], ?_, rfl, rfl, rfl, rfl, submitted_of_ok ‹_›⟩
    simp_all

theorem pass_spec (C : List Consult) :
    ⦃fun _ q => ⌜calls q = C⌝⦄ e.pass ended
      ⦃⇓ result _ q => ⌜∃ made, calls q = C ++ made ∧
        e.Passed fees routes answer (fun j => stop ((C.filterMap Consult.searched).length + j))
          result made⌝⦄ := by
  have selected := world.fees_spec
  have listed := world.finder_spec
  have sized := sizeRoutes_spec world
  have emit := world.emit_spec
  have record := world.record_spec
  unfold pass
  mvcgen [selected, listed, sized, emit, record, emit_stateT, record_stateT, Log.debug, Log.info]
  next _ q logged _ f _ _ selected =>
    refine ⟨[], by rw [selected.2, logged, List.append_nil], ?_⟩
    rw [selected.1]
    exact ⟨rfl, rfl⟩
  all_goals
    obtain ⟨rfl, _⟩ := ‹fees = _ ∧ _›
    obtain ⟨rfl, _⟩ := ‹routes = _ ∧ _›
  next =>
    obtain rfl := List.isEmpty_iff.mp ‹_›
    exact ⟨[.list], by simp_all, Passed.finished Checked.finished (Evaluated.of_no_candidates rfl)⟩
  all_goals
    obtain ⟨made, k, logged, checked, sized⟩ := ‹∃ made k, _›
  next =>
    exact ⟨.list :: made, by simp_all,
      Passed.stopped (by simp_all [List.filterMap_cons]) (Stopped.of_sized sized)⟩
  all_goals
    obtain rfl := Option.eq_none_iff_forall_ne_some.mpr ‹∀ f : Failure, _›
    replace checked : Checked (fun j => stop ((C.filterMap Consult.searched).length + j))
        routes.length k none := by
      simp_all [List.filterMap_cons]
    rw [checked.take_all] at sized
  next => exact ⟨.list :: made, by simp_all, Passed.finished checked (Evaluated.of_idle sized (.inr (.inr ‹_›)))⟩
  next => exact ⟨.list :: made, by simp_all, Passed.finished checked (Evaluated.of_idle sized (.inl ‹_›))⟩
  next =>
    have submitted := submitBest_spec world ‹_›
    mvcgen [submitted, record, record_stateT]
    obtain ⟨made', logged', submits⟩ := ‹∃ made, _ ∧ SubmitsBest _ _ _ _ _ made›
    exact ⟨.list :: (made ++ made'), by simp_all, Passed.finished checked
      (Evaluated.of_submitted sized ‹_› (by simpa using ‹¬e.config.dryRun = true›) ‹_› submits)⟩
  next => exact ⟨.list :: made, by simp_all, Passed.finished checked (Evaluated.of_idle sized (.inr (.inl ‹_›)))⟩

theorem evaluate_spec (C : List Consult) :
    ⦃fun _ q => ⌜calls q = C⌝⦄ e.evaluate ended
      ⦃⇓ result _ q => ⌜∃ made, calls q = C ++ made ∧
        e.Passed fees routes answer (fun j => stop ((C.filterMap Consult.searched).length + j))
          result made⌝⦄ := by
  have passed := pass_spec world
  have record := world.record_spec
  unfold evaluate
  mvcgen [passed, record, record_stateT]
  obtain rfl := ‹calls _ = C›
  obtain ⟨made, logged, passed⟩ := ‹∃ made, _ ∧ _›
  exact ⟨made, by simp_all, passed⟩

end Engine

theorem run_of_tripleT {ρ α : Type} {op : StateT ρ (StateM σ) α} {P : σ → Prop}
    {Q : α → σ → Prop} (h : ⦃fun _ q => ⌜P q⌝⦄ op ⦃⇓ a _ q => ⌜Q a q⌝⦄) (s : ρ) (q : σ)
    (hq : P q) : Q ((op.run s).run q).run.1.1 ((op.run s).run q).run.2 := by
  have holds := h s q hq
  simpa [wp] using holds

/-- An evaluation in a scripted world returns and consults as `Passed` says: a fee failure ends it
at once; otherwise it searches the candidates in order until the context ends, reports the
profitable ones, and a full pass submits the first most profitable one. -/
theorem evaluation_submits_first_most_profitable [LogSink (StateM σ)] [Recorder (StateM σ)]
    {e : Engine (StateM σ)} {ended : StateM σ (Option Failure)} {fees : Outcome Fees}
    {routes : List Route} {answer : Option Int → Route → Outcome LoanResult}
    {stop : Nat → Option Failure} {calls : σ → List Consult}
    (world : e.Scripted ended fees routes answer stop calls) (s : EngineState) (q : σ) :
    ∃ made, calls (((e.evaluate ended).run s).run q).run.2 = calls q ++ made ∧
      e.Passed fees routes answer
        (fun j => stop (((calls q).filterMap Consult.searched).length + j))
        (((e.evaluate ended).run s).run q).run.1.1 made :=
  run_of_tripleT (Engine.evaluate_spec world (calls q)) s q rfl

/-- An engine whose collaborators log their calls as `Consult`s and answer from a fixed script. -/
def loggingEngine {m : Type → Type} [Monad m] [MonadStateOf (List Consult) m] (fees : Outcome Fees)
    (routes : List Route) (result : LoanResult) : Engine m where
  config := default
  fetcher :=
    { reader := { call := fun _ _ => pure (.ok []), latestBlock := pure (.ok 0) }
      loanToken := Address.zero
      quoteToken := Address.zero }
  finder := fun _ => do
    modifyThe (List Consult) (· ++ [.list])
    pure routes
  loans := fun _ r _ => do
    modifyThe (List Consult) (· ++ [.search r])
    pure (.ok result)
  fees := fun _ => pure fees
  builder := { vault := Address.zero, executor := Address.zero }
  sink :=
    { putOpportunity := fun o => do
        modifyThe (List Consult) (· ++ [.putOpportunity o])
        pure (.ok ())
      putSubmission := fun record => do
        modifyThe (List Consult) (· ++ [.putSubmission record])
        pure (.ok ())
      close := pure (.ok ()) }
  submitter := some fun req => do
    modifyThe (List Consult) (· ++ [.submit req])
    pure (default, none)
  logs := none
  disk :=
    { stat := fun _ => pure (.error .noEntry)
      readFile := fun _ => pure (.error (Failure.plain "no file"))
      mkdirAll := fun _ => pure (.ok ())
      writeFile := fun _ _ => pure (.ok ())
      appendFile := fun _ _ => pure (.ok ())
      rename := fun _ _ => pure (.ok ()) }
  clock := pure 0
  salt := pure 0

/-- A context that has ended with `stop j` once `j` loan searches are logged. -/
def endsAfter (stop : Nat → Option Failure) : StateM (List Consult) (Option Failure) := do
  return stop ((← get).filterMap Consult.searched).length

theorem loggingEngine_scripted (fees : Outcome Fees) (routes : List Route) (result : LoanResult)
    (stop : Nat → Option Failure) :
    (loggingEngine fees routes result : Engine (StateM (List Consult))).Scripted (endsAfter stop)
      fees routes (fun _ _ => .ok result) stop id where
  emit := fun _ _ => rfl
  record := fun _ _ => rfl
  selects := fun _ => ⟨rfl, rfl⟩
  context := fun _ => ⟨rfl, rfl⟩
  lists := fun _ _ => ⟨rfl, rfl⟩
  searches := fun _ _ _ _ => ⟨rfl, rfl⟩
  stores := fun _ _ => rfl
  persists := fun _ _ => rfl
  submits := by
    rintro _ ⟨⟩ _ _
    rfl
  ticks := fun _ => rfl
  draws := fun _ => rfl

/-- Two candidates that each pay 3 on a loan of 5, evaluated from a fresh state and an empty log
by a logging engine: under a context that stays live, and under one cancelled once the first
candidate is searched. -/
theorem logged_evaluation_submits_once :
    let s₀ : EngineState :=
      { cache := {}, seen := { capacity := 4096 }, checkpoint := { path := [], enabled := false } }
    let paying : LoanResult := { effectiveMax := 10, best := some ⟨5, 3⟩ }
    let e : Engine (StateM (List Consult)) := loggingEngine (.ok default) [default, default] paying
    let live : Nat → Option Failure := fun _ => none
    let cancelled : Nat → Option Failure := fun j =>
      if j = 0 then none else some (Failure.plain "context canceled")
    (e.Scripted (endsAfter live) (.ok default) [default, default] (fun _ _ => .ok paying) live id ∧
      ∃ made, (((e.evaluate (endsAfter live)).run s₀).run []).run.2 = made ∧
        e.Passed (.ok default) [default, default] (fun _ _ => .ok paying) live
          (((e.evaluate (endsAfter live)).run s₀).run []).run.1.1 made) ∧
    (e.Scripted (endsAfter cancelled) (.ok default) [default, default] (fun _ _ => .ok paying)
        cancelled id ∧
      ∃ made, (((e.evaluate (endsAfter cancelled)).run s₀).run []).run.2 = made ∧
        e.Passed (.ok default) [default, default] (fun _ _ => .ok paying) cancelled
          (((e.evaluate (endsAfter cancelled)).run s₀).run []).run.1.1 made) := by
  intro s₀ paying e live cancelled
  have scripted := loggingEngine_scripted (.ok default) [default, default] paying
  obtain ⟨made, logged, passed⟩ := evaluation_submits_first_most_profitable (scripted live) s₀ []
  obtain ⟨made', logged', passed'⟩ :=
    evaluation_submits_first_most_profitable (scripted cancelled) s₀ []
  exact ⟨⟨scripted live, made, logged, by simpa using passed⟩,
    ⟨scripted cancelled, made', logged', by simpa using passed'⟩⟩

end FlashArb
