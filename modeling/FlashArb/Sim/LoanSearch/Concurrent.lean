import FlashArb.Sim.LoanSearch

/-! Scoring the grid in concurrent tasks, in any order of completion. -/
namespace FlashArb

/-- For each number of concurrent tasks, the order in which they complete, as their positions in
the list they were started from. -/
abbrev CompletionOrder := (n : Nat) → List (Fin n)

namespace LoanSearch

variable {m : Type → Type} [Monad m] [LogSink m] [Recorder m]

/-- Runs the scoring tasks of `amounts` in the order `order` in which they complete; each task
writes the sample of its amount into its own slot. -/
def fanOut (l : LoanSearch m) (r : Route) (gasPrice : Option Int) (amounts : List Int) :
    List (Fin amounts.length) → (Fin amounts.length → Option LoanSample) →
      m (Fin amounts.length → Option LoanSample)
  | [], slots => pure slots
  | i :: rest, slots => do
    let sample ← l.score r gasPrice amounts[i]
    l.fanOut r gasPrice amounts rest fun j => if j = i then sample else slots j

/-- Searches the grid for the most profitable loan amount, its amounts scored by concurrent
tasks that complete in `order`. Fails only when a bound is not a convertible amount. -/
def findOptimalUnder (l : LoanSearch m) (order : CompletionOrder) (r : Route)
    (gasPrice : Option Int) : m (Outcome LoanResult) := do
  let dec := l.config.loanDecimals
  match Units.toBase l.config.minLoan dec with
  | .error f => return .error (f.wrap "min loan")
  | .ok minLoan =>
  match Units.toBase l.config.maxLoan dec with
  | .error f => return .error (f.wrap "max loan")
  | .ok maxLoan =>
  let effMax := match ← l.dynamicCap r with
    | some cap => if cap < maxLoan then cap else maxLoan
    | none => maxLoan
  let amounts := sampleAmounts minLoan effMax l.config.iterations
  Log.info "searching optimal loan amount"
    [Log.text "buy_pool" r.buyPool.checksum, Log.text "sell_pool" r.sellPool.checksum,
      Log.text "min" (Units.format (some minLoan) dec),
      Log.text "effective_max" (Units.format (some effMax) dec), Log.nat "samples" amounts.length]
  if amounts.isEmpty then return .ok { effectiveMax := effMax }
  -- every slot starts empty; the selection reads them only after all tasks are done
  let slots ← l.fanOut r gasPrice amounts (order amounts.length) fun _ => none
  let scored := List.ofFn slots
  let samples := scored.filterMap id
  let failed := (scored.filter Option.isNone).length
  let result : LoanResult := { effectiveMax := effMax, samples, failed }
  match bestSample samples with
  | some b =>
    if b.profit > 0 then
      Log.info "optimal loan amount found"
        [Log.text "loan" (Units.format (some b.amount) dec),
          Log.text "net_profit" (Units.format (some b.profit) dec)]
      return .ok { result with best := some b }
    else
      Log.info "no profitable loan amount in range"
        [Log.nat "evaluated" samples.length, Log.nat "failed" failed]
      return .ok result
  | none =>
    Log.info "no profitable loan amount in range"
      [Log.nat "evaluated" samples.length, Log.nat "failed" failed]
    return .ok result

end LoanSearch

end FlashArb
