import FlashArb.Sim.Profit
import FlashArb.Pool.State
import FlashArb.Price.Units

/-! Choosing the loan size: the first amount of highest positive profit on a grid. -/
namespace FlashArb

/-- Bounds of the loan search; the loans are in loan-token units. -/
structure LoanConfig where
  minLoan : Float := 0
  maxLoan : Float := 0
  loanDecimals : Nat := 0
  iterations : Int := 0
  concurrency : Int := 0
  dynamicCapPercent : Nat := 0

/-- One scored loan amount. -/
structure LoanSample where
  amount : Int
  profit : Int
deriving DecidableEq, Inhabited

/-- The result of a search: the samples that could be scored, in grid order, the number that
could not, the effective largest loan and the best sample when it is profitable. -/
structure LoanResult where
  best : Option LoanSample := none
  effectiveMax : Int
  samples : List LoanSample := []
  failed : Nat := 0

def gridPoint (lo hi : Int) (n i : Nat) : Int :=
  if n == 1 then lo + (hi - lo).tdiv 2
  else lo + ((hi - lo) * i).tdiv (n - 1 : Nat)

/-- `n` amounts spread evenly over `[lo, hi]`, or its midpoint for `n = 1`; zero amounts and
amounts outside the range are left out. -/
def sampleAmounts (lo hi : Int) (n : Int) : List Int :=
  if n < 1 then []
  else
    let k := n.toNat
    (List.range k).map (gridPoint lo hi k) |>.filter fun a => a != 0 && lo ≤ a && a ≤ hi

/-- The amounts of `sampleAmounts` when both bounds are known, and none otherwise. -/
def sampleAmountsOf : Option Int → Option Int → Int → List Int
  | some lo, some hi, n => sampleAmounts lo hi n
  | _, _, _ => []

/-- The sample of highest profit, the first of equals. -/
def bestSample : List LoanSample → Option LoanSample
  | [] => none
  | s :: rest =>
    match bestSample rest with
    | none => some s
    | some b => if b.profit > s.profit then some b else some s

/-- A loan search: a profit function of a route, a loan amount and a gas price, the
snapshots of pools when they can be read, and the bounds. -/
structure LoanSearch (m : Type → Type) where
  profit : Route → Int → Option Int → m (Outcome Int)
  snapshot : Option (Address → Option PoolSnapshot)
  config : LoanConfig

namespace LoanSearch

variable {m : Type → Type} [Monad m] [LogSink m] [Recorder m]

/-- A share of the buy pool's loan-token reserve that bounds the loan, or `none` when no cap
applies. -/
def dynamicCap (l : LoanSearch m) (r : Route) : m (Option Int) := do
  match l.snapshot with
  | none => return none
  | some read =>
    if r.buyKind.isConstantProduct then
      match read r.buyPool with
      | none =>
        Log.warn "no snapshot for dynamic cap, using configured max"
          [Log.text "pool" r.buyPool.checksum]
        return none
      | some snap =>
        match snap.reserveOf r.loanToken with
        | none =>
          Log.error "loan token reserve missing for dynamic cap"
            [Log.text "pool" r.buyPool.checksum, Log.text "loan_token" r.loanToken.checksum]
          return none
        | some reserve => return some ((reserve * l.config.dynamicCapPercent).tdiv 100)
    else if r.buyKind == .concentrated then
      Log.warn "concentrated liquidity depth is not analysed, using configured max loan"
        [Log.text "pool" r.buyPool.checksum]
      return none
    else return none

/-- Scores one amount, reporting how it turned out. -/
def score (l : LoanSearch m) (r : Route) (gasPrice : Option Int) (amount : Int) :
    m (Option LoanSample) := do
  match ← l.profit r amount gasPrice with
  | .error f =>
    Recorder.record (.sample .failed)
    Log.warn "loan sample failed" [Log.text "amount" (toString amount), Log.failure f]
    return none
  | .ok p =>
    Recorder.record (.sample (if p > 0 then .profitable else .unprofitable))
    return some ⟨amount, p⟩

/-- Searches the grid for the most profitable loan amount. -/
def findOptimal (l : LoanSearch m) (r : Route) (gasPrice : Option Int) :
    m (Outcome LoanResult) := do
  let dec := l.config.loanDecimals
  match Units.toBase l.config.minLoan dec with
  | .error f => return .error (f.wrap "min loan")
  | .ok minLoan =>
  match Units.toBase l.config.maxLoan dec with
  | .error f => return .error (f.wrap "max loan")
  | .ok maxLoan =>
  let effMax := match ← l.dynamicCap r with
    | some cap => if cap < maxLoan then cap else maxLoan
    | none => maxLoan
  let amounts := sampleAmounts minLoan effMax l.config.iterations
  Log.info "searching optimal loan amount"
    [Log.text "buy_pool" r.buyPool.checksum, Log.text "sell_pool" r.sellPool.checksum,
      Log.text "min" (Units.format (some minLoan) dec),
      Log.text "effective_max" (Units.format (some effMax) dec), Log.nat "samples" amounts.length]
  if amounts.isEmpty then return .ok { effectiveMax := effMax }
  let scored ← amounts.mapM (l.score r gasPrice)
  let samples := scored.filterMap id
  let failed := (scored.filter Option.isNone).length
  let result : LoanResult := { effectiveMax := effMax, samples, failed }
  match bestSample samples with
  | some b =>
    if b.profit > 0 then
      Log.info "optimal loan amount found"
        [Log.text "loan" (Units.format (some b.amount) dec),
          Log.text "net_profit" (Units.format (some b.profit) dec)]
      return .ok { result with best := some b }
    else
      Log.info "no profitable loan amount in range"
        [Log.nat "evaluated" samples.length, Log.nat "failed" failed]
      return .ok result
  | none =>
    Log.info "no profitable loan amount in range"
      [Log.nat "evaluated" samples.length, Log.nat "failed" failed]
    return .ok result

end LoanSearch

end FlashArb
