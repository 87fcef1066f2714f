import FlashArb.Engine.Core
import FlashArb.Loan.Guard
import FlashArb.Price.Units
import FlashArb.Crypto.Keccak

/-! One evaluation pass: fees, candidates, loan sizes, opportunities and a submission. -/
namespace FlashArb

/-- What one evaluation pass found and did. -/
structure Report where
  candidates : Nat
  opportunities : List Opportunity := []
  submission : Option SubmissionRecord := none
  /-- The position among the opportunities of the one submitted. -/
  submittedIndex : Option Nat := none

namespace Engine

variable {m : Type → Type} [Monad m] [LogSink m] [Recorder m]

def opportunityId (block : UInt64) (nowNs : Nat) (r : Route) (amount : Int) : String :=
  let seed := Bytes.ofNat 8 block.toNat ++ Bytes.ofNat 8 nowNs
  let digest := Keccak.hash (r.buyPool.bytes ++ r.sellPool.bytes ++ Bytes.ofNatMinimal amount.natAbs ++ seed)
  toString block ++ "-" ++ Bytes.toHex (digest.take 6)

/-- The opportunity of a route sized by a sample, at the current head and time. -/
def opportunity (e : Engine m) (r : Route) (sample : LoanSample) (gasPrice : Int) :
    EngineM m Opportunity := do
  let now ← e.clock
  let block := (← get).head
  return { id := opportunityId block now r sample.amount, detectedAt := Time.rfc3339Nano now,
           block := block.toNat, buyPool := r.buyPool.checksum, sellPool := r.sellPool.checksum,
           buyKind := r.buyKind.name, sellKind := r.sellKind.name, buyPrice := r.buyPrice,
           sellPrice := r.sellPrice, loanAmount := toString sample.amount,
           loanHuman := Units.format (some sample.amount) e.config.loanDecimals,
           netProfit := toString sample.profit, gasPrice := toString gasPrice,
           dryRun := e.config.dryRun }

/-- The record of a finished submission. -/
def submissionRecord (id : String) (res : Submission) (err : Option Failure) : SubmissionRecord :=
  let receipt := res.receipt
  { opportunityId := id, states := some (res.stages.map Stage.name),
    outcome := (res.outcome.map Stage.name).getD "", via := res.via, nonce := res.nonce,
    txHash := if res.txHash == Hash.zero then "" else res.txHash.hex,
    gasUsed := (receipt.map (·.gasUsed)).getD 0,
    block := ((receipt.bind (·.block))).getD 0,
    error := (err.map (·.message)).getD "" }

/-- Builds the call of an opportunity and submits it, recording the outcome. -/
def submitBest (e : Engine m) (submit : TxSubmit m) (r : Route) (sample : LoanSample)
    (opp : Opportunity) : EngineM m SubmissionRecord := do
  let submittedAt ← e.nowText
  let minProfit := minProfitGuard (some sample.profit) e.config.minProfitBufferBps e.config.minProfitBufferWei
  let salt ← e.salt
  let record ← match e.builder.calldata r (some sample.amount) (some minProfit) (some salt) with
    | .error f =>
      Log.error "build flash-loan call failed" [Log.text "id" opp.id, Log.failure f]
      pure { opportunityId := opp.id, states := some [], outcome := "failed_all", error := f.message }
    | .ok data => do
      let (res, err) ← (submit { target := e.builder.vault, data } : m _)
      let record := submissionRecord opp.id res err
      Log.info "submission finished" [Log.text "id" opp.id, Log.text "outcome" record.outcome,
        Log.text "tx_hash" record.txHash, Log.text "min_profit" (toString minProfit)]
      pure record
  let record := { record with submittedAt, finishedAt := ← e.nowText }
  Recorder.record (.submission record.outcome)
  if let .error f := ← (e.sink.putSubmission record : m _) then
    Log.warn "persist submission failed" [Log.text "id" opp.id, Log.failure f]
  return record

/-- The most profitable of the pending opportunities so far and where it stands. -/
structure Best where
  route : Route
  sample : LoanSample
  opportunity : Opportunity
  index : Nat

/-- Sizes the loan of each route, recording the profitable ones; keeps the best. -/
def sizeRoutes (e : Engine m) (ended : m (Option Failure)) (gasPrice : Int) :
    List Route → List Opportunity → Option Best →
      EngineM m (List Opportunity × Option Best × Option Failure)
  | [], opps, best => return (opps, best, none)
  | r :: rest, opps, best => do
    if let some f := ← (ended : m _) then return (opps, best, some f)
    let cache := (← get).cache
    match ← (e.loans cache r (some gasPrice) : m _) with
    | .error f =>
      Log.warn "loan search failed"
        [Log.text "buy_pool" r.buyPool.checksum, Log.text "sell_pool" r.sellPool.checksum, Log.failure f]
      e.sizeRoutes ended gasPrice rest opps best
    | .ok result =>
      match result.best with
      | none =>
        Log.debug "no profitable loan amount"
          [Log.text "buy_pool" r.buyPool.checksum, Log.text "sell_pool" r.sellPool.checksum,
            Log.nat "samples" result.samples.length, Log.nat "failed" result.failed]
        e.sizeRoutes ended gasPrice rest opps best
      | some sample =>
        let opp ← e.opportunity r sample gasPrice
        Log.info "profitable opportunity"
          [Log.text "id" opp.id, Log.text "buy_pool" opp.buyPool, Log.text "sell_pool" opp.sellPool,
            Log.text "loan" opp.loanHuman, Log.text "net_profit" opp.netProfit]
        if let .error f := ← (e.sink.putOpportunity opp : m _) then
          Log.warn "persist opportunity failed" [Log.text "id" opp.id, Log.failure f]
        let better := match best with
          | none => true
          | some b => sample.profit > b.sample.profit
        let best := if better then some ⟨r, sample, opp, opps.length⟩ else best
        e.sizeRoutes ended gasPrice rest (opps ++ [opp]) best

/-- One evaluation pass under the caller's context, without its final measurement. -/
def pass (e : Engine m) (ended : m (Option Failure)) : EngineM m (Report × Option Failure) := do
  match ← (e.fees ended : m _) with
  | .error f => return ({ candidates := 0 }, some (f.wrap "select fees"))
  | .ok fees =>
  let candidates ← (e.finder (← get).cache : m _)
  Recorder.record (.candidates candidates.length)
  let report : Report := { candidates := candidates.length }
  if candidates.isEmpty then
    Log.debug "no route candidates"
    return (report, none)
  Log.info "evaluating route candidates" [Log.nat "count" candidates.length,
    Log.text "gas_price" (toString fees.gasPrice), Log.text "fee_source" fees.source.name]
  let (opportunities, best, stopped) ← e.sizeRoutes ended fees.gasPrice candidates [] none
  let report := { report with opportunities }
  if let some f := stopped then return (report, some f)
  match best with
  | none => return (report, none)
  | some b =>
    Recorder.record (.bestProfit (Units.toHuman (some b.sample.profit) e.config.loanDecimals))
    match e.submitter with
    | some submit =>
      if e.config.dryRun then
        Log.info "dry run: not submitting" [Log.text "id" b.opportunity.id]
        return (report, none)
      let record ← e.submitBest submit b.route b.sample b.opportunity
      return ({ report with submission := some record, submittedIndex := some b.index }, none)
    | none =>
      Log.info "dry run: not submitting" [Log.text "id" b.opportunity.id]
      return (report, none)

def evaluate (e : Engine m) (ended : m (Option Failure)) : EngineM m (Report × Option Failure) := do
  let result ← e.pass ended
  Recorder.record .evaluation
  return result

end Engine

end FlashArb
