import FlashArb.Failure

/-! The records the bot keeps. -/
namespace FlashArb

/-- A simulated, profitable route. -/
structure Opportunity where
  id : String := ""
  detectedAt : String := ""
  block : Nat := 0
  buyPool : String := ""
  sellPool : String := ""
  buyKind : String := ""
  sellKind : String := ""
  buyPrice : Float := 0
  sellPrice : Float := 0
  loanAmount : String := ""
  loanHuman : String := ""
  netProfit : String := ""
  gasPrice : String := ""
  dryRun : Bool := false
deriving Inhabited

/-- The outcome of one submission. `states` is absent when no list was ever made. -/
structure SubmissionRecord where
  opportunityId : String := ""
  txHash : String := ""
  nonce : Nat := 0
  outcome : String := ""
  via : String := ""
  block : Nat := 0
  gasUsed : Nat := 0
  states : Option (List String) := none
  error : String := ""
  submittedAt : String := ""
  finishedAt : String := ""
deriving Inhabited

/-- A sink for records. -/
structure Storage (m : Type → Type) where
  putOpportunity : Opportunity → m (Outcome Unit)
  putSubmission : SubmissionRecord → m (Outcome Unit)
  close : m (Outcome Unit)

end FlashArb
