import FlashArb.Scripted.Quoter
import FlashArb.Scripted.World
import FlashArb.Sim.LoanSearch

/-! Simulations and loan searches against scripted quotes. -/
namespace FlashArb.Scripted

/-- The simulator answering from `book` and `gas`. -/
def simulator (book : QuoteBook) (gas : Option (Outcome Nat)) (config : SimConfig) :
    Simulator ScriptM :=
  { quote := fun leg amountIn => do
      noteQuote leg amountIn
      return book.answer leg amountIn
    estimateGas := gas.map fun answer _ _ => pure answer
    config }

def loanSearch (sim : Simulator ScriptM) (snapshot : Option (Address → Option PoolSnapshot))
    (config : LoanConfig) : LoanSearch ScriptM :=
  { profit := sim.netProfit, snapshot, config }

def World.sampleCount (t : World) (o : SampleOutcome) : Nat :=
  t.measures.countP fun
    | .sample o' => o' == o
    | _ => false

def World.quoteReports (t : World) : List (DexKind × Bool) :=
  t.measures.reverse.filterMap fun
    | .quote kind _ failed => some (kind, !failed)
    | _ => none

end FlashArb.Scripted
