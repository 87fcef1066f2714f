import FlashArb.Chain.Address

/-! Logs emitted by contracts. -/
namespace FlashArb

/-- A contract event log. -/
structure EventLog where
  address : Address := Address.zero
  topics : List Hash := []
  data : Bytes := []
  block : UInt64 := 0
  txHash : Hash := Hash.zero
  index : Nat := 0
  removed : Bool := false
deriving Inhabited

def EventLog.id (l : EventLog) : String := l.txHash.hex ++ ":" ++ toString l.index

end FlashArb
