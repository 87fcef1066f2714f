import FlashArb.Instances

/-! Where factory scanning resumes after a restart. -/
namespace FlashArb

def lookbackFloor (head lookback : UInt64) : UInt64 :=
  if head > lookback then head - lookback else 0

/-- The first block to scan for factory events, given the last processed block if known. -/
def resumeFrom (lastProcessed : Option UInt64) (head lookback : UInt64) : UInt64 :=
  let floor := lookbackFloor head lookback
  match lastProcessed with
  | none => floor
  | some last => if last + 1 < floor then floor else last + 1

end FlashArb
