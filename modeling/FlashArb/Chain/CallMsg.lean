import FlashArb.Chain.Address
import FlashArb.Failure

/-! Messages run against contract state without a transaction. -/
namespace FlashArb

/-- A message to simulate. -/
structure CallMsg where
  sender : Address := Address.zero
  target : Option Address := none
  gas : Nat := 0
  gasPrice : Option Nat := none
  value : Option Nat := none
  data : Bytes := []
deriving Inhabited

/-- Read access to contract state: a call at a block (the latest when none), and the
current head block. -/
structure ChainReader (m : Type → Type) where
  call : CallMsg → Option Nat → m (Outcome Bytes)
  latestBlock : m (Outcome Nat)

end FlashArb
