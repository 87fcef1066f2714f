import FlashArb.Abi.Value
import FlashArb.Failure

/-! The payload the flash-loan call carries for the executor. -/
namespace FlashArb

/-- The executor's payload. An absent profit or salt is written as zero. -/
structure Payload where
  firstPool : Address := Address.zero
  secondPool : Address := Address.zero
  quoteToken : Address := Address.zero
  zeroForOne : Bool := false
  firstIsConstProd : Bool := false
  secondIsConstProd : Bool := false
  router : Address := Address.zero
  minProfit : Option Int := none
  salt : Option Nat := none
deriving DecidableEq, Inhabited

namespace Payload

def words : Nat := 9

def size : Nat := words * 32

/-- The payload's words. -/
def encode (d : Payload) : Outcome Bytes := do
  let profit ← match d.minProfit with
    | none => pure 0
    | some p =>
      if p < 0 then throw (Failure.plain ("min profit is negative: " ++ toString p))
      else if p ≥ 2 ^ 256 then throw (Failure.plain ("min profit overflows uint256: " ++ toString p))
      else pure p.toNat
  let flag (b : Bool) : Nat := if b then 1 else 0
  return [d.firstPool.toNat, d.secondPool.toNat, d.quoteToken.toNat, flag d.zeroForOne,
    flag d.firstIsConstProd, flag d.secondIsConstProd, d.router.toNat, profit,
    d.salt.getD 0 % 2 ^ 256].flatMap Abi.word

/-- The payload of 288 bytes. -/
def decode (data : Bytes) : Outcome Payload :=
  if data.length != size then
    .error (Failure.plain ("user data length " ++ toString data.length ++ ", want " ++ toString size))
  else
    let w (i : Nat) : Nat := Bytes.toNat (data.slice (i * 32) 32)
    .ok { firstPool := Address.ofNat (w 0), secondPool := Address.ofNat (w 1),
          quoteToken := Address.ofNat (w 2), zeroForOne := w 3 != 0,
          firstIsConstProd := w 4 != 0, secondIsConstProd := w 5 != 0,
          router := Address.ofNat (w 6), minProfit := some (w 7), salt := some (w 8) }

end Payload

end FlashArb
