import FlashArb.Price.WideFloat
import FlashArb.Failure

/-! Pool prices in token1 per token0, adjusted for the tokens' decimals. -/
namespace FlashArb.Price

def precision : Nat := 256

def conversionError (detail : String) : Failure :=
  ⟨"conversion error: " ++ detail, [.conversion]⟩

def zeroReserve : Failure := ⟨"zero reserve", [.zeroReserve]⟩

/-- Scales a price by `10^(d0 - d1)`: multiplied when token0 has more decimals, divided when
token1 has. -/
def adjustDecimals (price : WideFloat) (d0 d1 : Nat) : WideFloat :=
  if d0 == d1 then price
  else
    let factor := WideFloat.ofNat precision (10 ^ (if d0 > d1 then d0 - d1 else d1 - d0))
    if d0 > d1 then WideFloat.mul precision price factor
    else WideFloat.div precision price factor

def toFinite (price : WideFloat) : Outcome Float :=
  let f := price.toFloat
  if f.isInf || f.isNaN then .error (conversionError "price out of float64 range") else .ok f

/-- The price of a square-root price `√P·2^96`: `P = sqrt²/2^192`. -/
def ofSqrtPrice (sqrt : Option Int) (d0 d1 : Nat) : Outcome Float :=
  match sqrt with
  | none => .ok 0
  | some s =>
    if s == 0 then .ok 0
    else if s < 0 then .error (conversionError ("negative sqrt price " ++ toString s))
    else
      let x := WideFloat.ofNat precision s.toNat
      let sq := WideFloat.mul precision x x
      let p := WideFloat.div precision sq (WideFloat.ofNat precision (2 ^ 192))
      toFinite (adjustDecimals p d0 d1)

/-- The price `reserve1 / reserve0`. -/
def ofReserves (r0 r1 : Option Int) (d0 d1 : Nat) : Outcome Float :=
  match r0 with
  | none => .error zeroReserve
  | some a =>
    if a == 0 then .error zeroReserve
    else match r1 with
      | none => .error (conversionError "missing reserve1")
      | some b =>
        if a < 0 || b < 0 then .error (conversionError "negative reserve")
        else
          let p := WideFloat.div precision (WideFloat.ofNat precision b.toNat)
            (WideFloat.ofNat precision a.toNat)
          toFinite (adjustDecimals p d0 d1)

end FlashArb.Price
