import FlashArb.Json.Fields
import FlashArb.Route.Basic

/-! A stand-in for a swap quoter, driven by one rule per pool. -/
namespace FlashArb.Scripted

/-- How the quoter answers for one pool. -/
structure QuoteRule where
  out : Option Int := none
  reserve0 : Int := 0
  reserve1 : Int := 0
  feeBps : Int := 0
  error : Option String := none
  failAbove : Option Int := none

def constantProductOut (rIn rOut feeBps amountIn : Int) : Int :=
  let f := amountIn * (10000 - feeBps)
  let den := rIn * 10000 + f
  if den == 0 then 0 else (f * rOut).tdiv den

namespace QuoteRule

/-- The fixed output, or else the constant-product output on the rule's reserves. -/
def fixedOrPriced (r : QuoteRule) (leg : Leg) (amountIn : Int) : Int :=
  match r.out with
  | some o => o
  | none =>
    let (rIn, rOut) := if leg.zeroForOne then (r.reserve0, r.reserve1) else (r.reserve1, r.reserve0)
    constantProductOut rIn rOut r.feeBps amountIn

/-- The rule's answer for a leg and an input amount; the checks run in this order: error,
limit, fixed output, reserves. -/
def answer (r : QuoteRule) (leg : Leg) (amountIn : Int) : Outcome Int :=
  match r.error, r.failAbove with
  | some msg, _ => .error (Failure.plain msg)
  | none, some limit =>
    if amountIn > limit then .error (Failure.plain ("amount " ++ toString amountIn ++ " above limit"))
    else .ok (r.fixedOrPriced leg amountIn)
  | none, none => .ok (r.fixedOrPriced leg amountIn)

def ofJson (j : Json) : Decode QuoteRule := do
  return { out := ← Field.optInt j "out", reserve0 := ← Field.int j "r0",
           reserve1 := ← Field.int j "r1", feeBps := ← Field.int j "fee_bps",
           error := ← Field.optString j "error", failAbove := ← Field.optInt j "fail_above" }

end QuoteRule

/-- Rules by pool. -/
abbrev QuoteBook := List (Address × QuoteRule)

def QuoteBook.answer (book : QuoteBook) (leg : Leg) (amountIn : Int) : Outcome Int :=
  match book.lookup leg.pool with
  | some r => r.answer leg amountIn
  | none => .error (Failure.plain ("no quote for pool " ++ leg.pool.checksum))

def QuoteBook.ofJson (j : Json) : Decode QuoteBook :=
  j.members.mapM fun (k, v) => do
    let a ← Field.addressOfText "quoter" k
    return (a, ← QuoteRule.ofJson v)

def gasAnswerOfJson (j : Json) : Decode (Outcome Nat) := do
  match ← Field.optString j "error" with
  | some msg => return .error (Failure.plain msg)
  | none => return .ok (← Field.u64 j "units")

end FlashArb.Scripted
