import FlashArb.Loan.Call
import FlashArb.Json.Fields

/-!
# Payloads, router tables and flash loans as JSON
-/
namespace FlashArb

namespace Payload

/-- The payload's fields; the salt is left out when `withSalt` is false. -/
def toJson (d : Payload) (withSalt : Bool := true) : Json :=
  let base : List (String × Json) :=
    [("first_pool", Json.addr d.firstPool), ("second_pool", Json.addr d.secondPool),
      ("quote_token", Json.addr d.quoteToken), ("zero_for_one", .bool d.zeroForOne),
      ("first_is_const_prod", .bool d.firstIsConstProd),
      ("second_is_const_prod", .bool d.secondIsConstProd), ("router", Json.addr d.router),
      ("min_profit", Json.optIntText d.minProfit)]
  .obj (if withSalt then base ++ [("salt", Json.opt (fun (s : Nat) => Json.intText s) d.salt)] else base)

def ofJson (j : Json) : Decode Payload := do
  let salt ← match ← Field.optInt j "salt" with
    | none => pure none
    | some s => if 0 ≤ s && s < 2 ^ 256 then pure (some s.toNat) else throw "field salt is out of range"
  return { firstPool := ← Field.address j "first_pool", secondPool := ← Field.address j "second_pool",
           quoteToken := ← Field.address j "quote_token", zeroForOne := ← Field.bool j "zero_for_one",
           firstIsConstProd := ← Field.bool j "first_is_const_prod",
           secondIsConstProd := ← Field.bool j "second_is_const_prod",
           router := ← Field.address j "router", minProfit := ← Field.optInt j "min_profit", salt }

end Payload

/-- A router table: `{default_router, routers: {factory: router}}`. -/
def RouterTable.ofJson (j : Json) : Decode RouterTable := do
  let routers ← (j.field "routers").members.mapM fun (k, v) => do
    let f ← Field.addressOfText "routers" k
    match v with
    | .str s => return (f, ← Field.addressOfText "routers" s)
    | _ => throw "field routers holds a non-address"
  return { defaultRouter := ← Field.address j "default_router", routers }

/-- A decoded loan, its payload shown without the salt. -/
def FlashLoan.toJson (f : FlashLoan) : Json :=
  .obj [("recipient", Json.addr f.recipient), ("tokens", .arr (f.tokens.map Json.addr)),
    ("amounts", .arr (f.amounts.map fun (a : Nat) => Json.intText a)),
    ("user_data", match Payload.decode f.userData with
      | .ok d => d.toJson false
      | .error _ => .null)]

end FlashArb
