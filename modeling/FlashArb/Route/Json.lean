import FlashArb.Json.Fields
import FlashArb.Route.Basic

/-! JSON forms of pools, snapshots, routes and legs, with snake-case keys. -/
namespace FlashArb

def Field.fee (j : Json) (k : String) : Decode (Option UInt32) := do
  match ← Field.optInt j k with
  | none => return none
  | some f => if 0 ≤ f && f < 2 ^ 32 then return some (UInt32.ofNat f.toNat) else throw "fee out of range"

namespace PoolState

def toJson (s : PoolState) : Json :=
  .obj [("address", Json.addr s.address), ("kind", .str s.kind.name), ("token0", Json.addr s.token0),
    ("token1", Json.addr s.token1), ("fee", Json.opt (fun f => Json.ofNat f.toNat) s.fee),
    ("stable", Json.opt .bool s.stable), ("factory", Json.addr s.factory),
    ("token0_is_loan", .bool s.token0IsLoan)]

def ofJson (j : Json) : Decode PoolState := do
  let fee ← Field.fee j "fee"
  return { address := ← Field.address j "address", kind := ← Field.dexKind j "kind",
           token0 := ← Field.address j "token0", token1 := ← Field.address j "token1", fee,
           stable := ← Field.optBool j "stable", factory := ← Field.address j "factory",
           token0IsLoan := ← Field.bool j "token0_is_loan" }

end PoolState

namespace PoolSnapshot

def toJson (s : PoolSnapshot) : Json :=
  .obj [("address", Json.addr s.address), ("kind", .str s.kind.name), ("token0", Json.addr s.token0),
    ("token1", Json.addr s.token1), ("reserve0", Json.optIntText s.reserve0),
    ("reserve1", Json.optIntText s.reserve1), ("sqrt_price_x96", Json.optIntText s.sqrtPrice),
    ("tick", Json.opt Json.ofInt s.tick), ("block", Json.opt (fun b => .str (toString b)) s.block)]

def ofJson (j : Json) : Decode PoolSnapshot := do
  return { address := ← Field.address j "address", kind := ← Field.dexKind j "kind",
           token0 := ← Field.address j "token0", token1 := ← Field.address j "token1",
           reserve0 := ← Field.optInt j "reserve0", reserve1 := ← Field.optInt j "reserve1",
           sqrtPrice := ← Field.optInt j "sqrt_price_x96", tick := ← Field.optInt j "tick",
           block := ← Field.optU64 j "block" }

end PoolSnapshot

namespace Route

def toJson (r : Route) : Json :=
  .obj [("buy_pool", Json.addr r.buyPool), ("sell_pool", Json.addr r.sellPool),
    ("buy_kind", .str r.buyKind.name), ("sell_kind", .str r.sellKind.name),
    ("buy_token0_is_loan", .bool r.buyToken0IsLoan),
    ("sell_token0_is_loan", .bool r.sellToken0IsLoan),
    ("loan_token", Json.addr r.loanToken), ("quote_token", Json.addr r.quoteToken),
    ("buy_fee", Json.opt (fun f => Json.ofNat f.toNat) r.buyFee),
    ("sell_fee", Json.opt (fun f => Json.ofNat f.toNat) r.sellFee),
    ("buy_stable", Json.opt .bool r.buyStable), ("sell_stable", Json.opt .bool r.sellStable),
    ("buy_factory", Json.addr r.buyFactory), ("sell_factory", Json.addr r.sellFactory),
    ("buy_price", Json.floatText r.buyPrice), ("sell_price", Json.floatText r.sellPrice)]

def ofJson (j : Json) : Decode Route := do
  return { buyPool := ← Field.address j "buy_pool", sellPool := ← Field.address j "sell_pool",
           buyKind := ← Field.dexKind j "buy_kind", sellKind := ← Field.dexKind j "sell_kind",
           buyToken0IsLoan := ← Field.bool j "buy_token0_is_loan",
           sellToken0IsLoan := ← Field.bool j "sell_token0_is_loan",
           loanToken := ← Field.address j "loan_token", quoteToken := ← Field.address j "quote_token",
           buyFee := ← Field.fee j "buy_fee", sellFee := ← Field.fee j "sell_fee",
           buyStable := ← Field.optBool j "buy_stable", sellStable := ← Field.optBool j "sell_stable",
           buyFactory := ← Field.address j "buy_factory", sellFactory := ← Field.address j "sell_factory",
           buyPrice := ← Field.float j "buy_price", sellPrice := ← Field.float j "sell_price" }

end Route

namespace Leg

def toJson (l : Leg) : Json :=
  .obj [("pool", Json.addr l.pool), ("kind", .str l.kind.name), ("token_in", Json.addr l.tokenIn),
    ("token_out", Json.addr l.tokenOut), ("zero_for_one", .bool l.zeroForOne),
    ("fee", Json.opt (fun f => Json.ofNat f.toNat) l.fee), ("stable", Json.opt .bool l.stable),
    ("factory", Json.addr l.factory)]

def ofJson (j : Json) : Decode Leg := do
  return { pool := ← Field.address j "pool", kind := ← Field.dexKind j "kind",
           tokenIn := ← Field.address j "token_in", tokenOut := ← Field.address j "token_out",
           zeroForOne := ← Field.bool j "zero_for_one", fee := ← Field.fee j "fee",
           stable := ← Field.optBool j "stable", factory := ← Field.address j "factory" }

end Leg

end FlashArb
