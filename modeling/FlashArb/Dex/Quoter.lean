import FlashArb.Dex.Contract
import FlashArb.Dex.Routers
import FlashArb.Route.Basic
import FlashArb.Text.Search

/-! Quoting swap legs on chain, each failure marked as a quote failure. -/
namespace FlashArb

def quoteExactInputSingle : Method :=
  { name := "quoteExactInputSingle",
    inputs := [.tuple [.address, .address, .uint 256, .uint 24, .uint 160]],
    outputs := [.uint 256, .uint 160, .uint 32, .uint 256] }

def getAmountsOut : Method :=
  { name := "getAmountsOut",
    inputs := [.uint 256, .array (.tuple [.address, .address, .bool, .address])],
    outputs := [.array (.uint 256)] }

def quoteFailure (detail : String) (marks : List Mark := []) : Failure :=
  ⟨"quote failed: " ++ detail, .quote :: marks⟩

/-- Quotes swap legs through on-chain contracts. -/
structure Quoter (m : Type → Type) where
  reader : Option (ChainReader m)
  quoter : Address
  routers : RouterTable

namespace Quoter

variable {m : Type → Type} [Monad m]

/-- The failure of a quoting call on a leg. -/
def callFailure (leg : Leg) (f : Failure) : Failure :=
  let context := leg.kind.name ++ " pool " ++ leg.pool.checksum
  if Text.containsText f.message "INSUFFICIENT_LIQUIDITY" then
    quoteFailure (context ++ ": insufficient liquidity") [.insufficientLiquidity]
  else quoteFailure (context ++ ": " ++ f.message) f.marks

def quoteConcentrated (q : Quoter m) (leg : Leg) (amountIn : Int) : m (Outcome Int) := do
  match leg.fee with
  | none => return .error (quoteFailure ("pool " ++ leg.pool.checksum ++ " has no fee tier"))
  | some fee =>
    let params := Abi.Value.tuple [.address leg.tokenIn, .address leg.tokenOut,
      .uint (amountIn % 2 ^ 256).toNat, .uint fee.toNat, .uint 0]
    match ← callMethod q.reader q.quoter quoteExactInputSingle none [params] with
    | .error f => return .error (callFailure leg f)
    | .ok (.uint out :: _) => return .ok out
    | .ok _ => return .error (quoteFailure "amountOut: unsupported int type")

/-- The output of a constant-product leg read off the router's `getAmountsOut` outputs: the
last of at least two amounts. -/
def amountOut (leg : Leg) : Outcome (List Abi.Value) → Outcome Int
  | .error f => .error (callFailure leg f)
  | .ok (.array amounts :: _) =>
    match amounts.getLast? with
    | some (.uint out) =>
      if amounts.length < 2 then
        .error (quoteFailure ("getAmountsOut returned " ++ toString amounts.length ++ " amounts"))
      else .ok out
    | _ => .error (quoteFailure ("getAmountsOut returned " ++ toString amounts.length ++ " amounts"))
  | .ok _ => .error (quoteFailure "getAmountsOut: unsupported type")

/-- The router's arguments for a one-hop route along a constant-product leg. -/
def amountsOutArgs (leg : Leg) (amountIn : Int) : List Abi.Value :=
  let stable := leg.stable.getD (leg.kind == .stable)
  let hop := Abi.Value.tuple [.address leg.tokenIn, .address leg.tokenOut, .bool stable,
    .address leg.factory]
  [Abi.Value.uint (amountIn % 2 ^ 256).toNat, .array [hop]]

def quoteConstantProduct (q : Quoter m) (leg : Leg) (amountIn : Int) : m (Outcome Int) :=
  amountOut leg <$> callMethod q.reader (q.routers.routerFor leg.factory) getAmountsOut none
    (amountsOutArgs leg amountIn)

/-- The output of swapping a positive `amountIn` along a leg. -/
def quote (q : Quoter m) (leg : Leg) (amountIn : Option Int) : m (Outcome Int) := do
  match amountIn with
  | none => return .error (quoteFailure "amount in must be positive")
  | some a =>
    if a ≤ 0 then return .error (quoteFailure "amount in must be positive")
    else if leg.kind == .concentrated then q.quoteConcentrated leg a
    else if leg.kind.isConstantProduct then q.quoteConstantProduct leg a
    else return .error (quoteFailure ("unsupported dex kind: " ++ leg.kind.name) [.unsupportedDex])

end Quoter

end FlashArb
