import FlashArb.Loan.Payload
import FlashArb.Abi.Decode
import FlashArb.Dex.Routers
import FlashArb.Route.Basic
import FlashArb.Chain.CallMsg

/-! The flash-loan call a route is executed by. -/
namespace FlashArb

/-- The arguments of the vault's `flashLoan`. -/
structure FlashLoan where
  recipient : Address
  tokens : List Address
  amounts : List Nat
  userData : Bytes

namespace FlashLoan

def signature : String := "flashLoan(address,address[],uint256[],bytes)"

def argTypes : List Abi.Ty := [.address, .array .address, .array (.uint 256), .bytes]

def encode (f : FlashLoan) : Bytes :=
  Abi.callData signature [.address f.recipient, .array (f.tokens.map .address),
    .array (f.amounts.map .uint), .bytes f.userData]

/-- The loan named by call data, when it is a well-formed `flashLoan` call. -/
def decode? (data : Bytes) : Option FlashLoan :=
  if data.take 4 != Abi.selector signature then none
  else
    match Abi.decodeArgs argTypes (data.drop 4) with
    | .ok [.address r, .array ts, .array as, .bytes u] =>
      let tokens := ts.filterMap fun | .address a => some a | _ => none
      let amounts := as.filterMap fun | .uint n => some n | _ => none
      some ⟨r, tokens, amounts, u⟩
    | _ => none

end FlashLoan

/-- Builds flash-loan calls of routes for one vault and executor; without a router table
the payload names the zero router. -/
structure Builder where
  vault : Address
  executor : Address
  routers : Option RouterTable := none

namespace Builder

/-- The router the payload names for a route's legs. -/
def routerOf (b : Builder) (first second : Leg) : Address :=
  match b.routers with
  | none => Address.zero
  | some t =>
    if first.kind.isConstantProduct then t.routerFor first.factory
    else if second.kind.isConstantProduct then t.routerFor second.factory
    else t.routerFor Address.zero

/-- The executor's payload for a route. -/
def payload (b : Builder) (r : Route) (minProfit : Option Int) (salt : Option Nat) : Payload :=
  let first := r.sellLeg
  let second := r.buyLeg
  { firstPool := first.pool, secondPool := second.pool, quoteToken := r.quoteToken,
    zeroForOne := first.zeroForOne, firstIsConstProd := first.kind.isConstantProduct,
    secondIsConstProd := second.kind.isConstantProduct, router := b.routerOf first second,
    minProfit, salt }

def flashLoan (b : Builder) (r : Route) (amount : Int) (userData : Bytes) : FlashLoan :=
  ⟨b.executor, [r.loanToken], [(amount % 2 ^ 256).toNat], userData⟩

/-- The call data executing a route with a positive loan amount. -/
def calldata (b : Builder) (r : Route) (amount : Option Int) (minProfit : Option Int)
    (salt : Option Nat) : Outcome Bytes := do
  let amount ← match amount with
    | some a => if a > 0 then pure a else throw (Failure.plain "loan amount must be positive")
    | none => throw (Failure.plain "loan amount must be positive")
  let userData ← match (b.payload r minProfit salt).encode with
    | .ok d => pure d
    | .error f => throw (f.wrap "encode user data")
  return (b.flashLoan r amount userData).encode

end Builder

/-- Estimates the gas of a route's flash-loan call from the bot's account, with a zero profit
guard and a fresh salt. -/
structure Estimator (m : Type → Type) where
  builder : Builder
  sender : Address
  estimate : CallMsg → m (Outcome Nat)
  freshSalt : m Nat

def Estimator.estimateGas {m : Type → Type} [Monad m] (e : Estimator m) (r : Route)
    (amount : Option Int) : m (Outcome Nat) := do
  let salt ← e.freshSalt
  match e.builder.calldata r amount (some 0) (some salt) with
  | .error f => return .error f
  | .ok data =>
    match ← e.estimate { sender := e.sender, target := some e.builder.vault, data } with
    | .ok units => return .ok units
    | .error f => return .error (f.wrap "estimate flashLoan gas")

end FlashArb
