import FlashArb.Chain.EventLog
import FlashArb.Abi.Decode
import FlashArb.Pool.Kind
import FlashArb.Failure

/-! The pool and factory events the bot follows, decoded from logs. -/
namespace FlashArb

def eventTopic (signature : String) : Hash := Hash.keccak signature.toUTF8.toList

namespace Topic

def concentratedSwap : Hash := eventTopic "Swap(address,address,int256,int256,uint160,uint128,int24)"
def productSwap : Hash := eventTopic "Swap(address,address,uint256,uint256,uint256,uint256)"
def sync : Hash := eventTopic "Sync(uint256,uint256)"
def concentratedPoolCreated : Hash := eventTopic "PoolCreated(address,address,uint24,int24,address)"
def productPoolCreated : Hash := eventTopic "PoolCreated(address,address,bool,address,uint256)"

def pool : List Hash := [concentratedSwap, productSwap, sync]

def factory : List Hash := [concentratedPoolCreated, productPoolCreated]

end Topic

/-- What an event tells. -/
inductive EventBody where
  /-- A concentrated-liquidity swap and the pool's new price and tick. -/
  | concentratedSwap (sqrtPrice : Nat) (tick : Int)
  /-- A constant-product swap; its amounts are not read. -/
  | productSwap
  /-- New reserves of a constant-product pool. -/
  | sync (reserve0 reserve1 : Nat)
  /-- A factory created a pool. -/
  | poolCreated (factory : Address) (kind : DexKind) (token0 token1 : Address)
      (fee : Option UInt32) (stable : Option Bool)
deriving Inhabited

/-- A decoded event of a pool (for a creation, of the new pool). -/
structure PoolEvent where
  pool : Address
  block : UInt64
  txHash : Hash
  logIndex : Nat
  body : EventBody
deriving Inhabited

/-- The event names of the kinds of bodies. -/
def EventBody.kindName : EventBody → String
  | .concentratedSwap .. => "v3_swap"
  | .productSwap => "cp_swap"
  | .sync .. => "sync"
  | .poolCreated .. => "pool_created"

def canDecode (topic0 : Hash) : Bool := Topic.pool.contains topic0 || Topic.factory.contains topic0

namespace PoolEvent

def indexedTopics (count : Nat) (topics : List Hash) : Outcome (List Hash) :=
  if topics.length != count + 1 then
    .error (Failure.plain ("expected " ++ toString (count + 1) ++ " topics, got " ++ toString topics.length))
  else .ok topics.tail

def lift {α : Type} (context : String) : Except String α → Outcome α
  | .ok a => .ok a
  | .error e => .error (Failure.plain (if context.isEmpty then e else context ++ ": " ++ e))

def readTopics (ts : List Abi.Ty) (topics : List Hash) : Outcome (List Abi.Value) :=
  lift "parse topics" ((ts.zip topics).mapM fun (t, h) => Abi.decodeAt t 0 h.bytes)

def readData (name : String) (ts : List Abi.Ty) (data : Bytes) : Outcome (List Abi.Value) :=
  lift ("unpack " ++ name) (Abi.decodeArgs ts data)

def tickOf (v : Int) : Outcome Int :=
  if v < -(2 ^ 23 : Int) || v > 2 ^ 23 - 1 then .error (Failure.plain ("int24 overflow: " ++ toString v))
  else .ok v

def natOf : Abi.Value → Nat
  | .uint n => n
  | .int i => i.toNat
  | _ => 0

def intOf : Abi.Value → Int
  | .int i => i
  | .uint n => n
  | _ => 0

def addressOf : Abi.Value → Address
  | .address a => a
  | _ => Address.zero

def boolOf : Abi.Value → Bool
  | .bool b => b
  | _ => false

/-- The pool a log is about and what it tells, for a log whose first topic is known: the
emitter for pool events, the new pool for a creation. -/
def read (l : EventLog) (topic0 : Hash) : Outcome (Address × EventBody) := do
  if topic0 == Topic.concentratedSwap then
    let _ ← indexedTopics 2 l.topics
    let vs ← readData "Swap" [.int 256, .int 256, .uint 160, .uint 128, .int 24] l.data
    let tick ← tickOf (intOf (vs.getD 4 default))
    return (l.address, .concentratedSwap (natOf (vs.getD 2 default)) tick)
  else if topic0 == Topic.productSwap then
    let _ ← indexedTopics 2 l.topics
    return (l.address, .productSwap)
  else if topic0 == Topic.sync then
    let vs ← readData "Sync" [.uint 256, .uint 256] l.data
    return (l.address, .sync (natOf (vs.getD 0 default)) (natOf (vs.getD 1 default)))
  else if topic0 == Topic.concentratedPoolCreated then
    let topics ← indexedTopics 3 l.topics
    let ix ← readTopics [.address, .address, .uint 24] topics
    let vs ← readData "PoolCreated" [.int 24, .address] l.data
    let fee := UInt32.ofNat (natOf (ix.getD 2 default) % 2 ^ 32)
    return (addressOf (vs.getD 1 default), .poolCreated l.address .concentrated
      (addressOf (ix.getD 0 default)) (addressOf (ix.getD 1 default)) (some fee) none)
  else
    let topics ← indexedTopics 3 l.topics
    let ix ← readTopics [.address, .address, .bool] topics
    let vs ← readData "PoolCreated" [.address, .uint 256] l.data
    let stable := boolOf (ix.getD 2 default)
    return (addressOf (vs.getD 0 default), .poolCreated l.address
      (if stable then .stable else .volatile) (addressOf (ix.getD 0 default))
      (addressOf (ix.getD 1 default)) none (some stable))

/-- Decodes a log of a followed event. -/
def decode (l : EventLog) : Outcome PoolEvent := do
  match l.topics with
  | [] => throw (Failure.plain "missing topics")
  | topic0 :: _ =>
    if !canDecode topic0 then throw (Failure.plain ("unsupported topic0: " ++ topic0.hex))
    let (pool, b) ← read l topic0
    return { pool, block := l.block, txHash := l.txHash, logIndex := l.index, body := b }

end PoolEvent

end FlashArb
