import FlashArb.Scripted.Replay
import FlashArb.Chain.CallMsg
import FlashArb.Json.Fields

/-! A stand-in for contract state. -/
namespace FlashArb.Scripted

/-- A contract call as recorded. -/
structure RecordedCall where
  target : Option Address
  data : Bytes
  block : Option Nat

/-- The scripted chain and what it has served. -/
structure ChainFake where
  head : Nat := 0
  headError : Option String := none
  responses : List (String × Replay (Outcome Bytes)) := []
  calls : List RecordedCall := []

/-- The lookup key of a call: lower-case target and selector. -/
def callKey (target : Option Address) (data : Bytes) : String :=
  let addr := match target with
    | some a => "0x" ++ a.lowerHex
    | none => ""
  addr ++ ":" ++ Bytes.toHex (data.take 4)

namespace ChainFake

/-- Answers a call and records it. -/
def call (c : ChainFake) (msg : CallMsg) (block : Option Nat) : Outcome Bytes × ChainFake :=
  let c := { c with calls := ⟨msg.target, msg.data, block⟩ :: c.calls }
  let key := callKey msg.target msg.data
  if msg.data.length < 4 then (.ok [], c) else
  match c.responses.lookup key with
  | none => (.ok [], c)
  | some r =>
    let (a, r') := r.next
    let responses := c.responses.map fun (k, v) => if k == key then (k, r') else (k, v)
    (a.getD (.ok []), { c with responses })

def latestBlock (c : ChainFake) : Outcome Nat :=
  match c.headError with
  | some msg => .error (Failure.plain msg)
  | none => .ok c.head

def callLog (c : ChainFake) : List RecordedCall := c.calls.reverse

end ChainFake

def bytesAnswer (j : Json) : Decode (Outcome Bytes) := do
  match ← Field.optString j "error" with
  | some msg => return .error (Failure.plain msg)
  | none => return .ok (← Field.bytes j "hex")

def bytesAnswers (j : Json) : Decode (List (Outcome Bytes)) :=
  match j with
  | .arr xs => xs.mapM bytesAnswer
  | v => do return [← bytesAnswer v]

def ChainFake.ofJson (j : Json) : Decode ChainFake := do
  let responses ← (j.field "responses").members.mapM fun (k, v) => do
    return (k, ({ answers := ← bytesAnswers v } : Replay (Outcome Bytes)))
  return { head := ← Field.u64 j "head", headError := ← Field.optString j "head_error", responses }

def RecordedCall.toJson (c : RecordedCall) : Json :=
  .obj [("to", Json.opt Json.addr c.target), ("data", .str (Bytes.toHex0x c.data)),
    ("block", Json.opt (fun (b : Nat) => Json.intText b) c.block)]

end FlashArb.Scripted
