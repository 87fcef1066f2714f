import FlashArb.Chain.Rpc
import FlashArb.Chain.Receipt
import FlashArb.Dex.Events.Json

/-! A node that answers from a script and records every request. -/
namespace FlashArb.Scripted

/-- A scripted answer. -/
inductive RpcAnswer where
  | result (value : Json)
  | failure (code : Int) (message : String) (data : Option Json)
deriving Inhabited

/-- A scripted call result. -/
inductive CallReply where
  | returns (bs : Bytes)
  | reverts (message : String)
deriving Inhabited

/-- What the node is scripted to answer. -/
structure RpcScript where
  methods : List (String × List RpcAnswer) := []
  calls : List (String × List CallReply) := []
  logs : List EventLog := []
  streams : List (List EventLog) := []

/-- The scripted node and what it has seen. -/
structure RpcNode where
  script : RpcScript := {}
  /-- How many answers each script key has given. -/
  served : List (String × Nat) := []
  subscriptions : Nat := 0
  /-- The requests received, the latest first. -/
  received : List Json := []

namespace RpcNode

def requests (n : RpcNode) : List Json := n.received.reverse

def take {α : Type} [Inhabited α] (n : RpcNode) (key : String) (answers : List α) : α × RpcNode :=
  let used := (n.served.lookup key).getD 0
  let a := answers[used]?.getD (answers.getLastD default)
  (a, { n with served := (key, used + 1) :: n.served.filter (·.1 != key) })

def RpcAnswer.reply : RpcAnswer → Except Rpc.Failure Json
  | .result v => .ok v
  | .failure code message data => .error (.answered code message data)

def hexField (j : Json) : String :=
  match j with
  | .str s => String.ofList ((Bytes.dropHexPrefix s).map Char.toLower)
  | _ => ""

/-- Answers a call from the scripted calls. -/
def answerCall (n : RpcNode) (params : List Json) : Except Rpc.Failure Json × RpcNode :=
  let msg := params.headD .null
  let target := match msg.field "to" with
    | .str s => s.map Char.toLower
    | _ => "null"
  let input := hexField (if (msg.field "input").isNull then msg.field "data" else msg.field "input")
  let whole := target ++ ":" ++ input
  let selector := target ++ ":" ++ String.ofList (input.toList.take 8)
  let found := match n.script.calls.lookup whole with
    | some rs => some (whole, rs)
    | none => (n.script.calls.lookup selector).map fun rs => (selector, rs)
  match found with
  | none => (.ok (.str "0x"), n)
  | some (key, replies) =>
    let (r, n) := n.take ("call " ++ key) replies
    match r with
    | .returns bs => (.ok (.str (Bytes.toHex0x bs)), n)
    | .reverts message => (.error (.answered 3 message none), n)

/-- A quantity or tag of a filter as a block number; a tag is no bound. -/
def blockBound (j : Json) : Option Nat :=
  match j with
  | .str s =>
    match s.toList with
    | '0' :: x :: ds =>
      if x == 'x' || x == 'X' then
        ds.foldlM (fun acc c => (Bytes.hexValue? c).map (acc * 16 + ·)) 0
      else none
    | _ => none
  | _ => none

/-- Whether a log passes a filter: its address, block range and first topic. -/
def passes (filter : Json) (l : EventLog) : Bool :=
  let addressOk := match filter.field "address" with
    | .null => true
    | .str s => s.map Char.toLower == "0x" ++ l.address.lowerHex
    | .arr xs => xs.any fun x => match x with
      | .str s => s.map Char.toLower == "0x" ++ l.address.lowerHex
      | _ => false
    | _ => true
  let fromOk := ((blockBound (filter.field "fromBlock")).map (decide <| · ≤ l.block.toNat)).getD true
  let toOk := ((blockBound (filter.field "toBlock")).map (decide <| l.block.toNat ≤ ·)).getD true
  let topicOk := match (filter.field "topics").items.head? with
    | none | some .null => true
    | some wanted =>
      let options := match wanted with
        | .arr xs => xs
        | x => [x]
      match l.topics.head? with
      | none => false
      | some t => options.any fun o => match o with
        | .str s => s.map Char.toLower == t.hex
        | _ => false
  addressOk && fromOk && toOk && topicOk

/-- Serves one request. -/
def serve (n : RpcNode) (method : String) (params : List Json) : Except Rpc.Failure Json × RpcNode :=
  let n := { n with received := .obj [("method", .str method), ("params", .arr params)] :: n.received }
  match n.script.methods.lookup method with
  | some answers =>
    let (a, n) := n.take method answers
    (RpcAnswer.reply a, n)
  | none =>
    if method == "eth_call" then answerCall n params
    else if method == "eth_getLogs" then
      let filter := params.headD .null
      (.ok (.arr ((n.script.logs.filter (passes filter)).map EventLog.toWire)), n)
    else (.error (.answered (-32601) ("the method " ++ method ++ " does not exist/is not available") none), n)

/-- Opens the next log subscription: the payloads of its stream. -/
def subscribe (n : RpcNode) (params : List Json) : Except Rpc.Failure (List Json) × RpcNode :=
  let n := { n with received := .obj [("method", .str "eth_subscribe"), ("params", .arr params)] :: n.received }
  let k := n.subscriptions
  let n := { n with subscriptions := k + 1 }
  match n.script.streams[k]? with
  | some logs => (.ok (logs.map EventLog.toWire), n)
  | none =>
    match n.script.methods.lookup "eth_subscribe" with
    | some answers =>
      match n.take "eth_subscribe" answers with
      | (.failure code message data, n) => (.error (.answered code message data), n)
      | (.result _, n) => (.error (.answered (-32000) "no more subscriptions" none), n)
    | none => (.error (.answered (-32000) "no more subscriptions" none), n)

/-- The node as a connection, in a monad that keeps it. -/
def transport {m : Type → Type} [Monad m] (load : m RpcNode) (store : RpcNode → m Unit) :
    Rpc.Transport m where
  request method params := do
    let (r, n) := (← load).serve method params
    store n
    return r
  subscribe params := do
    let (r, n) := (← load).subscribe params
    store n
    return r

end RpcNode

/-- A scripted answer: `{"result": value}`, `{"error": "message"}` (code -32000) or
`{"error": {"code", "message", "data"}}`. -/
def RpcAnswer.ofJson (j : Json) : Decode RpcAnswer :=
  match j.get? "result" with
  | some v => .ok (.result v)
  | none =>
    match j.field "error" with
    | .str message => .ok (.failure (-32000) message none)
    | .obj _ => do
      let e := j.field "error"
      let code ← match Field.toInt? (e.field "code") with
        | some c => pure c
        | none => pure 0
      return .failure code (← Field.string e "message") (e.get? "data")
    | _ => .error "an answer needs a result or an error"

def CallReply.ofJson (j : Json) : Decode CallReply := do
  match ← Field.optString j "error" with
  | some message => return .reverts message
  | none => return .returns (← Field.bytes j "hex")

def answerList {α : Type} (read : Json → Decode α) : Json → Decode (List α)
  | .arr xs => xs.mapM read
  | j => (fun a => [a]) <$> read j

def RpcScript.ofJson (j : Json) : Decode RpcScript := do
  let methods ← (j.field "methods").members.mapM fun (k, v) => do
    return (k, ← answerList RpcAnswer.ofJson v)
  let calls ← (j.field "calls").members.mapM fun (k, v) => do
    return (k, ← answerList CallReply.ofJson v)
  let logs ← (j.field "logs").items.mapM EventLog.ofJson
  let streams ← (j.field "streams").items.mapM fun s => s.items.mapM EventLog.ofJson
  return { methods, calls, logs, streams }

end FlashArb.Scripted
