import FlashArb.Chain.Client
import FlashArb.Chain.Dial
import FlashArb.Scripted.Network
import FlashArb.Json.Fields
import FlashArb.Failure.Json

/-! Client sessions against the scripted node. -/
namespace FlashArb.Scripted

def sessionPlace : List String → Option Place
  | ["node"] => some .dir
  | ["node", "node.ipc"] => some .socket
  | _ => none

/-- A session's monad: the scripted node, and the client's memory. -/
abbrev SessionM := StateT Client.State (StateM RpcNode)

def sessionNetwork : Chain.Network (StateM RpcNode) := scriptedNetwork sessionPlace get set

def natText (n : Nat) : Json := .str (toString n)

/-- A call message from `{from?, to?, data, gas?, value?}`. -/
def callMsgOfJson (j : Json) : Decode CallMsg := do
  let target ← match ← Field.optString j "to" with
    | some s => some <$> Field.addressOfText "to" s
    | none => pure none
  let value ← (Field.optInt j "value")
  return { sender := ← Field.address j "from", target, data := ← Field.bytes j "data",
           gas := ← Field.u64 j "gas", value := value.map Int.toNat }

/-- Runs one operation of a session; its answer, or the failure. -/
def sessionStep (t : Rpc.Transport (StateM RpcNode)) (op : Json) : Decode (SessionM (Outcome Json)) := do
  let out {α : Type} (r : SessionM (Outcome α)) (enc : α → Json) : SessionM (Outcome Json) :=
    (fun o => o.map enc) <$> r
  match ← Field.string op "op" with
  | "chain_id" => return out (Client.chainId t) fun id => .obj [("chain_id", natText id)]
  | "latest_block" => return out (Client.blockNumber t) fun n => .obj [("block", natText n)]
  | "header" =>
    let number ← Field.optInt op "number"
    return out (Client.header t number) fun h =>
      .obj [("number", natText h.number), ("base_fee", Json.opt natText h.baseFee),
        ("gas_limit", natText h.gasLimit), ("time", natText h.time), ("hash", .str h.hash.hex)]
  | "filter_logs" =>
    let topics ← (op.field "topics").items.mapM fun v => match v with
      | .str s => Field.hashOfText "topics" s
      | _ => .error "field topics holds a non-hash"
    return out (Client.filterLogs t (← Field.u64 op "from") (← Field.u64 op "to")
      (← Field.addresses op "addresses") topics) fun logs => .obj [("logs", .arr (logs.map EventLog.toJson))]
  | "subscribe" =>
    let topics ← (op.field "topics").items.mapM fun v => match v with
      | .str s => Field.hashOfText "topics" s
      | _ => .error "field topics holds a non-hash"
    let take ← Field.u64 op "take"
    return out (Client.subscribeLogs t (← Field.addresses op "addresses") topics) fun d =>
      let logs := .arr ((d.logs.take take).map EventLog.toJson)
      if d.logs.length ≥ take then .obj [("logs", logs)]
      else match d.failure with
        | some f => .obj [("logs", logs), ("sub_error", .str f.message)]
        | none => .obj [("logs", logs), ("timed_out", .bool true)]
  | "call" =>
    let msg ← callMsgOfJson op
    return out (Client.call t msg (← Field.optInt op "block")) fun bs => .obj [("data", .str (Bytes.toHex0x bs))]
  | "estimate_gas" =>
    let msg ← callMsgOfJson op
    return out (Client.estimateGas t msg) fun g => .obj [("gas", natText g)]
  | "pending_nonce" =>
    return out (Client.pendingNonce t (← Field.address op "account")) fun n => .obj [("nonce", natText n)]
  | "gas_price" => return out (Client.gasPrice t) fun v => .obj [("value", natText v)]
  | "tip_cap" => return out (Client.tipCap t) fun v => .obj [("value", natText v)]
  | "fee_cap" =>
    let tip ← Field.optInt op "tip"
    return out (Client.feeCap t (tip.map Int.toNat)) fun v => .obj [("value", natText v)]
  | "send_tx" =>
    let raw ← Field.bytes op "raw"
    return out (Client.sendRaw t raw) fun _ => .obj [("tx_hash", .str (Hash.keccak raw).hex)]
  | "receipt" =>
    return out (Client.receipt t (← Field.hash op "hash")) fun r =>
      .obj [("receipt", .obj [("status", natText r.status), ("block", natText r.block),
        ("gas_used", natText r.gasUsed), ("tx_hash", .str r.txHash.hex), ("logs", Json.ofNat r.logs)])]
  | "close" => return do Client.close; return .ok (.obj [])
  | other => throw ("unknown client op " ++ other)

/-- Runs a session: dials `url`, then answers each operation with the requests it made, or
answers the dial failure. -/
def runSession (script : RpcScript) (url : String) (ops : List Json) : Decode Json := do
  let node : RpcNode := { script }
  match (Chain.dial sessionNetwork url).run node with
  | (.error e, _) => return (Failure.plain e).toJson
  | (.ok t, node) =>
    let (steps, _, _) ← ops.foldlM (fun (acc, client, node) op => do
      let step ← sessionStep t op
      let before := node.received.length
      let ((r, client), node) := (step.run client).run node
      let requests := (node.requests.drop before)
      let answer := match r with
        | .ok j => j
        | .error f => f.toJson
      return (acc ++ [answer.push "requests" (.arr requests)], client, node))
      (([] : List Json), ({} : Client.State), node)
    return .obj [("steps", .arr steps)]

/-- Runs a relay session: dials the relay at `url`, then sends each raw transaction and
answers its hash (or failure) with the requests it made; or answers the dial failure. -/
def runRelaySession (script : RpcScript) (url : String) (sends : List Bytes) : Json :=
  let node : RpcNode := { script }
  match (Chain.RelayClient.dial sessionNetwork url).run node with
  | (.error e, _) => (Failure.plain e).toJson
  | (.ok relay, node) =>
    let (steps, _) := sends.foldl (fun (acc, node) raw =>
      let before := node.received.length
      let (r, node) := (relay.send raw).run node
      let answer : Json := match r with
        | .ok h => .obj [("tx_hash", .str h.hex)]
        | .error f => f.toJson
      (acc ++ [answer.push "requests" (.arr (node.requests.drop before))], node)) (([] : List Json), node)
    .obj [("url", .str url), ("steps", .arr steps)]

end FlashArb.Scripted
