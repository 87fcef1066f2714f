import FlashArb.Scripted.Replay
import FlashArb.Scripted.Answer
import FlashArb.Submit.Submitter

/-! A stand-in for the node and relays a submission talks to, on a clock that only moves when
someone waits. -/
namespace FlashArb.Scripted

/-- How a send behaves. -/
inductive SendScript where
  | hangs
  | fails (message : String)
  | accepts (lands : Bool)
deriving Inhabited

/-- A scripted relay. -/
structure RelayScript where
  url : String
  send : SendScript
  calls : Nat := 0

/-- The scripted node, its relays and what they have seen. -/
structure Node where
  clock : Nat := 0
  estimate : Outcome Int := .error (Failure.plain "unavailable")
  tip : Outcome Int := .error (Failure.plain "unavailable")
  feeCap : Outcome Int := .error (Failure.plain "unavailable")
  gasPrice : Outcome Int := .error (Failure.plain "unavailable")
  nonces : Replay (Outcome Nat) := {}
  seedCalls : Nat := 0
  send : SendScript := .accepts false
  directSent : Nat := 0
  landed : Bool := false
  receipt : Receipt := ⟨0, none, 0, 0⟩
  receiptError : Option String := none
  rawTx : Option Bytes := none
  relays : List RelayScript := []
  logs : List LogEntry := []

/-- Runs against the scripted node. -/
abbrev NodeM := StateM Node

instance : LogSink NodeM := ⟨fun e => modify fun n => { n with logs := e :: n.logs }⟩

def notFound : Failure := ⟨"not found", [.notFound]⟩

namespace Node

/-- Waits until `deadline`, the failure of a call that never returns. -/
def hang (deadline : Option Nat) : NodeM (Outcome α) := do
  if let some d := deadline then modify fun n => { n with clock := max n.clock d }
  return .error deadlineExceeded

/-- Sends a raw transaction directly. -/
def sendDirect (raw : Bytes) (deadline : Option Nat) : NodeM (Outcome Unit) := do
  modify fun n => { n with rawTx := some raw }
  match (← get).send with
  | .hangs => hang deadline
  | .fails msg => return .error (Failure.plain msg)
  | .accepts lands =>
    modify fun n => { n with directSent := n.directSent + 1, landed := n.landed || lands }
    return .ok ()

/-- Sends a raw transaction through relay `i`. -/
def sendRelay (i : Nat) (raw : Bytes) (deadline : Option Nat) : NodeM (Outcome Hash) := do
  modify fun n =>
    { n with rawTx := some raw, relays := n.relays.modify i fun r => { r with calls := r.calls + 1 } }
  match ((← get).relays[i]?.map (·.send)).getD (.accepts false) with
  | .hangs => hang deadline
  | .fails msg => return .error (Failure.plain msg)
  | .accepts lands =>
    modify fun n => { n with landed := n.landed || lands }
    return .ok (txHash raw)

/-- Looks up the receipt. -/
def receiptOf : NodeM (Outcome Receipt) := do
  let n ← get
  if n.landed then return .ok n.receipt
  match n.receiptError with
  | some msg => return .error (Failure.plain msg)
  | none => return .error notFound

/-- The next pending nonce. -/
def pendingNonce : NodeM (Outcome Nat) := do
  let n ← get
  let (a, nonces) := n.nonces.next
  set { n with nonces, seedCalls := n.seedCalls + 1 }
  return a.getD (.error (Failure.plain "unavailable"))

def feeOracle : FeeOracle NodeM :=
  { tipCap := do return (← get).tip
    feeCap := fun _ => do return (← get).feeCap
    gasPrice := do return (← get).gasPrice }

/-- The node as a submission backend. -/
def backend : SubmitBackend NodeM :=
  { estimateGas := fun _ _ => do
      match (← get).estimate with
      | .ok v => return .ok v.toNat
      | .error e => return .error e
    fees := feeOracle
    pendingNonce := fun _ => pendingNonce
    send := sendDirect
    receipt := fun _ _ => receiptOf
    now := do return (← get).clock
    sleepUntil := fun t => modify fun n => { n with clock := max n.clock t } }

def relayList (n : Node) : List (Relay NodeM) :=
  (List.range n.relays.length).zipWith (fun i (r : RelayScript) => ⟨r.url, sendRelay i⟩) n.relays

end Node

/-- How a send is scripted: hanging, failing with `error`, or accepted and landing when
`lands` is set. -/
def sendScriptOf (j : Json) (errorKey hangsKey landsKey : String) : Decode SendScript := do
  if ← Field.bool j hangsKey then return .hangs
  match ← Field.optString j errorKey with
  | some msg => return .fails msg
  | none => return .accepts (← Field.bool j landsKey)

def RelayScript.ofJson (j : Json) : Decode RelayScript := do
  return { url := ← Field.string j "url", send := ← sendScriptOf j "error" "hangs" "lands" }

def Node.ofJson (backend : Json) (relays : List Json) : Decode Node := do
  let nonces ← (backend.field "nonces").items.mapM wordAnswer
  let estimate ← match backend.field "estimate" with
    | .null => pure (.error (Failure.plain "unavailable"))
    | j => do
      match ← wordAnswer j with
      | .ok v => pure (.ok (v : Int))
      | .error e => pure (.error e)
  let status ← Field.u64 backend "receipt_status"
  return { estimate, nonces := { answers := nonces },
           tip := ← valueAnswer (backend.field "tip"), feeCap := ← valueAnswer (backend.field "fee_cap"),
           gasPrice := ← valueAnswer (backend.field "gas_price"),
           send := ← sendScriptOf backend "send_error" "send_hangs" "send_lands",
           landed := ← Field.bool backend "landed",
           receipt := ⟨status, ← Field.optU64 backend "receipt_block",
             ← Field.u64 backend "receipt_gas_used", 0⟩,
           receiptError := ← Field.optString backend "receipt_error",
           relays := ← relays.mapM RelayScript.ofJson }

end FlashArb.Scripted
