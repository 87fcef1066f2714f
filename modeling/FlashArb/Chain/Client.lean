import FlashArb.Chain.Rpc
import FlashArb.Chain.Header
import FlashArb.Chain.Receipt
import FlashArb.Chain.CallMsg

/-! The requests a bot makes of a node and how their results are read. -/
namespace FlashArb.Client

open Wire

/-- What a client remembers. -/
structure State where
  chainId : Option Nat := none
  closed : Bool := false

/-- A block number as a request names it. -/
def blockArg : Option Int → Json
  | none => .str "latest"
  | some n =>
    if n ≥ 0 then quantityJson n.toNat
    else match n with
      | -1 => .str "pending"
      | -2 => .str "latest"
      | -3 => .str "finalized"
      | -4 => .str "safe"
      | _ => .str ("<invalid " ++ toString n ++ ">")

def filterArg (addresses : List Address) (topics : List Hash) (fromBlock toBlock : Json) : Json :=
  .obj [("address", if addresses.isEmpty then .null else .arr (addresses.map addressJson)),
    ("fromBlock", fromBlock), ("toBlock", toBlock),
    ("topics", if topics.isEmpty then .null else .arr [.arr (topics.map hashJson)])]

/-- A call message as a request names it. -/
def callArg (msg : CallMsg) : Json :=
  .obj ([("from", addressJson msg.sender), ("to", Json.opt addressJson msg.target)] ++
    (if msg.data.isEmpty then [] else [("input", dataJson msg.data)]) ++
    (msg.value.map fun v => [("value", quantityJson v)]).getD [] ++
    (if msg.gas == 0 then [] else [("gas", quantityJson msg.gas)]) ++
    (msg.gasPrice.map fun p => [("gasPrice", quantityJson p)]).getD [])

def notFound : Failure := ⟨"not found", [.notFound]⟩

def noBaseFee : Failure := .plain "latest header has no base fee"

section

variable {m : Type → Type} [Monad m] (t : Rpc.Transport m)

def send (method : String) (params : List Json) : StateT State m (Except Rpc.Failure Json) := do
  if (← get).closed && !t.perRequest then return .error Rpc.closedFailure
  (t.request method params : m _)

/-- Sends a request and reads its result. -/
def fetch {α : Type} (method : String) (params : List Json) (read : Json → Except Fault α) :
    StateT State m (Outcome α) := do
  match ← send t method params with
  | .error e => return .error e.toFailure
  | .ok j =>
    match read j with
    | .ok a => return .ok a
    | .error f => return .error (.plain f.message)

/-- The chain id, read once. -/
def chainId : StateT State m (Outcome Nat) := do
  if let some id := (← get).chainId then return .ok id
  let r ← fetch t "eth_chainId" [] big
  if let .ok id := r then modify fun s => { s with chainId := some id }
  return r

def blockNumber : StateT State m (Outcome Nat) := fetch t "eth_blockNumber" [] word64

def orNull {α : Type} (read : Json → Except Fault α) : Json → Except Fault (Option α)
  | .null => .ok none
  | j => some <$> read j

def found {α : Type} : Outcome (Option α) → Outcome α
  | .ok (some a) => .ok a
  | .ok none => .error notFound
  | .error e => .error e

def header (number : Option Int) : StateT State m (Outcome Header) :=
  found <$> fetch t "eth_getBlockByNumber" [blockArg number, .bool false] (orNull Header.ofJson)

/-- The logs of a block range from the given addresses with one of the given first topics. -/
def filterLogs (fromBlock toBlock : Nat) (addresses : List Address) (topics : List Hash) :
    StateT State m (Outcome (List EventLog)) :=
  fetch t "eth_getLogs" [filterArg addresses topics (quantityJson fromBlock) (quantityJson toBlock)]
    fun
    | .null => .ok []
    | j => list "[]types.Log" EventLog.ofWire j

/-- What a log subscription delivers: the logs, and the failure that ended it, if one did. -/
structure Delivery where
  logs : List EventLog
  failure : Option Failure

/-- Reads pushed payloads as logs; a payload that does not read ends the subscription. -/
def deliver : List Json → Delivery
  | [] => ⟨[], none⟩
  | p :: ps =>
    match EventLog.ofWire p with
    | .ok l => let d := deliver ps; ⟨l :: d.logs, d.failure⟩
    | .error f => ⟨[], some (.plain f.message)⟩

/-- Subscribes to new logs from the given addresses with one of the given first topics. -/
def subscribeLogs (addresses : List Address) (topics : List Hash) :
    StateT State m (Outcome Delivery) := do
  if (← get).closed && !t.perRequest then return .error Rpc.closedFailure.toFailure
  match ← (t.subscribe [.str "logs", filterArg addresses topics (quantityJson 0) (.str "latest")] : m _) with
  | .error e => return .error e.toFailure
  | .ok payloads => return .ok (deliver payloads)

def call (msg : CallMsg) (block : Option Int) : StateT State m (Outcome Bytes) :=
  fetch t "eth_call" [callArg msg, blockArg block] data

def estimateGas (msg : CallMsg) : StateT State m (Outcome Nat) :=
  fetch t "eth_estimateGas" [callArg msg] word64

def pendingNonce (account : Address) : StateT State m (Outcome Nat) :=
  fetch t "eth_getTransactionCount" [addressJson account, .str "pending"] word64

def gasPrice : StateT State m (Outcome Nat) := fetch t "eth_gasPrice" [] big

def tipCap : StateT State m (Outcome Nat) := fetch t "eth_maxPriorityFeePerGas" [] big

/-- A fee cap of twice the latest base fee plus the tip. -/
def feeCap (tip : Option Nat) : StateT State m (Outcome Nat) := do
  match ← header t none with
  | .error e => return .error e
  | .ok h =>
    match h.baseFee with
    | none => return .error noBaseFee
    | some base => return .ok (2 * base + tip.getD 0)

def sendRaw (raw : Bytes) : StateT State m (Outcome Unit) :=
  fetch t "eth_sendRawTransaction" [dataJson raw] fun _ => .ok ()

def receipt (hash : Hash) : StateT State m (Outcome TxReceipt) :=
  found <$> fetch t "eth_getTransactionReceipt" [hashJson hash] (orNull TxReceipt.ofWire)

def close : StateT State m Unit := modify fun s => { s with closed := true }

end

end FlashArb.Client
