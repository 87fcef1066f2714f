import FlashArb.Submit.Fees
import FlashArb.Submit.Nonce
import FlashArb.Chain.Transaction
import FlashArb.Chain.CallMsg
import FlashArb.Sim.Profit
import FlashArb.Text.Printable
import FlashArb.Text.Search

/-! Submitting a transaction: gas, fees, nonce, the direct send and the relays. -/
namespace FlashArb

/-- The steps a submission goes through. -/
inductive Stage where
  | built
  | nonceAssigned
  | broadcastAttempted
  | failedDirect
  | relayAttempted
  | confirmed
  | reverted
  | failedAll
  | timedOut
deriving DecidableEq, Inhabited

def Stage.name : Stage → String
  | .built => "built"
  | .nonceAssigned => "nonce_assigned"
  | .broadcastAttempted => "broadcast_attempted"
  | .failedDirect => "failed_direct"
  | .relayAttempted => "relay_attempted"
  | .confirmed => "confirmed"
  | .reverted => "reverted"
  | .failedAll => "failed_all"
  | .timedOut => "timed_out"

/-- A transaction receipt. -/
structure Receipt where
  status : Nat
  block : Option Nat := none
  gasUsed : Nat := 0
  logs : Nat := 0
deriving Inhabited

def deadlineExceeded : Failure := ⟨"context deadline exceeded", [.deadlineExceeded]⟩

/-- The chain surface a submission uses. Each call is given the deadline it runs under. -/
structure SubmitBackend (m : Type → Type) where
  estimateGas : CallMsg → Option Nat → m (Outcome Nat)
  fees : FeeOracle m
  pendingNonce : Address → m (Outcome Nat)
  send : Bytes → Option Nat → m (Outcome Unit)
  receipt : Hash → Option Nat → m (Outcome Receipt)
  now : m Nat
  sleepUntil : Nat → m Unit

/-- A private transaction endpoint. -/
structure Relay (m : Type → Type) where
  url : String
  send : Bytes → Option Nat → m (Outcome Hash)

/-- Limits of a submission, durations in nanoseconds; zero means none. -/
structure SubmitConfig where
  chainId : Int
  gasBufferPercent : Nat := 0
  minGasLimit : Nat := 0
  estimateTimeout : Nat := 0
  receiptTimeout : Nat := 0
  relayTimeout : Nat := 0
  submitTimeout : Nat := 0
  pollInterval : Nat := 0

/-- A call to sign and submit. -/
structure TxRequest where
  target : Address
  data : Bytes

/-- The trace and outcome of one submission. -/
structure Submission where
  stages : List Stage := [.built]
  outcome : Option Stage := none
  via : String := ""
  txHash : Hash := Hash.zero
  nonce : Nat := 0
  gasLimit : Nat := 0
  fees : Option Fees := none
  receipt : Option Receipt := none
deriving Inhabited

/-- The scheme and host of a URL, which is all of a relay's address that is safe to show; a
URL without a host shows as `relay`. -/
def redactUrl (raw : String) : String :=
  match raw.splitOn "://" with
  | scheme :: rest :: _ =>
    let validScheme := !scheme.isEmpty && (scheme.toList.headD ' ').isAlpha &&
      scheme.toList.all fun c => c.isAlphanum || c == '+' || c == '-' || c == '.'
    let authority := String.ofList (rest.toList.takeWhile fun c => c != '/' && c != '?' && c != '#')
    let host := (authority.splitOn "@").getLast?.getD ""
    if validScheme && !host.isEmpty then Text.toLower scheme ++ "://" ++ host else "relay"
  | _ => "relay"

def isNonceError (f : Failure) : Bool := Text.containsText (Text.toLower f.message) "nonce"

def earlier : Option Nat → Option Nat → Option Nat
  | some a, some b => some (min a b)
  | some a, none => some a
  | none, b => b

/-- A signer driving transactions to a receipt. -/
structure Submitter (m : Type → Type) where
  backend : SubmitBackend m
  relays : List (Relay m)
  feeConfig : FeeConfig
  secret : Nat
  sender : Address
  config : SubmitConfig

/-- A submitter for a secret key, checking the configuration and the account of a given
nonce manager; without one it gets a fresh manager for the signer. -/
def Submitter.create {m : Type → Type} (backend : SubmitBackend m) (relays : List (Relay m))
    (feeConfig : FeeConfig) (secret : Option Nat) (config : SubmitConfig)
    (nonces : Option NonceManager) : Outcome (Submitter m × NonceManager) := do
  let secret ← match secret with
    | some k => pure k
    | none => throw (Failure.plain "signing key is required")
  if config.chainId ≤ 0 then throw (Failure.plain "chain id is required")
  let config := if config.pollInterval == 0 then { config with pollInterval := 1000000000 } else config
  let sender := addressOfSecret secret
  let mgr := nonces.getD { account := sender }
  if mgr.account != sender then
    throw (Failure.plain ("nonce manager account " ++ mgr.account.checksum ++ " does not match signer " ++
      sender.checksum))
  return (⟨backend, relays, feeConfig, secret, sender, config⟩, mgr)

namespace Submitter

variable {m : Type → Type} [Monad m] [LogSink m]

def expired (s : Submitter m) (deadline : Option Nat) : m Bool := do
  match deadline with
  | none => return false
  | some d => return d ≤ (← s.backend.now)

def attemptDeadline (s : Submitter m) (timeout : Nat) (overall : Option Nat) : m (Option Nat) := do
  if timeout > 0 then return earlier (some ((← s.backend.now) + timeout)) overall
  else return overall

/-- Polls for the receipt of `hash` until it appears or the deadline passes, at most
`polls` times. -/
def waitReceipt (s : Submitter m) (hash : Hash) (deadline : Option Nat) : Nat → m (Outcome Receipt)
  | 0 => return .error deadlineExceeded
  | polls + 1 => do
    match ← s.backend.receipt hash deadline with
    | .ok r => return .ok r
    | .error e =>
      if !e.has .notFound && !(← s.expired deadline) then
        Log.debug "receipt poll failed" [Log.text "tx_hash" hash.hex, Log.failure e]
      let t ← s.backend.now
      let tick := t + s.config.pollInterval
      match deadline with
      | some d =>
        if d ≤ tick then
          if t < d then s.backend.sleepUntil d
          return .error deadlineExceeded
        else
          s.backend.sleepUntil tick
          s.waitReceipt hash deadline polls
      | none =>
        s.backend.sleepUntil tick
        s.waitReceipt hash deadline polls

def pollBudget (s : Submitter m) (deadline : Option Nat) : m Nat := do
  match deadline with
  | some d => return (d - (← s.backend.now)) / s.config.pollInterval + 2
  | none => return 1000000

def awaitReceipt (s : Submitter m) (hash : Hash) (deadline : Option Nat) : m (Outcome Receipt) := do
  s.waitReceipt hash deadline (← s.pollBudget deadline)

/-- Ends a submission that never got a receipt. -/
def fail (s : Submitter m) (res : Submission) (overall : Option Nat) (cause : Failure) :
    m (Submission × Option Failure) := do
  if ← s.expired overall then
    Log.warn "submission timed out" [Log.text "tx_hash" res.txHash.hex, Log.failure cause]
    let res := { res with outcome := some .timedOut, stages := res.stages ++ [.timedOut] }
    return (res, some ⟨"submission timed out: " ++ cause.message, .timeout :: cause.marks⟩)
  else
    Log.error "submission failed" [Log.text "tx_hash" res.txHash.hex, Log.failure cause]
    let res := { res with outcome := some .failedAll, stages := res.stages ++ [.failedAll] }
    return (res, some ⟨"all submission routes failed: " ++ cause.message, .allRoutesFailed :: cause.marks⟩)

/-- Ends a submission with a receipt. -/
def finish (res : Submission) (r : Receipt) (via : String) (context : List (String × Json)) :
    m Submission := do
  let fields := context ++ [Log.text "via" via, Log.nat "block" (r.block.getD 0), Log.nat "gas_used" r.gasUsed]
  if r.status == 1 then
    Log.info "transaction confirmed" fields
    return { res with receipt := some r, via, outcome := some .confirmed, stages := res.stages ++ [.confirmed] }
  else
    Log.error "transaction reverted on-chain" fields
    return { res with receipt := some r, via, outcome := some .reverted, stages := res.stages ++ [.reverted] }

def ended (s : Submitter m) (overall : Option Nat) : m (Option Failure) := do
  if ← s.expired overall then return some deadlineExceeded else return none

def overallDeadline (s : Submitter m) : m (Option Nat) := do
  let start ← s.backend.now
  return if s.config.submitTimeout > 0 then some (start + s.config.submitTimeout) else none

/-- The gas limit of a call: its estimate within the estimate timeout, buffered and raised to
the minimum. A failed estimate means the call would revert. -/
def gasLimit (s : Submitter m) (req : TxRequest) (overall : Option Nat) : m (Outcome Nat) := do
  let deadline ← s.attemptDeadline s.config.estimateTimeout overall
  match ← s.backend.estimateGas { sender := s.sender, target := some req.target, data := req.data } deadline with
  | .error e => return .error (e.wrap "estimate gas")
  | .ok units => return .ok (bufferedGasLimit units s.config.gasBufferPercent s.config.minGasLimit)

/-- The direct route: send to the node and wait for the receipt, both within the receipt timeout. -/
def direct (s : Submitter m) (raw : Bytes) (hash : Hash) (context : List (String × Json))
    (overall : Option Nat) : m (Except (Bool × Failure) Receipt) := do
  let deadline ← s.attemptDeadline s.config.receiptTimeout overall
  match ← s.backend.send raw deadline with
  | .error e =>
    let gone ← s.expired deadline
    Log.warn "direct broadcast failed" (context ++ [Log.failure e])
    return .error (gone, e.wrap "direct broadcast")
  | .ok _ =>
    match ← s.awaitReceipt hash deadline with
    | .ok r => return .ok r
    | .error e =>
      Log.warn "no receipt after direct broadcast" (context ++ [Log.failure e])
      return .error (true, e.wrap "direct receipt")

/-- One relay attempt: send through the relay and wait for the receipt, both within the relay
timeout, telling whether the transaction may have left. -/
def relayAttempt (s : Submitter m) (relay : Relay m) (raw : Bytes) (hash : Hash)
    (overall : Option Nat) : m (Bool × Outcome Receipt) := do
  let deadline ← s.attemptDeadline s.config.relayTimeout overall
  match ← relay.send raw deadline with
  | .error e => return (← s.expired deadline, .error (e.wrap "broadcast"))
  | .ok _ =>
    match ← s.awaitReceipt hash deadline with
    | .ok r => return (true, .ok r)
    | .error e => return (true, .error (e.wrap "receipt"))

/-- The outcome of the relay attempts after a failed direct route. -/
structure RelayRun where
  broadcast : Bool
  lastError : Failure
  done : Option Submission := none

/-- Tries the relays in order until one gives a receipt. -/
def tryRelays (s : Submitter m) (raw : Bytes) (context : List (String × Json)) (overall : Option Nat) :
    List (Relay m) → Submission → RelayRun → m (Submission × RelayRun)
  | [], res, run => return (res, run)
  | relay :: rest, res, run => do
    if ← s.expired overall then return (res, run)
    let via := redactUrl relay.url
    let res := { res with stages := res.stages ++ [.relayAttempted] }
    let (sent, outcome) ← s.relayAttempt relay raw res.txHash overall
    let broadcast := run.broadcast || sent
    match outcome with
    | .ok r =>
      let res ← finish res r via context
      return (res, { run with broadcast, done := some res })
    | .error e =>
      Log.warn "relay attempt failed" (context ++ [Log.text "relay" via, Log.bool "sent" sent, Log.failure e])
      s.tryRelays raw context overall rest res { broadcast, lastError := e.wrap ("relay " ++ via) }

/-- Drives a signed transaction to a receipt, directly and then through the relays. -/
def deliver (s : Submitter m) (mgr : NonceManager) (nonce : Nat) (raw : Bytes)
    (context : List (String × Json)) (overall : Option Nat) (res : Submission) :
    m (Submission × Option Failure × NonceManager) := do
  let res := { res with stages := res.stages ++ [.broadcastAttempted] }
  match ← s.direct raw res.txHash context overall with
  | .ok r => return (← finish res r "direct" context, none, mgr)
  | .error (broadcast, lastError) =>
    let res := { res with stages := res.stages ++ [.failedDirect] }
    let (res, run) ← s.tryRelays raw context overall s.relays res { broadcast, lastError }
    match run.done with
    | some done => return (done, none, mgr)
    | none =>
      let mgr := if run.broadcast || isNonceError run.lastError then mgr.reset else (mgr.release nonce).2
      let (res, err) ← s.fail res overall run.lastError
      return (res, err, mgr)

def signed (s : Submitter m) (req : TxRequest) (nonce gasLimit : Nat) (fees : Fees) : Option Bytes :=
  DynamicFeeTx.sign
    ⟨s.config.chainId.toNat, nonce, fees.tipCap.toNat, fees.feeCap.toNat, gasLimit, some req.target, 0, req.data⟩
    s.secret

/-- Delivers a signed transaction; one that could not be signed gives its nonce back. -/
def deliverSigned (s : Submitter m) (mgr : NonceManager) (nonce gasLimit : Nat) (fees : Fees)
    (overall : Option Nat) (res : Submission) :
    Option Bytes → m (Submission × Option Failure × NonceManager)
  | none => do
    let (res, err) ← s.fail res overall (Failure.plain "sign transaction: invalid private key")
    return (res, err, (mgr.release nonce).2)
  | some raw => do
    let hash := txHash raw
    let context := [Log.text "tx_hash" hash.hex, Log.nat "nonce" nonce]
    Log.info "submitting transaction" (context ++ [Log.nat "gas_limit" gasLimit,
      Log.text "max_fee" (toString fees.feeCap), Log.text "max_priority_fee" (toString fees.tipCap),
      Log.text "fee_source" fees.source.name])
    s.deliver mgr nonce raw context overall { res with txHash := hash }

/-- Signs `req` and drives it to a receipt, with the nonce manager of the signer. -/
def submit (s : Submitter m) (mgr : NonceManager) (req : TxRequest) :
    m (Submission × Option Failure × NonceManager) := do
  let overall ← s.overallDeadline
  match ← s.gasLimit req overall with
  | .error e =>
    let (res, err) ← s.fail {} overall e
    return (res, err, mgr)
  | .ok gasLimit =>
    match ← selectFeesUnder (s.ended overall) s.backend.fees s.feeConfig with
    | .error e =>
      let (res, err) ← s.fail { gasLimit } overall (e.wrap "select fees")
      return (res, err, mgr)
    | .ok fees =>
      let res : Submission := { gasLimit, fees := some fees }
      let (nonce?, mgr) ← mgr.next s.backend.pendingNonce
      match nonce? with
      | .error e =>
        let (res, err) ← s.fail res overall e
        return (res, err, mgr)
      | .ok nonce =>
        s.deliverSigned mgr nonce gasLimit fees overall
          { res with nonce, stages := res.stages ++ [.nonceAssigned] } (s.signed req nonce gasLimit fees)

end Submitter

end FlashArb
