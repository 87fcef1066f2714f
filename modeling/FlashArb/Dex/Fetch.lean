import FlashArb.Dex.Contract
import FlashArb.Pool.State
import FlashArb.Log

/-! Reading pools and tokens from their views on chain. -/
namespace FlashArb

namespace PoolViews

def token0 : Method := { name := "token0", outputs := [.address] }
def token1 : Method := { name := "token1", outputs := [.address] }
def fee : Method := { name := "fee", outputs := [.uint 24] }
def slot0 : Method :=
  { name := "slot0", outputs := [.uint 160, .int 24, .uint 16, .uint 16, .uint 16, .uint 8, .bool] }
def stable : Method := { name := "stable", outputs := [.bool] }
def factory : Method := { name := "factory", outputs := [.address] }
def getReserves : Method := { name := "getReserves", outputs := [.uint 256, .uint 256, .uint 256] }
def decimals : Method := { name := "decimals", outputs := [.uint 8] }
def symbol : Method := { name := "symbol", outputs := [.string] }
def symbolWord : Method := { name := "symbol", outputs := [.fixedBytes 32] }

end PoolViews

/-- A token's metadata. -/
structure TokenMeta where
  address : Address
  decimals : Nat := 0
  symbol : String := ""
deriving Inhabited

/-- Metadata already read, by token. -/
abbrev TokenMetaCache := List (Address × TokenMeta)

def poolFailure (pool : Address) (f : Failure) : Failure :=
  if f.has .emptyReturn then ⟨"fetch " ++ pool.checksum ++ ": pool not found: " ++ f.message, [.poolNotFound]⟩
  else f.wrap ("fetch " ++ pool.checksum)

def int24? (v : Int) : Outcome Int :=
  if v < -(2 ^ 23 : Int) || v > 2 ^ 23 - 1 then .error (Failure.plain ("int24 overflow: " ++ toString v))
  else .ok v

/-- Reads pools holding the loan and quote tokens. -/
structure Fetcher (m : Type → Type) where
  reader : ChainReader m
  loanToken : Address
  quoteToken : Address

namespace Fetcher

variable {m : Type → Type} [Monad m] [LogSink m]

def view (f : Fetcher m) (target : Address) (method : Method) (block : Option Nat := none) :
    m (Outcome (List Abi.Value)) :=
  callMethod (some f.reader) target method block []

/-- An address view of a pool. -/
def viewAddress (f : Fetcher m) (pool : Address) (method : Method) : m (Outcome Address) := do
  match ← f.view pool method with
  | .error e => return .error (poolFailure pool e)
  | .ok (.address a :: _) => return .ok a
  | .ok _ => return .error (Failure.plain (method.name ++ ": unsupported address type"))

/-- The dynamic fields of a known pool at the current head. -/
def readSnapshot (f : Fetcher m) (s : PoolState) : m (Outcome PoolSnapshot) := do
  match ← f.reader.latestBlock with
  | .error e => return .error (e.wrap ("snapshot " ++ s.address.checksum ++ ": head block"))
  | .ok head =>
    let base : PoolSnapshot :=
      { address := s.address, kind := s.kind, token0 := s.token0, token1 := s.token1, block := some head }
    if s.kind == .concentrated then
      match ← f.view s.address PoolViews.slot0 (some head) with
      | .error e => return .error (poolFailure s.address e)
      | .ok vs =>
        let sqrt := match vs.head? with | some (.uint n) => n | _ => 0
        let tick := match vs.getD 1 default with | .int t => t | _ => 0
        match int24? tick with
        | .error e => return .error (e.wrap "slot0 tick")
        | .ok t => return .ok { base with sqrtPrice := some sqrt, tick := some t }
    else
      match ← f.view s.address PoolViews.getReserves (some head) with
      | .error e => return .error (poolFailure s.address e)
      | .ok vs =>
        let r0 := match vs.head? with | some (.uint n) => n | _ => 0
        let r1 := match vs.getD 1 default with | .uint n => n | _ => 0
        return .ok { base with reserve0 := some r0, reserve1 := some r1 }

def fetchSnapshot (f : Fetcher m) (s : PoolState) : m (Outcome PoolSnapshot) := do
  if s.kind == .concentrated || s.kind.isConstantProduct then f.readSnapshot s
  else return .error ⟨"snapshot " ++ s.address.checksum ++ ": unsupported dex kind: " ++ s.kind.name,
    [.unsupportedDex]⟩

/-- The tokens of `pool`, which must be the loan and quote tokens, in either order. -/
def readPair (f : Fetcher m) (pool : Address) (kind : DexKind) : m (Outcome PoolState) := do
  match ← f.viewAddress pool PoolViews.token0 with
  | .error e => return .error e
  | .ok token0 =>
  match ← f.viewAddress pool PoolViews.token1 with
  | .error e => return .error e
  | .ok token1 =>
  let state : PoolState := { address := pool, kind, token0, token1, token0IsLoan := token0 == f.loanToken }
  if !state.hasPair f.loanToken f.quoteToken then
    return .error ⟨"fetch " ++ pool.checksum ++ ": pool does not hold the target pair (" ++
      token0.checksum ++ "/" ++ token1.checksum ++ ")", [.pairMismatch]⟩
  return .ok state

def logKindCorrection (pool : Address) (configured actual : DexKind) : m Unit := do
  if actual != configured then
    Log.info "pool kind corrected from chain"
      [Log.text "pool" pool.checksum, Log.text "configured" configured.name, Log.text "actual" actual.name]

/-- The fee tier of a concentrated-liquidity pool, or the stable flag and factory of a
constant-product pool, whose kind the flag sets. -/
def readDetails (f : Fetcher m) (state : PoolState) : m (Outcome PoolState) := do
  let pool := state.address
  let kind := state.kind
  if kind == .concentrated then
    match ← f.view pool PoolViews.fee with
    | .error e => return .error (poolFailure pool e)
    | .ok vs =>
      let fee := match vs.head? with | some (.uint n) => n % 2 ^ 32 | _ => 0
      return .ok { state with fee := some (UInt32.ofNat fee) }
  else
    match ← f.view pool PoolViews.stable with
    | .error e => return .error (poolFailure pool e)
    | .ok vs =>
      let stable := match vs.head? with | some (.bool b) => b | _ => false
      let actual : DexKind := if stable then .stable else .volatile
      logKindCorrection pool kind actual
      match ← f.viewAddress pool PoolViews.factory with
      | .error e => return .error e
      | .ok factory => return .ok { state with stable := some stable, kind := actual, factory }

/-- The state and snapshot of a pool configured with `kind`. -/
def fetchPool (f : Fetcher m) (pool : Address) (kind : DexKind) :
    m (Outcome (PoolState × PoolSnapshot)) := do
  if !(kind == .concentrated || kind.isConstantProduct) then
    return .error ⟨"fetch " ++ pool.checksum ++ ": unsupported dex kind: " ++ kind.name, [.unsupportedDex]⟩
  match ← f.readPair pool kind with
  | .error e => return .error e
  | .ok state =>
  match ← f.readDetails state with
  | .error e => return .error e
  | .ok state =>
  match ← f.readSnapshot state with
  | .error e => return .error e
  | .ok snap => return .ok (state, snap)

/-- The metadata of a token: from the cache, or read from the chain and then cached. -/
def fetchTokenMeta (f : Fetcher m) (cache : TokenMetaCache) (token : Address) :
    m (TokenMeta × Option Failure × TokenMetaCache) := do
  match cache.lookup token with
  | some known => return (known, none, cache)
  | none =>
    let known : TokenMeta := { address := token }
    match ← f.view token PoolViews.decimals with
    | .error e => return (known, some e, cache)
    | .ok vs =>
      let decimals := match vs.head? with | some (.uint n) => n | _ => 0
      let known := { known with decimals }
      let symbol ← match ← f.view token PoolViews.symbol with
        | .ok (.string bs :: _) => pure (Text.lossyString bs)
        | .ok _ => pure ""
        | .error _ =>
          match ← f.view token PoolViews.symbolWord with
          | .ok (.fixedBytes bs :: _) =>
            pure (Text.lossyString (bs.reverse.dropWhile (· == 0)).reverse)
          | .ok _ => pure ""
          | .error e =>
            Log.debug "symbol call failed" [Log.text "token" token.checksum, Log.failure e]
            pure ""
      let known := { known with symbol }
      return (known, none, (token, known) :: cache)

end Fetcher

end FlashArb
