import FlashArb.App.Commands
import FlashArb.Json.Writer

/-! The command line run as a program. -/
namespace FlashArb.Process

/-- What the process keeps between steps: the severity its log keeps and the signer's nonces. -/
structure HostState where
  threshold : Level := .info
  nonces : Option NonceManager := none

/-- The process's monad. -/
abbrev HostM := StateT HostState IO

instance : LogSink HostM := ⟨fun e => do
  if e.level.atLeast (← get).threshold then
    let ts ← IO.monoNanosNow
    IO.eprintln (Json.render (.obj ([("level", .str e.level.name), ("ts", Json.ofNat ts),
      ("msg", .str e.message)] ++ e.fields)))⟩

instance : Recorder HostM := ⟨fun _ => pure ()⟩

/-- Why a file operation failed, from the system's error. -/
def errnoOf : IO.Error → Errno
  | .noFileOrDirectory .. => .noEntry
  | .inappropriateType _ 21 _ => .isDir
  | .inappropriateType .. => .notDir
  | .alreadyExists .. => .exists
  | _ => .noEntry

/-- Runs a file operation, its failure named by the operation and the path. -/
def fileStep {α : Type} (op : String) (p : FilePath) (act : IO α) : HostM (Outcome α) := do
  try
    let a ← act
    return .ok a
  catch e =>
    return .error (pathFailure op p (errnoOf e))

/-- The disk of the working directory. -/
def hostDisk : Disk HostM :=
  { stat := fun p => do
      try
        let text ← IO.FS.readFile p.render
        return .ok (.file text)
      catch e =>
        match errnoOf e with
        | .isDir => return .ok .dir
        | other => return .error other
    readFile := fun p => fileStep "open" p (IO.FS.readFile p.render)
    mkdirAll := fun p => fileStep "mkdir" p (IO.FS.createDirAll p.render)
    writeFile := fun p text => fileStep "open" p (IO.FS.writeFile p.render text)
    appendFile := fun p text => fileStep "open" p do
      let h ← IO.FS.Handle.mk p.render .append
      h.putStr text
      h.flush
    rename := fun old new => fileStep "rename" old (IO.FS.rename old.render new.render) }

/-- The network of a build without connections: a socket path that does not exist is
missing, any other dial is refused. -/
def offlineNetwork : Chain.Network HostM :=
  { unix := fun path => do
      try
        let _ ← IO.FS.readFile path
        return .error "connect: connection refused"
      catch e =>
        match errnoOf e with
        | .noEntry => return .error "connect: no such file or directory"
        | _ => return .error "connect: connection refused"
    tcp := fun address => pure (.error ("dial tcp " ++ address ++ ": connect: network is unreachable")) }

/-- Database servers, none of which can be reached. -/
def offlineDatabase : Postgres.Network HostM :=
  { resolve := fun host => pure (.error ("lookup " ++ host ++ ": no such host"))
    dial := fun unix address => pure <|
      if unix then "dial unix " ++ address ++ ": connect: no such file or directory"
      else "dial tcp " ++ address ++ ": connect: network is unreachable" }

def offlineRedis (address : String) : RedisClient HostM :=
  let fail : HostM (Outcome Unit) :=
    pure (.error (Failure.plain ("dial tcp " ++ address ++ ": connect: network is unreachable")))
  { ping := fail, xadd := fun _ _ _ => fail, close := pure (.ok ()) }

def sleepUntil (t : Nat) : HostM Unit := do
  let now ← IO.monoNanosNow
  if t > now then IO.sleep ((t - now) / 1000000).toUInt32

/-- The process's outside world. -/
def services : App.Services HostM :=
  { network := offlineNetwork
    disk := hostDisk
    path := FilePath.ofRelative
    database := offlineDatabase
    redis := offlineRedis
    clock := IO.monoNanosNow
    sleepUntil
    salt := IO.rand 0 (2 ^ 30)
    nonces := do return (← get).nonces
    keepNonces := fun mgr => modify fun s => { s with nonces := some mgr } }

/-- The settings read from the environment. -/
def settingNames : List String :=
  ["rpc", "ws-rpc", "private-key", "chain-id", "executor", "balancer-vault", "quoter", "velo-router",
   "routers", "uniswap-factory", "velo-factory", "loan-token", "quote-token", "loan-decimals",
   "quote-decimals", "pool", "min-loan", "max-loan", "search-iterations", "search-concurrency",
   "dynamic-cap-percent", "price-threshold", "gas-buffer-percent", "min-gas-limit",
   "fallback-gas-limit", "flash-loan-fee-bps", "gas-price-gwei", "max-priority-fee-gwei",
   "fallback-priority-fee-gwei", "min-profit-buffer-bps", "min-profit-buffer-wei", "relay",
   "fetch-timeout", "quote-timeout", "receipt-timeout", "relay-timeout", "submit-timeout",
   "receipt-poll-interval", "nonce-resync-interval", "dry-run", "batch-size", "discovery-lookback",
   "checkpoint", "checkpoint-enabled", "max-retries", "retry-backoff", "health-interval",
   "dedup-size", "out", "pg-dsn", "redis-addr", "redis-stream", "metrics-addr", "log-level"]

def environment : IO (List (String × String)) :=
  settingNames.filterMapM fun k => do
    let name := Settings.envName k
    return (← IO.getEnv name).map (name, ·)

/-- How many subscriptions a run follows before it stops on its own. -/
def followRounds : Nat := 1000000

end FlashArb.Process

/-- Runs the bot's command line. -/
def main (args : List String) : IO UInt32 := do
  let env ← FlashArb.Process.environment
  let keep (l : FlashArb.Level) : FlashArb.Process.HostM Unit := modify fun s => { s with threshold := l }
  let (exit, _) ← (FlashArb.App.runCommandLine FlashArb.Process.services env keep
    FlashArb.Process.followRounds args).run {}
  IO.print exit.out
  IO.eprint exit.err
  return exit.status.toUInt32
