import FlashArb.App.Assemble
import FlashArb.Cli.Run
import FlashArb.Config.Load
import FlashArb.Engine.Watch
import FlashArb.Metrics.Listen

/-! The bot's command line: scanning once, or running and following the chain. -/
namespace FlashArb.App

/-- The tasks of the program. -/
inductive Task where
  | run
  | scan
deriving DecidableEq

def rootFlags : List Cli.FlagSpec :=
  [{ name := "config", usage := "config file path", default := .text "" },
   { name := "env-file", usage := "dotenv file loaded before the environment", default := .text ".env" }]

def second : Int := 1000000000

/-- The flags of both tasks. -/
def commonFlags : List Cli.FlagSpec :=
  [{ name := "rpc", usage := "HTTP or websocket RPC URL", default := .text "" },
   { name := "chain-id", usage := "chain id, 0 queries the node", default := .uint 0 },
   { name := "executor", usage := "arbitrage executor contract", default := .text "" },
   { name := "balancer-vault", usage := "flash-loan vault",
     default := .text "0xBA12222222228d8Ba445958a75a0704d566BF2C8" },
   { name := "quoter", usage := "Uniswap V3 QuoterV2 address", default := .text "" },
   { name := "velo-router", usage := "default constant-product router", default := .text "" },
   { name := "routers", usage := "factory=router overrides (comma-separated)", default := .texts [] },
   { name := "uniswap-factory", usage := "Uniswap V3 factory watched for new pools", default := .text "" },
   { name := "velo-factory", usage := "constant-product factory watched for new pools", default := .text "" },
   { name := "loan-token", usage := "flash-loaned token", default := .text "" },
   { name := "quote-token", usage := "intermediate token", default := .text "" },
   { name := "loan-decimals", usage := "loan token decimals, -1 reads them from the chain", default := .int (-1) },
   { name := "quote-decimals", usage := "quote token decimals, -1 reads them from the chain", default := .int (-1) },
   { name := "pool", usage := "pool=kind entries, kind is univ3, volatile or stable", default := .texts [] },
   { name := "min-loan", usage := "smallest loan in loan-token units", default := .float 0.1 },
   { name := "max-loan", usage := "largest loan in loan-token units", default := .float 100 },
   { name := "search-iterations", usage := "loan sizes sampled per route", default := .int 10 },
   { name := "search-concurrency", usage := "concurrent simulations per route", default := .int 4 },
   { name := "price-threshold", usage := "minimum buy/sell price gap in quote units", default := .float 0.001 },
   { name := "out", usage := "output JSONL path", default := .text "./data/opportunities.jsonl" },
   { name := "pg-dsn", usage := "Postgres DSN, empty disables", default := .text "" },
   { name := "redis-addr", usage := "Redis address for the opportunity stream, empty disables", default := .text "" },
   { name := "log-level", usage := "log level (debug, info, warn, error)", default := .text "info" }]

/-- The flags only following the chain has. -/
def runOnlyFlags : List Cli.FlagSpec :=
  [{ name := "ws-rpc", usage := "websocket RPC URL for log subscriptions (defaults to --rpc)", default := .text "" },
   { name := "private-key", usage := "hex private key of the submitting account", default := .text "" },
   { name := "relay", usage := "private relay URLs tried in order after the direct broadcast", default := .texts [] },
   { name := "dry-run", usage := "simulate and record opportunities without submitting", default := .bool false },
   { name := "gas-price-gwei", usage := "fixed gas price in gwei, 0 uses the fee oracle", default := .float 0 },
   { name := "max-priority-fee-gwei", usage := "priority fee ceiling in gwei", default := .float 1 },
   { name := "fallback-priority-fee-gwei", usage := "priority fee used when the oracle has no tip", default := .float 0 },
   { name := "min-profit-buffer-bps", usage := "profit share withheld from the on-chain guard", default := .uint 10 },
   { name := "min-profit-buffer-wei", usage := "absolute amount withheld from the on-chain guard",
     default := .text "5000000000000" },
   { name := "receipt-timeout", usage := "deadline for the direct send and its receipt", default := .duration (60 * second) },
   { name := "relay-timeout", usage := "deadline per relay, covering send and receipt", default := .duration (30 * second) },
   { name := "submit-timeout", usage := "overall submission deadline", default := .duration (180 * second) },
   { name := "nonce-resync-interval", usage := "period between nonce resyncs, 0 disables",
     default := .duration (300 * second) },
   { name := "batch-size", usage := "blocks per log backfill request", default := .uint 2000 },
   { name := "discovery-lookback", usage := "maximum blocks replayed for pool discovery on start", default := .uint 5000 },
   { name := "checkpoint", usage := "checkpoint file path", default := .text "./data/checkpoint.json" },
   { name := "checkpoint-enabled", usage := "enable checkpointing", default := .bool true },
   { name := "health-interval", usage := "period between health log lines, 0 disables", default := .duration (60 * second) },
   { name := "metrics-addr", usage := "listen address for /metrics and /healthz, empty disables", default := .text "" }]

/-- The command tree of the program, with the built-in help and completion commands. -/
def program : Cli.Command Task :=
  Cli.withBuiltins (.node { use := "arbbot", short := "Two-pool flash-loan arbitrage bot", persistent := rootFlags }
    none
    [.node { use := "run", short := "Follow pool events and submit profitable arbitrages",
             flags := commonFlags ++ runOnlyFlags } (some (.task .run)) [],
     .node { use := "scan",
             short := "Load pools once, evaluate every route and record opportunities without submitting",
             flags := commonFlags } (some (.task .scan)) []])

/-- A flag's value as a setting: integers and booleans as such, lists as their items after
being written and read back as one record, everything else as its text. -/
def settingOf : Cli.FlagValue → Settings.Value
  | .int n => .int n
  | .bool b => .bool b
  | .texts items =>
    match Cli.parseList (Cli.Csv.writeRecord items) with
    | .ok back => .texts back
    | .error _ => .texts []
  | v => .text v.shown

def bindFlag (f : Cli.Flag) : Settings.Flag :=
  { name := f.spec.name, given := if f.given then some (settingOf f.value) else none,
    default := settingOf f.spec.default }

def invalidConfig (c : Config) : Option Failure :=
  match c.problems with
  | [] => none
  | ps => some (Failure.combine (ps.map fun p => Failure.marked .invalidConfig ("invalid config: " ++ p)))

variable {m : Type → Type} [Monad m] [LogSink m] [Recorder m]

/-- Loads the configuration of the flags and the environment, reading the dotenv and
configuration files from the disk. -/
def loadConfig (sv : Services m) (env : List (String × String)) (flags : List Cli.Flag) :
    m (Outcome Config) := do
  let bound := flags.map bindFlag
  let named := match Cli.valueOf flags "config" with
    | some v => v.shown
    | none => ""
  let looked ← (Config.consulted bound named).mapM fun n => do return (n, ← sv.disk.stat (sv.path n))
  let entry (n : String) : Except Errno Entry :=
    match looked.find? (·.1 == n) with
    | some (_, r) => r
    | none => .error .noEntry
  return match Config.load { entry, env, flags := bound } named with
    | .ok (c, _) => .ok c
    | .error e => .error (Failure.plain e)

def settle (c : Config) : Outcome (Config × Level) := do
  if let some f := invalidConfig c then throw f
  let level ← levelOf c.logLevel
  return (c, level)

/-- Loads the pools once, evaluates every route and logs what was found. -/
def scanOnce (c : Config) (bot : Bot m) : m (Outcome Unit) := do
  let step : EngineM m (Outcome (Report × UInt64)) := do
    match ← bot.engine.bootstrap with
    | .error f => return .error f
    | .ok () =>
      -- the command's context ends only when the process is interrupted
      match ← bot.engine.evaluate (pure none) with
      | (_, some f) => return .error f
      | (report, none) => return .ok (report, (← get).head)
  let (result, _) ← step.run bot.state
  match result with
  | .error f => return .error f
  | .ok (report, head) =>
    Log.info "scan complete" [Log.nat "block" head.toNat, Log.nat "candidates" report.candidates,
      Log.nat "opportunities" report.opportunities.length, Log.text "out" c.out]
    for o in report.opportunities do
      Log.info "opportunity" [Log.text "id" o.id, Log.text "buy_pool" o.buyPool,
        Log.text "sell_pool" o.sellPool, Log.text "loan" o.loanHuman, Log.text "net_profit" o.netProfit]
    return .ok ()

/-- Loads the pools, evaluates the routes once, then follows the chain for at most `rounds`
subscriptions. -/
def follow (e : Engine m) (rounds : Nat) : EngineM m (Outcome Unit) := do
  match e.logs with
  | none => return .error (Failure.plain "run requires an event decoder and a log source")
  | some logs =>
    if e.config.batchSize == 0 then
      return .error (Failure.plain "batch size must be greater than zero")
    match ← e.bootstrap with
    | .error f => return .error f
    | .ok () =>
      if let (_, some f) := ← e.evaluate (pure none) then
        Log.warn "evaluation failed" [Log.failure f]
      e.watch logs rounds

/-- Serves the metrics, logs the start and follows the chain. -/
def runBot (c : Config) (bot : Bot m) (rounds : Nat) : m (Outcome Unit) := do
  let _ ← Metrics.serve c.metricsAddr
  Log.info "bot start" [Log.text "rpc" c.rpcUrl, Log.nat "pools" (c.pools.getD []).length,
    Log.nat "relays" (c.relayUrls.getD []).length, Log.bool "dry_run" c.dryRun, Log.text "out" c.out,
    Log.bool "checkpoint_enabled" c.checkpointEnabled, Log.text "checkpoint" c.checkpoint]
  let (result, _) ← (follow bot.engine rounds).run bot.state
  match result with
  | .error f => return .error f
  | .ok () =>
    Log.info "bot stopped"
    return .ok ()

/-- Runs a task with the flags of its command line: `setLevel` opens the log at the configured
severity, and following the chain stops after `rounds` subscriptions. -/
def perform (sv : Services m) (env : List (String × String)) (setLevel : Level → m Unit)
    (rounds : Nat) (task : Task) (flags : List Cli.Flag) : m (Outcome Unit) := do
  let c ← match ← loadConfig sv env flags with
    | .ok c => pure c
    | .error f => return .error f
  let c := if task == .scan then { c with dryRun := true } else c
  let (c, level) ← match settle c with
    | .ok r => pure r
    | .error f => return .error f
  setLevel level
  let bot ← match ← build sv c (task == .run) with
    | .ok b => pure b
    | .error f => return .error f
  let result ← match task with
    | .scan => scanOnce c bot
    | .run => runBot c bot rounds
  bot.close
  return result

/-- What a command line printed and its exit status. -/
structure Exit where
  out : String := ""
  err : String := ""
  status : Nat := 0

/-- Runs a command line of the program. -/
def runCommandLine (sv : Services m) (env : List (String × String)) (setLevel : Level → m Unit)
    (rounds : Nat) (args : List String) : m Exit := do
  match Cli.execute program args with
  | .finished out err status => return { out, err, status }
  | .perform task flags _ =>
    match ← perform sv env setLevel rounds task flags with
    | .ok () => return {}
    | .error f => return { err := Cli.errorText f.message, status := 1 }

end FlashArb.App
