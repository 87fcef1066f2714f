import FlashArb.Config.Basic
import FlashArb.Config.Formats
import FlashArb.Config.Dotenv
import FlashArb.Files.Tree

/-! Loading the configuration from the dotenv file, the environment, a file and flags. -/
namespace FlashArb.Config

open Settings

/-- Every setting's default. -/
def defaults : List (String × Value) :=
  let seconds (n : Int) : Value := .duration (n * 1000000000)
  [("balancer-vault", .text "0xBA12222222228d8Ba445958a75a0704d566BF2C8"),
   ("loan-decimals", .int (-1)), ("quote-decimals", .int (-1)),
   ("min-loan", .float 0.1), ("max-loan", .float 100.0),
   ("search-iterations", .int 10), ("search-concurrency", .int 4),
   ("dynamic-cap-percent", .uint64 10), ("price-threshold", .float 0.001),
   ("gas-buffer-percent", .uint64 20), ("min-gas-limit", .uint64 200000),
   ("fallback-gas-limit", .uint64 500000), ("flash-loan-fee-bps", .uint64 0),
   ("max-priority-fee-gwei", .float 1.0), ("min-profit-buffer-bps", .uint64 10),
   ("min-profit-buffer-wei", .text "5000000000000"),
   ("fetch-timeout", seconds 15), ("quote-timeout", seconds 10),
   ("receipt-timeout", seconds 60), ("relay-timeout", seconds 30),
   ("submit-timeout", seconds 180), ("receipt-poll-interval", seconds 2),
   ("nonce-resync-interval", seconds 300), ("batch-size", .uint64 2000),
   ("discovery-lookback", .uint64 5000), ("health-interval", seconds 60),
   ("dedup-size", .int 4096), ("checkpoint", .text "./data/checkpoint.json"),
   ("checkpoint-enabled", .bool true), ("max-retries", .int 5),
   ("retry-backoff", .duration 500000000), ("out", .text "./data/opportunities.jsonl"),
   ("redis-stream", .text "arb:opportunities"), ("log-level", .text "info")]

/-- The configuration the sources give. -/
def ofSources (s : Sources) : Config where
  rpcUrl := s.text "rpc"
  wsUrl := s.text "ws-rpc"
  privateKey := s.text "private-key"
  chainId := s.uint64 "chain-id"
  executor := s.text "executor"
  balancerVault := s.text "balancer-vault"
  quoter := s.text "quoter"
  veloRouter := s.text "velo-router"
  routers := some (s.textMap "routers")
  uniswapFactory := s.text "uniswap-factory"
  veloFactory := s.text "velo-factory"
  loanToken := s.text "loan-token"
  quoteToken := s.text "quote-token"
  loanDecimals := s.int "loan-decimals"
  quoteDecimals := s.int "quote-decimals"
  pools := some (s.textMap "pool")
  minLoan := .ofFloat (s.float "min-loan")
  maxLoan := .ofFloat (s.float "max-loan")
  searchIterations := s.int "search-iterations"
  searchConcurrency := s.int "search-concurrency"
  dynamicCapPercent := s.uint64 "dynamic-cap-percent"
  priceThreshold := .ofFloat (s.float "price-threshold")
  gasBufferPercent := s.uint64 "gas-buffer-percent"
  minGasLimit := s.uint64 "min-gas-limit"
  fallbackGasLimit := s.uint64 "fallback-gas-limit"
  flashLoanFeeBps := s.uint64 "flash-loan-fee-bps"
  gasPriceGwei := .ofFloat (s.float "gas-price-gwei")
  maxPriorityFeeGwei := .ofFloat (s.float "max-priority-fee-gwei")
  fallbackPriorityFeeGwei := .ofFloat (s.float "fallback-priority-fee-gwei")
  minProfitBufferBps := s.uint64 "min-profit-buffer-bps"
  minProfitBufferWei := s.text "min-profit-buffer-wei"
  relayUrls := s.textList "relay"
  fetchTimeout := s.duration "fetch-timeout"
  quoteTimeout := s.duration "quote-timeout"
  receiptTimeout := s.duration "receipt-timeout"
  relayTimeout := s.duration "relay-timeout"
  submitTimeout := s.duration "submit-timeout"
  receiptPollInterval := s.duration "receipt-poll-interval"
  nonceResyncInterval := s.duration "nonce-resync-interval"
  dryRun := s.bool "dry-run"
  batchSize := s.uint64 "batch-size"
  discoveryLookback := s.uint64 "discovery-lookback"
  checkpoint := s.text "checkpoint"
  checkpointEnabled := s.bool "checkpoint-enabled"
  maxRetries := s.int "max-retries"
  retryBackoff := s.duration "retry-backoff"
  healthInterval := s.duration "health-interval"
  dedupSize := s.int "dedup-size"
  out := s.text "out"
  pgDsn := s.text "pg-dsn"
  redisAddr := s.text "redis-addr"
  redisStream := s.text "redis-stream"
  metricsAddr := s.text "metrics-addr"
  logLevel := s.text "log-level"

/-- The extension of a file name: what follows the last `.` of its last component. -/
def extension (name : String) : String :=
  let base := ((name.splitOn "/").getLast?).getD name
  match base.splitOn "." with
  | [_] => ""
  | parts => (parts.getLast?).getD ""

/-- What loading sees: the working directory's entries by name, the environment, and the
flags bound to settings. -/
structure Surroundings where
  entry : String → Except Errno Entry
  env : List (String × String) := []
  flags : List Flag := []

/-- The environment after reading the dotenv file `name`: the file's variables are added where the
environment has none of that name. -/
def withDotenv (s : Surroundings) (name : String) : Except String (List (String × String)) :=
  match s.entry name with
  | .error .noEntry => .ok s.env
  | .error e => .error ("load env file: open " ++ name ++ ": " ++ e.text)
  | .ok .dir => .error ("load env file: read " ++ name ++ ": is a directory")
  | .ok (.file text) =>
    match parseDotenv text with
    | .error e => .error ("load env file: " ++ e)
    | .ok vars => .ok (s.env ++ vars.reverse.filter fun (k, v) =>
        !k.isEmpty && !v.contains '\x00' && !(s.env.any (·.1 == k)))

/-- The configuration file to read: the one named, or the first `config.<ext>` that is a
file; `none` when a search finds nothing. -/
def configFile (s : Surroundings) (named : String) : Option String :=
  if !named.isEmpty then some named
  else (configExtensions.map ("config." ++ ·)).find? fun f =>
    match s.entry f with
    | .ok (.file _) => true
    | _ => false

/-- The settings of the configuration file, with keys in lower case. -/
def readConfigFile (s : Surroundings) (env : List (String × String)) (name : String) :
    Except String (List (String × Value)) :=
  let ext := extension name
  if !configExtensions.contains ext then
    .error ("read config: Unsupported Config Type " ++ Text.quote ext)
  else match s.entry name with
    | .error e => .error ("read config: open " ++ name ++ ": " ++ e.text)
    | .ok .dir => .error ("read config: read " ++ name ++ ": is a directory")
    | .ok (.file text) =>
      match parseConfigText ext env text with
      | .error e => .error ("read config: While parsing config: " ++ e)
      | .ok ms => .ok (lowerMembers ms)

/-- The dotenv file: the one the `env-file` flag names, else `.env`. -/
def envFileOf (flags : List Flag) : String :=
  match flags.find? (·.name == "env-file") with
  | some f =>
    let t := ((f.given.getD f.default).toText)
    if t.isEmpty then ".env" else t
  | none => ".env"

def consulted (flags : List Flag) (named : String) : List String :=
  envFileOf flags :: (if named.isEmpty then configExtensions.map ("config." ++ ·) else [named])

/-- Loads the configuration, with the configuration file `named` (empty to search for one). -/
def load (s : Surroundings) (named : String) : Except String (Config × List (String × String)) := do
  let env ← withDotenv s (envFileOf s.flags)
  let file ← match configFile s named with
    | some name => readConfigFile s env name
    | none => .ok []
  let sources : Sources := { flags := s.flags, env := env, file := file, defaults := defaults }
  return (ofSources sources, env)

end FlashArb.Config
