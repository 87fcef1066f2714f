import FlashArb.Float.Double
import FlashArb.Pool.Kind
import FlashArb.Text.Printable
import FlashArb.Text.Quoted

/-! Every setting the bot runs with, and the check of a configuration before a run. -/
namespace FlashArb

/-- The bot's configuration. -/
structure Config where
  rpcUrl : String := ""
  wsUrl : String := ""
  privateKey : String := ""
  chainId : Nat := 0
  executor : String := ""
  balancerVault : String := ""
  quoter : String := ""
  veloRouter : String := ""
  routers : Option (List (String × String)) := none
  uniswapFactory : String := ""
  veloFactory : String := ""
  loanToken : String := ""
  quoteToken : String := ""
  loanDecimals : Int := 0
  quoteDecimals : Int := 0
  pools : Option (List (String × String)) := none
  minLoan : Double := 0
  maxLoan : Double := 0
  searchIterations : Int := 0
  searchConcurrency : Int := 0
  dynamicCapPercent : Nat := 0
  priceThreshold : Double := 0
  gasBufferPercent : Nat := 0
  minGasLimit : Nat := 0
  fallbackGasLimit : Nat := 0
  flashLoanFeeBps : Nat := 0
  gasPriceGwei : Double := 0
  maxPriorityFeeGwei : Double := 0
  fallbackPriorityFeeGwei : Double := 0
  minProfitBufferBps : Nat := 0
  minProfitBufferWei : String := ""
  relayUrls : Option (List String) := none
  fetchTimeout : Int := 0
  quoteTimeout : Int := 0
  receiptTimeout : Int := 0
  relayTimeout : Int := 0
  submitTimeout : Int := 0
  receiptPollInterval : Int := 0
  nonceResyncInterval : Int := 0
  dryRun : Bool := false
  batchSize : Nat := 0
  discoveryLookback : Nat := 0
  checkpoint : String := ""
  checkpointEnabled : Bool := false
  maxRetries : Int := 0
  retryBackoff : Int := 0
  healthInterval : Int := 0
  dedupSize : Int := 0
  out : String := ""
  pgDsn : String := ""
  redisAddr : String := ""
  redisStream : String := ""
  metricsAddr : String := ""
  logLevel : String := ""

namespace Config

/-- Whether text is an address: 40 hexadecimal digits after an optional `0x` or `0X`. -/
def isHexAddress (s : String) : Bool :=
  let cs := match s.toList with
    | '0' :: x :: r => if x == 'x' || x == 'X' then r else s.toList
    | r => r
  cs.length == 40 && cs.all fun c => c.isDigit || ('a' ≤ c && c ≤ 'f') || ('A' ≤ c && c ≤ 'F')

/-- Whether text is a decimal integer with an optional sign. -/
def isDecimalInteger (s : String) : Bool :=
  let digits := match s.toList with
    | '+' :: r => r
    | '-' :: r => r
    | r => r
  !digits.isEmpty && digits.all Char.isDigit

def equalFold (a b : String) : Bool :=
  a.length == b.length && (a.toList.zip b.toList).all fun (x, y) =>
    Text.lowerChar x == Text.lowerChar y

def requireAddress (name value : String) : List String :=
  if value.isEmpty then [name ++ " is required"]
  else if isHexAddress value then [] else [name ++ " is not an address: " ++ value]

def optionalAddress (name value : String) : List String :=
  if !value.isEmpty && !isHexAddress value then [name ++ " is not an address: " ++ value] else []

/-- Every problem of a configuration, in the order they are checked. -/
def problems (c : Config) : List String :=
  (if c.rpcUrl.isEmpty then ["rpc url is required"] else []) ++
  (if c.privateKey.isEmpty && !c.dryRun then ["private key is required unless dry-run is set"] else []) ++
  requireAddress "executor" c.executor ++
  requireAddress "balancer-vault" c.balancerVault ++
  requireAddress "quoter" c.quoter ++
  requireAddress "velo-router" c.veloRouter ++
  requireAddress "loan-token" c.loanToken ++
  requireAddress "quote-token" c.quoteToken ++
  optionalAddress "uniswap-factory" c.uniswapFactory ++
  optionalAddress "velo-factory" c.veloFactory ++
  (if !c.loanToken.isEmpty && equalFold c.loanToken c.quoteToken then
    ["loan-token and quote-token must differ"] else []) ++
  (c.routers.getD []).flatMap (fun (factory, router) =>
    optionalAddress "routers key" factory ++ optionalAddress "routers value" router) ++
  (if (c.pools.getD []).isEmpty then ["at least one pool is required"] else []) ++
  (c.pools.getD []).flatMap (fun (pool, kind) =>
    optionalAddress "pool" pool ++
      match DexKind.parse kind with
      | .ok _ => []
      | .error f => ["pool " ++ pool ++ ": " ++ f.message]) ++
  (if c.loanDecimals < -1 || c.loanDecimals > 77 then
    ["loan-decimals out of range: " ++ toString c.loanDecimals] else []) ++
  (if c.quoteDecimals < -1 || c.quoteDecimals > 77 then
    ["quote-decimals out of range: " ++ toString c.quoteDecimals] else []) ++
  (if c.minLoan < 0 || c.maxLoan <= 0 || c.minLoan > c.maxLoan then
    ["loan bounds must satisfy 0 <= min-loan <= max-loan, max-loan > 0"] else []) ++
  (if c.searchIterations < 1 then ["search-iterations must be at least 1"] else []) ++
  (if c.searchConcurrency < 1 then ["search-concurrency must be at least 1"] else []) ++
  (if c.dynamicCapPercent == 0 || c.dynamicCapPercent > 100 then
    ["dynamic-cap-percent must be in 1..100"] else []) ++
  (if c.priceThreshold < 0 then ["price-threshold must not be negative"] else []) ++
  (if c.flashLoanFeeBps > 10000 then ["flash-loan-fee-bps must not exceed 10000"] else []) ++
  (if c.gasPriceGwei < 0 || c.maxPriorityFeeGwei < 0 || c.fallbackPriorityFeeGwei < 0 then
    ["gas prices must not be negative"] else []) ++
  (if isDecimalInteger c.minProfitBufferWei then [] else
    ["min-profit-buffer-wei is not an integer: " ++ Text.quote c.minProfitBufferWei]) ++
  (c.relayUrls.getD []).flatMap (fun relay =>
    if (relay.splitOn "://").length > 1 then [] else ["relay url has no scheme: " ++ relay]) ++
  ([("fetch-timeout", c.fetchTimeout), ("quote-timeout", c.quoteTimeout),
    ("receipt-timeout", c.receiptTimeout), ("relay-timeout", c.relayTimeout),
    ("submit-timeout", c.submitTimeout), ("receipt-poll-interval", c.receiptPollInterval)].flatMap
    fun (name, d) => if d ≤ 0 then [name ++ " must be positive"] else []) ++
  (if c.batchSize == 0 then ["batch-size must be greater than zero"] else []) ++
  (if c.dedupSize < 1 then ["dedup-size must be at least 1"] else [])

def validate (c : Config) : List String :=
  (c.problems.map ("invalid config: " ++ ·)).mergeSort fun a b => decide (a ≤ b)

end Config

end FlashArb
