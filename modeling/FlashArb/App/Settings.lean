import FlashArb.Config.Basic
import FlashArb.Engine.Parse
import FlashArb.Price.Units
import FlashArb.Submit.Fees
import FlashArb.Dex.Fetch
import FlashArb.Log
import FlashArb.Text.Quoted
import FlashArb.Crypto.Secp256k1

/-! What a bot reads off its configuration before it dials anything. -/
namespace FlashArb.App

/-- The addresses a bot is wired with. -/
structure Addresses where
  loan : Address := Address.zero
  quote : Address := Address.zero
  executor : Address := Address.zero
  vault : Address := Address.zero
  quoter : Address := Address.zero
  veloRouter : Address := Address.zero
  factories : List Address := []

def readAddress (raw : String) : Address × List Failure :=
  match parseAddress raw with
  | .ok a => (a, [])
  | .error f => (Address.zero, [f])

/-- The configured addresses and, when some do not read, all their faults together. -/
def Addresses.ofConfig (c : Config) : Addresses × Option Failure :=
  let (loan, e1) := readAddress c.loanToken
  let (quote, e2) := readAddress c.quoteToken
  let (executor, e3) := readAddress c.executor
  let (vault, e4) := readAddress c.balancerVault
  let (quoter, e5) := readAddress c.quoter
  let (veloRouter, e6) := readAddress c.veloRouter
  let (factories, e7) := match parseAddresses ([c.uniswapFactory, c.veloFactory].filter (· != "")) with
    | .ok fs => (fs, [])
    | .error f => ([], [f])
  let faults := e1 ++ e2 ++ e3 ++ e4 ++ e5 ++ e6 ++ e7
  ({ loan, quote, executor, vault, quoter, veloRouter, factories },
    if faults.isEmpty then none else some (Failure.combine faults))

def gwei (amount : Float) : Outcome Int := Units.toBase amount 9

def inSetting {α : Type} (flag : String) : Outcome α → Outcome α
  | .ok a => .ok a
  | .error f => .error (f.wrap flag)

/-- The fee bounds of a configuration, in wei. -/
def feeConfigOf (c : Config) : Outcome FeeConfig := do
  let fixedGasPrice ← if c.gasPriceGwei > 0 then
      some <$> inSetting "gas-price-gwei" (gwei c.gasPriceGwei.toFloat)
    else pure none
  let maxTip ← inSetting "max-priority-fee-gwei" (gwei c.maxPriorityFeeGwei.toFloat)
  let fallbackPriorityFee ← if c.fallbackPriorityFeeGwei > 0 then
      some <$> inSetting "fallback-priority-fee-gwei" (gwei c.fallbackPriorityFeeGwei.toFloat)
    else pure none
  return { fixedGasPrice, maxPriorityFee := some maxTip, fallbackPriorityFee,
           timeoutNs := c.fetchTimeout.toNat }

/-- The decimals of a token: the configured ones modulo 256, or, when negative, read from the
token through the fetcher, whose metadata cache is passed along. -/
def resolveDecimals {m : Type → Type} [Monad m] [LogSink m] (f : Fetcher m) (cache : TokenMetaCache)
    (token : Address) (configured : Int) : m (Outcome Nat × TokenMetaCache) := do
  if configured ≥ 0 then return (.ok (configured.toNat % 256), cache)
  let (known, err, cache) ← f.fetchTokenMeta cache token
  match err with
  | some e => return (.error (e.wrap ("read decimals of " ++ token.checksum)), cache)
  | none => return (.ok known.decimals, cache)

def levelOf (name : String) : Outcome Level :=
  match Level.parse? name <|> Level.parse? name.toLower with
  | some l => .ok l
  | none => .error (Failure.plain ("unrecognized level: " ++ Text.quote name))

/-- The value of a hexadecimal digit. -/
def hexValue? (b : UInt8) : Option Nat :=
  if 48 ≤ b && b ≤ 57 then some (b - 48).toNat
  else if 97 ≤ b && b ≤ 102 then some (b - 87).toNat
  else if 65 ≤ b && b ≤ 70 then some (b - 55).toNat
  else none

/-- The secret key written in hexadecimal. -/
def parseSecretKey (text : String) : Outcome Nat := do
  let hex := (if text.startsWith "0x" then text.drop 2 else text.toSlice).copy
  let bytes := hex.toUTF8.toList
  if let some bad := bytes.find? (fun b => (hexValue? b).isNone) then
    throw (Failure.plain ("invalid hex character " ++ Text.quoteChar (Char.ofNat bad.toNat) ++
      " in private key"))
  if bytes.length % 2 == 1 then throw (Failure.plain "invalid hex data for private key")
  if bytes.length != 64 then throw (Failure.plain "invalid length, need 256 bits")
  let secret := bytes.foldl (fun acc b => acc * 16 + (hexValue? b).getD 0) 0
  if secret ≥ Secp256k1.n then throw (Failure.plain "invalid private key, >=N")
  if secret == 0 then throw (Failure.plain "invalid private key, zero or negative")
  return secret

def parseWei? (text : String) : Option Int :=
  if Config.isDecimalInteger text then
    (if text.startsWith "+" then (text.drop 1).copy else text).toInt?
  else none

end FlashArb.App
