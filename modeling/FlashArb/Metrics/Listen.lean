import FlashArb.Log
import FlashArb.Net.HostPort

/-! Before the monitoring endpoint can serve it must listen on its TCP address `host:port`. -/
namespace FlashArb.Metrics

open FlashArb.Net

def servicePorts : List (String × Nat) :=
  [("ftp", 21), ("ftps", 990), ("gopher", 70), ("http", 80), ("https", 443), ("imap2", 143),
    ("imap3", 220), ("imaps", 993), ("pop3", 110), ("pop3s", 995), ("smtp", 25),
    ("submissions", 465), ("telnet", 23)]

/-- Reads decimal digits in 32-bit arithmetic: the value saturates once it reaches `2^30`
or when an addition carries out, and a multiplication by ten wraps around. -/
def portDigits : List Char → Nat → Option Nat
  | [], n => some n
  | c :: cs, n =>
    if c.isDigit then
      if n ≥ 2 ^ 30 then some (2 ^ 32 - 1)
      else
        let m := n * 10 % 2 ^ 32
        let next := (m + (c.toNat - '0'.toNat)) % 2 ^ 32
        if next < m then some (2 ^ 32 - 1) else portDigits cs next
    else none

/-- A numeric port with an optional sign, clamped to `[-2^30, 2^30 - 1]`; `none` when the text
is not numeric and names a service instead. The empty port is 0. -/
def numericPort? (s : String) : Option Int :=
  if s.isEmpty then some 0
  else
    let (neg, digits) := match s.toList with
      | '+' :: r => (false, r)
      | '-' :: r => (true, r)
      | r => (false, r)
    (portDigits digits 0).map fun n =>
      if !neg && n ≥ 2 ^ 30 then 2 ^ 30 - 1
      else if neg && n > 2 ^ 30 then -(2 ^ 30)
      else if neg then -(n : Int) else n

/-- The port of a port text. -/
def lookupPort (s : String) : Except String Nat := do
  let port ← match numericPort? s with
    | some p => pure p
    | none =>
      match servicePorts.lookup (s.map Char.toLower) with
      | some p => pure (p : Int)
      | none => throw ("lookup tcp/" ++ s ++ ": unknown port")
  if port < 0 || port > 65535 then throw (addressError s "invalid port") else return port.toNat

/-- Checks a listening address; the failure reads as the listener reports it. -/
def checkListenAddress (addr : String) : Except String Unit :=
  if addr.isEmpty then .ok ()
  else
    match splitHostPort addr with
    | .error e => .error ("listen tcp: " ++ e)
    | .ok (_, port) =>
      match lookupPort port with
      | .error e => .error ("listen tcp: " ++ e)
      | .ok _ => .ok ()

/-- Runs the endpoint at `addr` for as long as its owner keeps it, logging as it goes; answers
whether it was listening. -/
def serve {m : Type → Type} [Monad m] [LogSink m] (addr : String) : m Bool := do
  if addr.isEmpty then
    Log.info "metrics disabled: empty addr"
    return false
  Log.info "metrics server starting" [Log.text "addr" addr]
  let listening ← match checkListenAddress addr with
    | .ok () => pure true
    | .error e => do
      Log.error "metrics server error" [("error", .str e)]
      pure false
  Log.info "metrics server stopped"
  return listening

end FlashArb.Metrics
