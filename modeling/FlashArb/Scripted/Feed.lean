import FlashArb.Engine.Core
import FlashArb.Scripted.Replay
import FlashArb.Dex.Events.Json

/-! The chain's logs as a script. -/
namespace FlashArb.Scripted

/-- A recorded range query: its blocks and how many addresses and topics it named. -/
structure FilterCall where
  first : UInt64
  last : UInt64
  addresses : Nat
  topics : Nat

/-- The scripted feed and what it has served. -/
structure LogFeed where
  heads : Replay UInt64 := {}
  headError : Option String := none
  logs : List EventLog := []
  streams : List (List EventLog) := []
  filterErrors : List (UInt64 × String) := []
  filterCalls : List FilterCall := []
  subscriptions : List (List Address) := []

namespace LogFeed

/-- The head block. -/
def latestBlock (f : LogFeed) : Outcome UInt64 × LogFeed :=
  match f.headError with
  | some msg => (.error (Failure.plain msg), f)
  | none =>
    let (h, heads) := f.heads.next
    match h with
    | some h => (.ok h, { f with heads })
    | none => (.error (Failure.plain "no head"), f)

/-- The logs of `addresses` with a first topic among `topics`, in `[first, last]`. -/
def filterLogs (f : LogFeed) (first last : UInt64) (addresses : List Address) (topics : List Hash) :
    Outcome (List EventLog) × LogFeed :=
  let f := { f with filterCalls := f.filterCalls ++ [⟨first, last, addresses.length, topics.length⟩] }
  match f.filterErrors.lookup first with
  | some msg => (.error (Failure.plain msg), f)
  | none =>
    (.ok (f.logs.filter fun l => addresses.contains l.address && first ≤ l.block && l.block ≤ last &&
      match l.topics.head? with
      | some t => topics.contains t
      | none => false), f)

/-- Hands out the next stream. -/
def subscribe (f : LogFeed) (addresses : List Address) : Outcome Subscription × LogFeed :=
  let used := f.subscriptions.length
  let f := { f with subscriptions := f.subscriptions ++ [addresses] }
  match f.streams[used]? with
  | some logs => (.ok ⟨logs, Failure.plain "stream ended"⟩, f)
  | none => (.error (Failure.plain "no more subscriptions"), f)

end LogFeed

def LogFeed.ofJson (j : Json) : Decode LogFeed := do
  let heads ← (j.field "heads").items.mapM fun v => do
    match Field.toInt? v with
    | some n => if 0 ≤ n && n < 2 ^ 64 then pure n.toNat.toUInt64 else throw "head out of range"
    | none => throw "head is not a number"
  let filterErrors ← (j.field "filter_errors").members.mapM fun (k, v) => do
    match k.toNat?, v with
    | some n, .str msg => pure (n.toUInt64, msg)
    | _, _ => throw "bad filter error"
  return { heads := { answers := heads }, headError := ← Field.optString j "head_error",
           logs := ← (j.field "logs").items.mapM EventLog.ofJson,
           streams := ← (j.field "streams").items.mapM fun s => s.items.mapM EventLog.ofJson,
           filterErrors }

end FlashArb.Scripted
