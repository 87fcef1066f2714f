import FlashArb.Dex.Events
import FlashArb.Json.Fields

/-! A log is `{address, topics, data, block, tx_hash, index, removed}`. -/
namespace FlashArb

namespace EventLog

def ofJson (j : Json) : Decode EventLog := do
  let topics ← (j.field "topics").items.mapM fun v => match v with
    | .str s => Field.hashOfText "topics" s
    | _ => throw "field topics holds a non-hash"
  return { address := ← Field.address j "address", topics, data := ← Field.bytes j "data",
           block := (← Field.u64 j "block").toUInt64, txHash := ← Field.hash j "tx_hash",
           index := ← Field.natBelow (2 ^ 64) j "index", removed := ← Field.bool j "removed" }

def toJson (l : EventLog) : Json :=
  .obj [("address", Json.addr l.address), ("topics", .arr (l.topics.map fun t => .str t.hex)),
    ("data", .str (Bytes.toHex0x l.data)), ("block", Json.intText l.block.toNat),
    ("tx_hash", .str l.txHash.hex), ("index", Json.ofNat l.index), ("removed", .bool l.removed)]

end EventLog

def PoolEvent.toJson (e : PoolEvent) : Json :=
  let base : List (String × Json) :=
    [("kind", .str e.body.kindName), ("pool", Json.addr e.pool),
      ("block", Json.intText e.block.toNat), ("tx_hash", .str e.txHash.hex),
      ("log_index", Json.ofNat e.logIndex)]
  let (sqrtPrice, tick, r0, r1) : Json × Json × Json × Json := match e.body with
    | .concentratedSwap p t => (Json.intText p, Json.ofInt t, .null, .null)
    | .sync a b => (.null, Json.ofInt 0, Json.intText a, Json.intText b)
    | _ => (.null, Json.ofInt 0, .null, .null)
  let (factory, kind, t0, t1, fee, stable) := match e.body with
    | .poolCreated f k a b fee st =>
      (f, k, a, b, Json.opt (fun (x : UInt32) => Json.ofNat x.toNat) fee, Json.opt .bool st)
    | _ => (Address.zero, DexKind.unknown, Address.zero, Address.zero, Json.null, Json.null)
  .obj (base ++ [("sqrt_price_x96", sqrtPrice), ("tick", tick), ("reserve0", r0), ("reserve1", r1),
    ("factory", Json.addr factory), ("dex_kind", .str kind.name), ("token0", Json.addr t0),
    ("token1", Json.addr t1), ("fee", fee), ("stable", stable)])

end FlashArb
