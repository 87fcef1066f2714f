import FlashArb.Pool.Cache
import FlashArb.Route.Json

/-! Pool caches read from and written as JSON. -/
namespace FlashArb

namespace PoolCache

/-- Applies one entry: both parts are stored together, a lone part on its own. -/
def loadEntry (c : PoolCache) (j : Json) : Decode PoolCache := do
  match j.field "state", j.field "snapshot" with
  | .null, .null => return c
  | s, .null => return c.upsertState (← PoolState.ofJson s)
  | .null, p => return c.upsertSnapshot (← PoolSnapshot.ofJson p)
  | s, p => return c.upsert (← PoolState.ofJson s) (← PoolSnapshot.ofJson p)

def ofJson (j : Json) : Decode PoolCache := j.items.foldlM loadEntry empty

def toJson (c : PoolCache) : Json :=
  .arr (c.stateList.map fun s =>
    .obj [("state", s.toJson), ("snapshot", Json.opt PoolSnapshot.toJson (c.getSnapshot? s.address))])

end PoolCache

/-- A partial snapshot update: each key with a value sets its field; a missing or `null` key
leaves the field as it is. -/
def PoolSnapshot.patch (j : Json) (p : PoolSnapshot) : Decode PoolSnapshot := do
  let keep {α : Type} (new : Option α) (old : Option α) : Option α := new.orElse fun _ => old
  return { p with reserve0 := keep (← Field.optInt j "reserve0") p.reserve0,
                  reserve1 := keep (← Field.optInt j "reserve1") p.reserve1,
                  sqrtPrice := keep (← Field.optInt j "sqrt_price_x96") p.sqrtPrice,
                  tick := keep (← Field.optInt j "tick") p.tick,
                  block := keep (← Field.optU64 j "block") p.block }

end FlashArb
