import FlashArb.Chain.AddressMap
import FlashArb.Pool.State

/-! The latest known metadata and snapshot of every watched pool, keyed by pool address. -/
namespace FlashArb

/-- One stripe of the cache: metadata and snapshots by pool address. -/
structure PoolShard where
  states : AddressMap PoolState := {}
  snapshots : AddressMap PoolSnapshot := {}

/-- Pool metadata and snapshots in sixteen stripes. -/
structure PoolCache where
  shards : Vector PoolShard 16 := Vector.replicate 16 {}

def shardOf (pool : Address) : Fin 16 := ⟨pool.toNat % 256 % 16, by omega⟩

namespace PoolCache

def empty : PoolCache := {}

def shard (c : PoolCache) (pool : Address) : PoolShard := c.shards[shardOf pool]

def modifyShard (c : PoolCache) (i : Fin 16) (f : PoolShard → PoolShard) : PoolCache :=
  ⟨c.shards.set i (f c.shards[i])⟩

def getState? (c : PoolCache) (pool : Address) : Option PoolState := (c.shard pool).states.get? pool

def getSnapshot? (c : PoolCache) (pool : Address) : Option PoolSnapshot :=
  (c.shard pool).snapshots.get? pool

def upsertState (c : PoolCache) (s : PoolState) : PoolCache :=
  c.modifyShard (shardOf s.address) fun sh => { sh with states := sh.states.insert s.address s }

def upsertSnapshot (c : PoolCache) (p : PoolSnapshot) : PoolCache :=
  c.modifyShard (shardOf p.address) fun sh => { sh with snapshots := sh.snapshots.insert p.address p }

def upsert (c : PoolCache) (s : PoolState) (p : PoolSnapshot) : PoolCache :=
  c.modifyShard (shardOf s.address) fun sh =>
    { states := sh.states.insert s.address s, snapshots := sh.snapshots.insert s.address p }

def updateSnapshot? (c : PoolCache) (pool : Address) (f : PoolSnapshot → PoolSnapshot) :
    Option PoolCache :=
  (c.getSnapshot? pool).map fun p =>
    c.modifyShard (shardOf pool) fun sh => { sh with snapshots := sh.snapshots.insert pool (f p) }

/-- Applies `f` to the stored snapshot of `pool`, telling whether there was one; without a
snapshot nothing changes. -/
def updateSnapshot (c : PoolCache) (pool : Address) (f : PoolSnapshot → PoolSnapshot) :
    Bool × PoolCache :=
  match c.updateSnapshot? pool f with
  | some c' => (true, c')
  | none => (false, c)

def has (c : PoolCache) (pool : Address) : Bool := (c.getState? pool).isSome

def size (c : PoolCache) : Nat := (c.shards.toList.map (·.states.size)).sum

def stateList (c : PoolCache) : List PoolState :=
  (c.shards.toList.flatMap (·.states.values)).mergeSort fun a b => decide (a.address.toNat ≤ b.address.toNat)

def addresses (c : PoolCache) : List Address := c.stateList.map (·.address)

end PoolCache

end FlashArb
