import FlashArb.Instances

/-! A bounded set of keys that forgets the oldest one when full. -/
namespace FlashArb

/-- Keys seen, newest first, at most `capacity` of them. -/
structure Dedup where
  capacity : Nat
  keys : List String := []
deriving Inhabited

namespace Dedup

def containsOrAdd (d : Dedup) (k : String) : Bool × Dedup :=
  if d.keys.contains k then (true, d)
  else (false, { d with keys := (k :: d.keys).take d.capacity })

def remove (d : Dedup) (k : String) : Dedup := { d with keys := d.keys.erase k }

def size (d : Dedup) : Nat := d.keys.length

end Dedup

end FlashArb
