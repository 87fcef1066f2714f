import FlashArb.Float.Binary

/-! Doubles held by their bits, and how two of them compare. -/
namespace FlashArb

namespace Binary64

def signed (neg : Bool) (m : Nat) : Int := if neg then -(m : Int) else m

/-- How the values of two doubles compare, or `none` when either is NaN. -/
def Kind.compare? : Kind → Kind → Option Ordering
  | .nan, _ => none
  | _, .nan => none
  | .inf n₁, .inf n₂ => some (if n₁ == n₂ then .eq else if n₁ then .lt else .gt)
  | .inf n, .finite .. => some (if n then .lt else .gt)
  | .finite .., .inf n => some (if n then .gt else .lt)
  | .finite n₁ m₁ e₁, .finite n₂ m₂ e₂ =>
    let e := min e₁ e₂
    some (compare (signed n₁ (m₁ * 2 ^ (e₁ - e).toNat)) (signed n₂ (m₂ * 2 ^ (e₂ - e).toNat)))

end Binary64

/-- A double held by its 64 bits. -/
structure Double where
  bits : UInt64
deriving DecidableEq, Inhabited

namespace Double

def kind (x : Double) : Binary64.Kind := Binary64.Kind.ofBits x.bits

def ofFloat (x : Float) : Double := ⟨x.toBits⟩

def toFloat (x : Double) : Float := Float.ofBits x.bits

instance : OfNat Double 0 := ⟨⟨0⟩⟩

instance : LT Double := ⟨fun x y => x.kind.compare? y.kind = some .lt⟩

instance : LE Double := ⟨fun x y => x.kind.compare? y.kind = some .lt ∨ x.kind.compare? y.kind = some .eq⟩

instance (x y : Double) : Decidable (x < y) :=
  inferInstanceAs (Decidable (x.kind.compare? y.kind = some .lt))

instance (x y : Double) : Decidable (x ≤ y) :=
  inferInstanceAs (Decidable (x.kind.compare? y.kind = some .lt ∨ x.kind.compare? y.kind = some .eq))

end Double

end FlashArb
