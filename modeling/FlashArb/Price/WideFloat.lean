import FlashArb.Float.Binary

/-! Wide binary floats, rounded to a fixed number of bits, ties to even. -/
namespace FlashArb

/-- A non-negative binary float; zero has significand 0. -/
structure WideFloat where
  mant : Nat
  exp : Int
deriving Inhabited, BEq

namespace WideFloat

def zero : WideFloat := ⟨0, 0⟩

/-- The rational `num/den` rounded to `p` bits. -/
def ofRat (p : Nat) (num den : Nat) : WideFloat :=
  if num == 0 || den == 0 then zero
  else
    let (m, e) := Binary64.roundRat p none num den
    ⟨m, e⟩

def ofNat (p : Nat) (n : Nat) : WideFloat := ofRat p n 1

def toRat (x : WideFloat) : Nat × Nat :=
  let (a, b) := Binary64.pow2 x.exp
  (x.mant * a, b)

def mul (p : Nat) (x y : WideFloat) : WideFloat :=
  let (a, b) := x.toRat
  let (c, d) := y.toRat
  ofRat p (a * c) (b * d)

def div (p : Nat) (x y : WideFloat) : WideFloat :=
  let (a, b) := x.toRat
  let (c, d) := y.toRat
  if c == 0 then zero else ofRat p (a * d) (b * c)

def toFloat (x : WideFloat) : Float := Binary64.ofDyadic false x.mant x.exp

end WideFloat

end FlashArb
