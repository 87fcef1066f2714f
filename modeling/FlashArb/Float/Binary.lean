import FlashArb.Instances

/-! Doubles by their bits. -/
namespace FlashArb.Binary64

/-- What a double is: a finite value `±mant·2^exp`, an infinity or not a number. -/
inductive Kind where
  | finite (neg : Bool) (mant : Nat) (exp : Int)
  | inf (neg : Bool)
  | nan
deriving DecidableEq

/-- Reads the sign, exponent field and fraction of a double's 64 bits. -/
def Kind.ofBits (bits : UInt64) : Kind :=
  let b := bits.toNat
  let neg : Bool := b / 2 ^ 63 == 1
  let be : Nat := (b / 2 ^ 52) % 2048
  let frac : Nat := b % 2 ^ 52
  if be == 2047 then (if frac == 0 then .inf neg else .nan)
  else if be == 0 then .finite neg frac (-1074)
  else .finite neg (frac + 2 ^ 52) ((be : Int) - 1075)

def classify (x : Float) : Kind := Kind.ofBits x.toBits

def ofSignBits (neg : Bool) (v : Nat) : Float :=
  Float.ofBits (UInt64.ofNat (v + if neg then 2 ^ 63 else 0))

def infinity (neg : Bool) : Float := ofSignBits neg (2047 * 2 ^ 52)

def zero (neg : Bool) : Float := ofSignBits neg 0

def pow2 (e : Int) : Nat × Nat :=
  if e ≥ 0 then (2 ^ e.toNat, 1) else (1, 2 ^ (-e).toNat)

def floorLog2 (num den : Nat) : Int :=
  let k : Int := (num.log2 : Int) - den.log2
  if k ≥ 0 then (if num ≥ den * 2 ^ k.toNat then k else k - 1)
  else (if num * 2 ^ (-k).toNat ≥ den then k else k - 1)

/-- `num·2^(-e)/den` rounded to the nearest integer, a tie going to the even one. -/
def roundScaled (num den : Nat) (e : Int) : Nat :=
  let (a, b) := pow2 e
  let n := num * b
  let d := den * a
  let q := n / d
  let r := n % d
  if 2 * r > d || (2 * r == d && q % 2 == 1) then q + 1 else q

/-- The positive rational `num/den` rounded to `p` significant bits, its last bit no finer
than `2^lo` when `lo` is given: the result `(m, e)` stands for `m·2^e` with `m < 2^p`. -/
def roundRat (p : Nat) (lo : Option Int) (num den : Nat) : Nat × Int :=
  let e0 := floorLog2 num den - (p - 1 : Nat)
  let e := match lo with
    | some l => max e0 l
    | none => e0
  let m := roundScaled num den e
  if m == 2 ^ p then (2 ^ (p - 1), e + 1) else (m, e)

/-- The double nearest to `±num/den`, ties to even; beyond the largest double it is an
infinity, below half the smallest subnormal it is a zero of the same sign. -/
def ofRat (neg : Bool) (num den : Nat) : Float :=
  if num == 0 || den == 0 then zero neg
  else
    let (m, e) := roundRat 53 (some (-1074)) num den
    if m < 2 ^ 52 then ofSignBits neg m
    else
      let be := e + 1075
      if be ≥ 2047 then infinity neg
      else ofSignBits neg (be.toNat * 2 ^ 52 + (m - 2 ^ 52))

def ofInt (n : Int) : Float := ofRat (n < 0) n.natAbs 1

def ofDyadic (neg : Bool) (mant : Nat) (exp : Int) : Float :=
  let (a, b) := pow2 exp
  ofRat neg (mant * a) b

end FlashArb.Binary64
