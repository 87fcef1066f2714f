import FlashArb.Float.Binary

/-! The shortest decimal that reads back as a given double. -/
namespace FlashArb.Binary64

/-- A decimal `digits·10^exp`. -/
structure Decimal where
  digits : Nat
  exp : Int
deriving Inhabited, BEq

def pow10 (e : Int) : Nat × Nat :=
  if e ≥ 0 then (10 ^ e.toNat, 1) else (1, 10 ^ (-e).toNat)

def atLeastPow10 (num den : Nat) (t : Int) : Bool :=
  let (a, b) := pow10 t
  num * b ≥ den * a

/-- Moves an estimate of `⌊log₁₀ (num/den)⌋` to the exact value, a bounded number of steps. -/
def fixLog10 (num den : Nat) : Nat → Int → Int
  | 0, t => t
  | fuel + 1, t =>
    if atLeastPow10 num den (t + 1) then fixLog10 num den fuel (t + 1)
    else if !atLeastPow10 num den t then fixLog10 num den fuel (t - 1)
    else t

def floorLog10 (num den : Nat) : Int :=
  let l2 := floorLog2 num den
  fixLog10 num den 8 (l2 * 30103 / 100000)

/-- Drops trailing zero digits, raising the exponent. -/
def Decimal.normalize : Nat → Decimal → Decimal
  | 0, d => d
  | fuel + 1, d =>
    if d.digits != 0 && d.digits % 10 == 0 then
      Decimal.normalize fuel ⟨d.digits / 10, d.exp + 1⟩
    else d

def within (strict : Bool) (dist distDen w wDen : Nat) : Bool :=
  if strict then dist * wDen < w * distDen else dist * wDen ≤ w * distDen

/-- The shortest decimal in the rounding interval of the positive double `m·2^e`, or
`none` if no grid of at most 17 digits reaches it (which does not happen). -/
def shortestOf (m : Nat) (e : Int) : Decimal :=
  -- value v = m·2^e = num/den
  let (pa, pb) := pow2 e
  let num := m * pa
  let den := pb
  -- half-gaps to the neighbouring doubles, as fractions of 2^(e-2)
  let hi : Nat := 2
  let lo : Nat := if m == 2 ^ 52 && e > -1074 then 1 else 2
  let (ua, ub) := pow2 (e - 2)
  let strict := m % 2 == 1
  let top := floorLog10 num den
  let rec search : Nat → Nat → Decimal
    | 0, _ => ⟨m, 0⟩
    | fuel + 1, n =>
      let k := top - n + 1
      let (ta, tb) := pow10 k
      -- v / 10^k = (num·tb)/(den·ta)
      let sn := num * tb
      let sd := den * ta
      let dLo := sn / sd
      let dHi := dLo + 1
      -- distances in units of 10^k: (sn - dLo·sd)/sd and (dHi·sd - sn)/sd
      let distLo := sn - dLo * sd
      let distHi := dHi * sd - sn
      -- compare dist·10^k/sd with h·2^(e-2): dist·ta·ub vs h·ua·sd·tb
      let okLo := within strict (distLo * ta * ub) (sd * tb) (lo * ua) 1
      let okHi := within strict (distHi * ta * ub) (sd * tb) (hi * ua) 1
      if okLo && okHi then
        if distLo < distHi then ⟨dLo, k⟩
        else if distHi < distLo then ⟨dHi, k⟩
        else if dLo % 2 == 0 then ⟨dLo, k⟩ else ⟨dHi, k⟩
      else if okLo then ⟨dLo, k⟩
      else if okHi then ⟨dHi, k⟩
      else search fuel (n + 1)
  Decimal.normalize 40 (search 17 1)

def Decimal.digitText (d : Decimal) : String := toString d.digits

end FlashArb.Binary64
