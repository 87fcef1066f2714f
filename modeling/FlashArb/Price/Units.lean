import FlashArb.Float.Text
import FlashArb.Failure

/-! Token amounts between human units and base units. -/
namespace FlashArb.Units

def roundHalfUp (n : Nat) (k : Nat) : Nat :=
  let d := 10 ^ k
  let q := n / d
  if 2 * (n % d) ≥ d then q + 1 else q

/-- The base units of a non-negative human amount with `decimals` places, from the parts of
the double that holds it. -/
def baseOfKind (amount : Binary64.Kind) (decimals : Nat) : Outcome Int :=
  match amount with
  | .nan | .inf _ => .error ⟨"conversion error: non-finite amount", [.conversion]⟩
  | .finite neg m e =>
    if m == 0 then .ok 0
    else if neg then
      .error ⟨"conversion error: negative amount " ++
        Binary64.formatFinite .general neg m e, [.conversion]⟩
    else
      let d := Binary64.shortestOf m e
      let shift := d.exp + decimals
      if shift ≥ 0 then .ok (d.digits * 10 ^ shift.toNat)
      else .ok (roundHalfUp d.digits (-shift).toNat)

def toBase (amount : Float) (decimals : Nat) : Outcome Int :=
  baseOfKind (Binary64.classify amount) decimals

def toHuman (value : Option Int) (decimals : Nat) : Float :=
  match value with
  | none => 0
  | some v => Binary64.ofRat (v < 0) v.natAbs (10 ^ decimals)

def digitsAtLeast (w : Nat) (n : Nat) : String :=
  let s := toString n
  String.ofList (List.replicate (w - s.length) '0') ++ s

/-- The exact decimal text of base units: the point `decimals` places from the right, no
trailing zeros after it and no point when nothing follows. No value is `0`. -/
def format (value : Option Int) (decimals : Nat) : String :=
  match value with
  | none => "0"
  | some v =>
    let sign := if v < 0 then "-" else ""
    let s := toString v.natAbs
    if decimals == 0 then sign ++ s
    else
      let padded := digitsAtLeast (decimals + 1) v.natAbs
      let cut := padded.length - decimals
      let intPart := String.ofList (padded.toList.take cut)
      let frac := (padded.toList.drop cut).reverse.dropWhile (· == '0') |>.reverse
      let body := if frac.isEmpty then intPart else intPart ++ "." ++ String.ofList frac
      -- a zero is written without sign
      if v == 0 then body else sign ++ body

end FlashArb.Units
