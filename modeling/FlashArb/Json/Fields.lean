import FlashArb.Json.Value
import FlashArb.Chain.Address
import FlashArb.Float.Text
import FlashArb.Pool.Kind

/-! Reading typed fields of JSON objects. -/
namespace FlashArb

/-- A reading of a field, or why it cannot be read. -/
abbrev Decode (α : Type) := Except String α

namespace Field

/-- The integer written by decimal digits with an optional minus, or by hexadecimal digits
after `0x`. -/
def intOfText? (s : String) : Option Int :=
  let (neg, cs) := match s.toList with
    | '-' :: r => (true, r)
    | r => (false, r)
  let mag? : Option Nat :=
    match cs with
    | '0' :: x :: r =>
      if x == 'x' || x == 'X' then
        if r.isEmpty then none
        else r.foldl (fun acc c => acc.bind fun n => (Bytes.hexValue? c).map (n * 16 + ·)) (some 0)
      else if cs.all Char.isDigit then some (String.ofList cs).toNat! else none
    | _ => if !cs.isEmpty && cs.all Char.isDigit then some (String.ofList cs).toNat! else none
  mag?.map fun n => if neg then -(n : Int) else n

def toInt? : Json → Option Int
  | .num t => intOfText? t
  | .str s => intOfText? s
  | _ => none

/-- A field holding an integer, absent when missing or `null`. -/
def optInt (j : Json) (k : String) : Decode (Option Int) :=
  match j.field k with
  | .null => .ok none
  | v => match toInt? v with
    | some n => .ok (some n)
    | none => .error ("field " ++ k ++ " is not an integer")

def int (j : Json) (k : String) : Decode Int := do
  return (← optInt j k).getD 0

def natBelow (bound : Nat) (j : Json) (k : String) : Decode Nat := do
  let v ← int j k
  if v < 0 || v ≥ bound then throw ("field " ++ k ++ " is out of range") else return v.toNat

def u64 (j : Json) (k : String) : Decode Nat := natBelow (2 ^ 64) j k

def decimals (j : Json) (k : String) : Decode Nat := natBelow 256 j k

def optU64 (j : Json) (k : String) : Decode (Option Nat) := do
  match ← optInt j k with
  | none => return none
  | some v => if v < 0 || v ≥ 2 ^ 64 then throw ("field " ++ k ++ " is out of range") else return some v.toNat

/-- A float written as a number or as literal text; 0 when absent. -/
def float (j : Json) (k : String) : Decode Float :=
  match j.field k with
  | .null => .ok 0
  | .num t => match Binary64.parse? t with
    | some f => .ok f
    | none => .error ("field " ++ k ++ " is not a number")
  | .str s => match Binary64.parse? s with
    | some f => .ok f
    | none => .error ("field " ++ k ++ " is not a number")
  | _ => .error ("field " ++ k ++ " is not a number")

/-- A boolean field, false when absent. -/
def bool (j : Json) (k : String) : Decode Bool :=
  match j.field k with
  | .null => .ok false
  | .bool b => .ok b
  | _ => .error ("field " ++ k ++ " is not a boolean")

/-- A boolean field that may be absent. -/
def optBool (j : Json) (k : String) : Decode (Option Bool) :=
  match j.field k with
  | .null => .ok none
  | .bool b => .ok (some b)
  | _ => .error ("field " ++ k ++ " is not a boolean")

/-- A string field, empty when absent. -/
def string (j : Json) (k : String) : Decode String :=
  match j.field k with
  | .null => .ok ""
  | .str s => .ok s
  | _ => .error ("field " ++ k ++ " is not a string")

/-- A string field that may be absent. -/
def optString (j : Json) (k : String) : Decode (Option String) :=
  match j.field k with
  | .null => .ok none
  | .str s => .ok (some s)
  | _ => .error ("field " ++ k ++ " is not a string")

/-- An address from text: the zero address for the empty text. -/
def addressOfText (k s : String) : Decode Address :=
  if s.isEmpty then .ok Address.zero
  else match Address.ofHex? s with
    | some a => .ok a
    | none => .error ("field " ++ k ++ " is not an address")

def address (j : Json) (k : String) : Decode Address := do
  addressOfText k (← string j k)

def addresses (j : Json) (k : String) : Decode (List Address) :=
  (j.field k).items.mapM fun v => match v with
    | .str s => addressOfText k s
    | _ => .error ("field " ++ k ++ " holds a non-address")

/-- Bytes from hexadecimal text with an optional `0x`. -/
def bytes (j : Json) (k : String) : Decode Bytes := do
  let s ← string j k
  match Bytes.ofHex? s with
  | some b => return b
  | none => throw ("field " ++ k ++ " is not hexadecimal")

def hashOfText (k s : String) : Decode Hash :=
  match Bytes.ofHex? s with
  | some b => if b.length ≤ 32 then .ok (Hash.ofBytes b) else .error ("field " ++ k ++ " is too long")
  | none => .error ("field " ++ k ++ " is not hexadecimal")

def hash (j : Json) (k : String) : Decode Hash := do
  hashOfText k (← string j k)

/-- A dex kind by canonical name or numeric code. -/
def dexKind (j : Json) (k : String) : Decode DexKind :=
  match j.field k with
  | .null => .ok .unknown
  | .str "unknown" => .ok .unknown
  | .str "univ3" => .ok .concentrated
  | .str "volatile" => .ok .volatile
  | .str "stable" => .ok .stable
  | .num t => match intOfText? t with
    | some n => if 0 ≤ n && n < 256 then .ok (DexKind.ofCode n.toNat) else .error ("field " ++ k ++ " is out of range")
    | none => .error ("field " ++ k ++ " is not a kind")
  | _ => .error ("field " ++ k ++ " is not a kind")

end Field

namespace Json

def intText (n : Int) : Json := .str (toString n)

def optIntText (n : Option Int) : Json := opt intText n

def floatText (x : Float) : Json := .str (Binary64.format x)

def addr (a : Address) : Json := .str a.checksum

end Json

end FlashArb
