import FlashArb.Float.Text
import FlashArb.Text.Number
import FlashArb.Time.Duration

/-! Loosely typed settings, as the sources give them. -/
namespace FlashArb.Settings

/-- A setting's value. -/
inductive Value where
  | null
  | bool (b : Bool)
  /-- A machine-word integer. -/
  | int (n : Int)
  /-- A 64-bit integer, as a TOML file gives it. -/
  | int64 (n : Int)
  | uint64 (n : Nat)
  | float (x : Float)
  | text (s : String)
  /-- A span in nanoseconds. -/
  | duration (ns : Int)
  /-- A calendar value of a TOML file, with its text. -/
  | date (shown : String)
  | list (items : List Value)
  /-- A list of text, as a list-valued flag gives it. -/
  | texts (items : List String)
  | map (members : List (String × Value))
deriving Inhabited

def wrap64 (n : Int) : Int :=
  let m := n % (2 ^ 64 : Int)
  if m ≥ 2 ^ 63 then m - 2 ^ 64 else m

/-- A float truncated to a signed 64-bit integer; values beyond that range, and NaN, give the
most negative one. -/
def truncate64 (x : Float) : Int :=
  if x.isNaN || x ≥ 9223372036854775808.0 || x < -9223372036854775808.0 then -(2 ^ 63)
  else
    let a := x.abs.floor
    let n : Int := (Float.toUInt64 a).toNat
    if x < 0 then -n else n

mutual

/-- The general text of a value. -/
def Value.shown : Value → String
  | .null => "<nil>"
  | .bool b => if b then "true" else "false"
  | .int n => toString n
  | .int64 n => toString n
  | .uint64 n => toString n
  | .float x => Binary64.format x
  | .text s => s
  | .duration ns => Time.formatDuration ns
  | .date s => s
  | .list xs => "[" ++ shownItems xs ++ "]"
  | .texts xs => "[" ++ " ".intercalate xs ++ "]"
  | .map ms =>
    let pairs := (shownMembers ms).mergeSort fun a b => decide (a.1 ≤ b.1)
    "map[" ++ " ".intercalate (pairs.map fun (k, v) => k ++ ":" ++ v) ++ "]"

def shownItems : List Value → String
  | [] => ""
  | [x] => x.shown
  | x :: xs => x.shown ++ " " ++ shownItems xs

def shownMembers : List (String × Value) → List (String × String)
  | [] => []
  | (k, v) :: ms => (k, v.shown) :: shownMembers ms

end

/-- Drops a fraction of zeros: `12.00` reads as `12`. -/
def trimZeroFraction (s : String) : String :=
  let cs := s.toList.reverse
  let zeros := cs.takeWhile (· == '0')
  match cs.drop zeros.length with
  | '.' :: rest => if zeros.isEmpty then s else String.ofList rest.reverse
  | _ => s

/-- The text of a value, or `none` when it has none. Floats are written positionally. -/
def Value.toText? : Value → Option String
  | .null => some ""
  | .bool b => some (if b then "true" else "false")
  | .int n | .int64 n => some (toString n)
  | .uint64 n => some (toString n)
  | .float x => some (Binary64.formatPositional x)
  | .text s => some s
  | .duration ns => some (Time.formatDuration ns)
  | .date s => some s
  | .list _ | .texts _ | .map _ => none

def Value.toText (v : Value) : String := v.toText?.getD ""

/-- A machine-word integer. -/
def Value.toInt : Value → Int
  | .int n => n
  | .int64 n => n
  | .uint64 n => wrap64 n
  | .float x => truncate64 x
  | .text s =>
    match Text.parseInt (trimZeroFraction s) 0 64 with
    | .ok n => n
    | .error _ => 0
  | .bool b => if b then 1 else 0
  | _ => 0

/-- An unsigned 64-bit integer; negative values give 0. -/
def Value.toUint64 : Value → Nat
  | .int n | .int64 n => if n < 0 then 0 else n.toNat
  | .uint64 n => n
  | .float x =>
    if x < 0 then 0
    else if x.isNaN || x ≥ 18446744073709551616.0 then 2 ^ 63
    else (Float.toUInt64 x.floor).toNat
  | .text s =>
    match Text.parseInt (trimZeroFraction s) 0 64 with
    | .ok n => if n < 0 then 0 else n.toNat
    | .error _ => 0
  | .bool b => if b then 1 else 0
  | _ => 0

/-- Reads a float as the float reader does: infinities and NaN by name, and no value for text
that overflows. -/
def parseFloat? (s : String) : Option Float :=
  match Binary64.parse? s with
  | some x =>
    if x.isInf then
      let word := String.ofList ((s.toList.dropWhile fun c => c == '+' || c == '-').map Char.toLower)
      if word == "inf" || word == "infinity" then some x else none
    else some x
  | none => none

/-- A float. -/
def Value.toFloat : Value → Float
  | .int n | .int64 n => Float.ofInt n
  | .uint64 n => Float.ofNat n
  | .float x => x
  | .text s => (parseFloat? s).getD 0
  | .bool b => if b then 1 else 0
  | _ => 0

/-- A boolean: text as `1`, `t`, `T`, `TRUE`, `true`, `True` or their false forms, numbers by
whether they are zero. -/
def Value.toBool : Value → Bool
  | .bool b => b
  | .int n | .int64 n => n != 0
  | .uint64 n => n != 0
  | .float x => x != 0
  | .duration ns => ns != 0
  | .text s => ["1", "t", "T", "TRUE", "true", "True"].contains s
  | _ => false

/-- A duration in nanoseconds: numbers count nanoseconds, and text without a unit letter is
read as nanoseconds. -/
def Value.toDuration : Value → Int
  | .duration ns => ns
  | .int n | .int64 n => n
  | .uint64 n => wrap64 n
  | .float x => truncate64 x
  | .text s =>
    let withUnit := s.toList.any fun c => "nsuµmh".toList.contains c
    match Time.parseDuration (if withUnit then s else s ++ "ns") with
    | .ok d => d
    | .error _ => 0
  | _ => 0

end FlashArb.Settings
