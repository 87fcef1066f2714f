import FlashArb.Float.Shortest
import FlashArb.Text.Number

/-! Text of doubles. -/
namespace FlashArb.Binary64

/-- Where positional notation ends and how an exponent is written. -/
structure Layout where
  /-- Exponent form when the decimal exponent is below this. -/
  sciBelow : Int
  /-- Exponent form when the decimal exponent is at least this. -/
  sciFrom : Int
  /-- Least number of exponent digits. -/
  expDigits : Nat

def Layout.general : Layout := ⟨-4, 6, 2⟩

def Layout.document : Layout := ⟨-6, 21, 1⟩

def Layout.positional : Layout := ⟨-100000, 100000, 1⟩

def padLeft (w : Nat) (s : String) : String :=
  String.ofList (List.replicate (w - s.length) '0') ++ s

/-- The text of a positive decimal in a layout. -/
def Decimal.render (l : Layout) (d : Decimal) : String :=
  let ds := d.digitText
  let nd := ds.length
  -- the value is 0.ds × 10^dp
  let dp : Int := nd + d.exp
  let x := dp - 1
  if x < l.sciBelow || x ≥ l.sciFrom then
    let mant :=
      if nd ≤ 1 then ds else String.ofList (ds.toList.take 1) ++ "." ++ String.ofList (ds.toList.drop 1)
    let sign := if x < 0 then "-" else "+"
    mant ++ "e" ++ sign ++ padLeft l.expDigits (toString x.natAbs)
  else if dp ≤ 0 then
    "0." ++ String.ofList (List.replicate (-dp).toNat '0') ++ ds
  else if dp ≥ nd then
    ds ++ String.ofList (List.replicate (dp.toNat - nd) '0')
  else
    String.ofList (ds.toList.take dp.toNat) ++ "." ++ String.ofList (ds.toList.drop dp.toNat)

def formatFinite (l : Layout) (neg : Bool) (m : Nat) (e : Int) : String :=
  let body := if m == 0 then "0" else (shortestOf m e).render l
  if neg then "-" ++ body else body

/-- The general text of a double: shortest digits, `+Inf`, `-Inf` and `NaN`. -/
def format (x : Float) : String :=
  match classify x with
  | .finite neg m e => formatFinite Layout.general neg m e
  | .inf neg => if neg then "-Inf" else "+Inf"
  | .nan => "NaN"

/-- The positional text of a double with its shortest digits. -/
def formatPositional (x : Float) : String :=
  match classify x with
  | .finite neg m e => formatFinite Layout.positional neg m e
  | .inf neg => if neg then "-Inf" else "+Inf"
  | .nan => "NaN"

def formatDocument? (x : Float) : Option String :=
  match classify x with
  | .finite neg m e => some (formatFinite Layout.document neg m e)
  | _ => none

/-- Digits of a number in base `b`, most significant first, with `_` between digits when
`sep` allows it; returns the value, the digit count and the rest. -/
def readDigits (b : Nat) (sep : Bool) : List Char → Nat → Nat → Nat × Nat × List Char
  | [], v, n => (v, n, [])
  | c :: cs, v, n =>
    if sep && c == '_' then readDigits b sep cs v n
    else
      let d? : Option Nat :=
        if c.isDigit then some (c.toNat - 48)
        else if 'a' ≤ c && c ≤ 'f' then some (c.toNat - 87)
        else if 'A' ≤ c && c ≤ 'F' then some (c.toNat - 55)
        else none
      match d? with
      | some d => if d < b then readDigits b sep cs (v * b + d) (n + 1) else (v, n, c :: cs)
      | none => (v, n, c :: cs)

/-- An optionally signed exponent. -/
def readExponent (cs : List Char) : Option (Int × List Char) :=
  let (neg, rest) :=
    match cs with
    | '+' :: r => (false, r)
    | '-' :: r => (true, r)
    | r => (false, r)
  let (v, n, rest') := readDigits 10 true rest 0 0
  if n == 0 then none else some (if neg then -(v : Int) else v, rest')

/-- The magnitude of a decimal significand with an exponent, rounded to a double; very
long exponents are cut to a value that still gives zero or an infinity. -/
def ofDecimalParts (neg : Bool) (mant : Nat) (exp : Int) : Float :=
  if mant == 0 then zero neg
  else
    let digits : Int := (toString mant).length
    if digits + exp > 400 then infinity neg
    else if digits + exp < -400 then zero neg
    else
      let (a, b) := pow10 exp
      ofRat neg (mant * a) b

/-- Reads a decimal literal without sign: digits, an optional fraction, an optional exponent. -/
def readDecimal (neg : Bool) (cs : List Char) : Option Float :=
  let (ip, ni, rest) := readDigits 10 true cs 0 0
  let (fp, nf, rest) :=
    match rest with
    | '.' :: r => readDigits 10 true r 0 0
    | r => (0, 0, r)
  if ni + nf == 0 then none
  else
    let mant := ip * 10 ^ nf + fp
    match rest with
    | [] => some (ofDecimalParts neg mant (-(nf : Int)))
    | c :: r =>
      if c == 'e' || c == 'E' then
        match readExponent r with
        | some (x, []) => some (ofDecimalParts neg mant (x - nf))
        | _ => none
      else none

/-- Reads a hexadecimal literal after its `0x`: hex digits, an optional fraction and a
mandatory binary exponent. -/
def readHex (neg : Bool) (cs : List Char) : Option Float :=
  let (ip, ni, rest) := readDigits 16 true cs 0 0
  let (fp, nf, rest) :=
    match rest with
    | '.' :: r => readDigits 16 true r 0 0
    | r => (0, 0, r)
  if ni + nf == 0 then none
  else
    let mant := ip * 16 ^ nf + fp
    match rest with
    | c :: r =>
      if c == 'p' || c == 'P' then
        match readExponent r with
        | some (x, []) =>
          if mant == 0 then some (zero neg)
          else if x > 5000 then some (infinity neg)
          else if x < -5000 then some (zero neg)
          else some (ofDyadic neg mant (x - 4 * (nf : Int)))
        | _ => none
      else none
    | [] => none

/-- Reads a floating-point literal: an optional sign, then `inf`, `infinity` or `nan` in any case, a
decimal literal, or a hexadecimal one. -/
def parse? (s : String) : Option Float :=
  if s.contains '_' && !Text.underscoresOk s then none else
  let cs := s.toList
  let (neg, rest) :=
    match cs with
    | '+' :: r => (false, r)
    | '-' :: r => (true, r)
    | r => (false, r)
  let word := String.ofList (rest.map Char.toLower)
  if word == "inf" || word == "infinity" then some (infinity neg)
  else if word == "nan" then (if rest.length == cs.length then some (0.0 / 0.0) else none)
  else
    match rest with
    | '0' :: x :: r => if x == 'x' || x == 'X' then readHex neg r else readDecimal neg rest
    | _ => readDecimal neg rest

/-- Reads a floating-point literal as `parse?` does, failing as the reader does on bad syntax or
range. -/
def parseChecked (s : String) : Except String Float :=
  match parse? s with
  | none => .error (Text.numberError "ParseFloat" s "invalid syntax")
  | some x =>
    if x.isInf then
      let word := String.ofList ((s.toList.dropWhile fun c => c == '+' || c == '-').map Char.toLower)
      if word == "inf" || word == "infinity" then .ok x
      else .error (Text.numberError "ParseFloat" s "value out of range")
    else .ok x

end FlashArb.Binary64
