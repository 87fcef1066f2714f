import FlashArb.Time.Rfc3339
import FlashArb.Text.Utf8

/-! Spans of time in nanoseconds, read from and written as text such as `1h30m`, `2.5s` or `-300ms`.
 -/
namespace FlashArb.Time

def unitNanos : List (String × Nat) :=
  [("ns", 1), ("us", 1000), ("µs", 1000), ("μs", 1000), ("ms", 1000000), ("s", 1000000000),
    ("m", 60000000000), ("h", 3600000000000)]

def limit : Nat := 2 ^ 63

/-- Reads leading digits; `none` when the value passes `2^63`. -/
def leadingInt : Bytes → Nat → Option (Nat × Bytes)
  | [], x => some (x, [])
  | c :: rest, x =>
    if isDigitByte c then
      if x > limit / 10 then none
      else
        let y := x * 10 + digitValue c
        if y > limit then none else leadingInt rest y
    else some (x, c :: rest)

/-- Reads the digits of a fraction: the value and its scale, ignoring digits once more would
pass `2^63`. -/
def leadingFraction : Bytes → Nat → Nat → Bool → Nat × Nat × Bytes
  | [], x, scale, _ => (x, scale, [])
  | c :: rest, x, scale, full =>
    if isDigitByte c then
      if full || x > (limit - 1) / 10 then leadingFraction rest x scale true
      else
        let y := x * 10 + digitValue c
        if y > limit then leadingFraction rest x scale true
        else leadingFraction rest y (scale * 10) false
    else (x, scale, c :: rest)

/-- Reads the terms of a duration after its sign, adding them to `total`. -/
def readTerms (orig : String) (fuel : Nat) (s : Bytes) (total : Nat) : Except String Nat :=
  let invalid := Except.error ("time: invalid duration " ++ quoteRaw orig.toUTF8.toList)
  match fuel with
  | 0 => invalid
  | fuel + 1 =>
    match s with
    | [] => .ok total
    | c :: _ =>
      if !(c == 0x2E || isDigitByte c) then invalid
      else
        match leadingInt s 0 with
        | none => invalid
        | some (v, afterInt) =>
          let pre := afterInt.length != s.length
          let (f, scale, afterFrac, post) :=
            match afterInt with
            | 0x2E :: r =>
              let (f, scale, rest) := leadingFraction r 0 1 false
              (f, scale, rest, rest.length != r.length)
            | r => (0, 1, r, false)
          if !pre && !post then invalid
          else
            let unitBytes := afterFrac.takeWhile fun b => !(b == 0x2E || isDigitByte b)
            let rest := afterFrac.drop unitBytes.length
            if unitBytes.isEmpty then
              .error ("time: missing unit in duration " ++ quoteRaw orig.toUTF8.toList)
            else
              match unitNanos.lookup (Text.lossyString unitBytes) with
              | none =>
                .error ("time: unknown unit " ++ quoteRaw unitBytes ++ " in duration " ++
                  quoteRaw orig.toUTF8.toList)
              | some unit =>
                if v > limit / unit then invalid
                else
                  let whole := v * unit
                  let part := if f > 0 then
                    (Float.ofNat f * (Float.ofNat unit / Float.ofNat scale)).toUInt64.toNat else 0
                  let v := whole + part
                  if v > limit then invalid
                  else
                    let total := total + v
                    if total > limit then invalid else readTerms orig fuel rest total

/-- Reads a duration in nanoseconds; the failure reads as the reader reports it. -/
def parseDuration (text : String) : Except String Int :=
  let bytes := text.toUTF8.toList
  let (neg, s) := match bytes with
    | 0x2D :: r => (true, r)
    | 0x2B :: r => (false, r)
    | r => (false, r)
  if s == [0x30] then .ok 0
  else if s.isEmpty then .error ("time: invalid duration " ++ quoteRaw bytes)
  else
    match readTerms text (s.length + 1) s 0 with
    | .error e => .error e
    | .ok d =>
      if neg then .ok (-(d : Int))
      else if d > limit - 1 then .error ("time: invalid duration " ++ quoteRaw bytes)
      else .ok d

def fractionText (v prec : Nat) : String × Nat :=
  let digits := (toString (v % 10 ^ prec + 10 ^ prec)).toList.drop 1
  let trimmed := String.ofList (digits.reverse.dropWhile (· == '0')).reverse
  (if trimmed.isEmpty then "" else "." ++ trimmed, v / 10 ^ prec)

/-- The text of a duration in nanoseconds. -/
def formatDuration (d : Int) : String :=
  let u := d.natAbs
  let sign := if d < 0 then "-" else ""
  if u == 0 then "0s"
  else if u < 1000000000 then
    let (prec, unit) :=
      if u < 1000 then (0, "ns") else if u < 1000000 then (3, "µs") else (6, "ms")
    let (frac, whole) := fractionText u prec
    sign ++ toString whole ++ frac ++ unit
  else
    let (frac, secs) := fractionText u 9
    let mins := secs / 60
    let hours := mins / 60
    let body :=
      if mins == 0 then toString (secs % 60) ++ frac ++ "s"
      else if hours == 0 then toString mins ++ "m" ++ toString (secs % 60) ++ frac ++ "s"
      else toString hours ++ "h" ++ toString (mins % 60) ++ "m" ++ toString (secs % 60) ++ frac ++ "s"
    sign ++ body

end FlashArb.Time
