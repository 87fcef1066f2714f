import FlashArb.Time.Rfc3339
import FlashArb.Time.Instant

/-! Clock readings: a Gregorian date, a time of day and a zone. -/
namespace FlashArb.Time

/-- A reading of a clock. -/
structure Reading where
  year : Int
  month : Nat
  day : Nat
  hour : Nat
  minute : Nat
  second : Nat
  nanos : Nat
  /-- Seconds east of UTC. -/
  offset : Int
  /-- The zone's name; empty for a zone known only by its offset. -/
  zone : String

/-- The days from 1970-01-01 to a date; negative before it. -/
def daysFromCivil (y : Int) (m d : Nat) : Int :=
  let y := if m ≤ 2 then y - 1 else y
  let era := y / 400
  let yoe := y - era * 400
  let mp : Int := if m > 2 then m - 3 else m + 9
  let doy := (153 * mp + 2) / 5 + d - 1
  let doe := yoe * 365 + yoe / 4 - yoe / 100 + doy
  era * 146097 + doe - 719468

/-- The date a number of days after 1970-01-01 falls on: year, month and day. -/
def civilFromDays (z : Int) : Int × Nat × Nat :=
  let z := z + 719468
  let era := z / 146097
  let doe := z - era * 146097
  let yoe := (doe - doe / 1460 + doe / 36524 - doe / 146096) / 365
  let doy := doe - (365 * yoe + yoe / 4 - yoe / 100)
  let mp := (5 * doy + 2) / 153
  let d := doy - (153 * mp + 2) / 5 + 1
  let m := if mp < 10 then mp + 3 else mp - 9
  (yoe + era * 400 + (if m ≤ 2 then 1 else 0), m.toNat, d.toNat)

/-- A reading from fields that may overflow: the time of day is carried into the date. -/
def Reading.normalize (r : Reading) : Reading :=
  let extra := r.nanos / 1000000000
  let total := daysFromCivil r.year r.month r.day * 86400 +
    (r.hour * 3600 + r.minute * 60 + r.second + extra : Nat)
  let days := total / 86400
  let secs := (total % 86400).toNat
  let (year, month, day) := civilFromDays days
  { r with year, month, day, hour := secs / 3600, minute := secs / 60 % 60, second := secs % 60,
           nanos := r.nanos % 1000000000 }

def fractionDigits (nanos : Nat) : String :=
  String.ofList ((padded 9 nanos).toList.reverse.dropWhile (· == '0')).reverse

def offsetText (offset : Int) : String :=
  let minutes := offset / 60
  (if minutes < 0 then "-" else "+") ++ padded 2 (minutes.natAbs / 60) ++ padded 2 (minutes.natAbs % 60)

/-- A reading as `2006-01-02 15:04:05.999999999 -0700 MST`. -/
def Reading.render (r : Reading) : String :=
  let year := if r.year < 0 then "-" ++ padded 4 r.year.natAbs else padded 4 r.year.toNat
  let frac := fractionDigits r.nanos
  year ++ "-" ++ padded 2 r.month ++ "-" ++ padded 2 r.day ++ " " ++ padded 2 r.hour ++ ":" ++
    padded 2 r.minute ++ ":" ++ padded 2 r.second ++ (if frac.isEmpty then "" else "." ++ frac) ++
    " " ++ offsetText r.offset ++ " " ++ (if r.zone.isEmpty then offsetText r.offset else r.zone)

end FlashArb.Time
