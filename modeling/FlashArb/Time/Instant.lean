import FlashArb.Instances

/-! Instants in nanoseconds since the epoch, and their RFC 3339 text. -/
namespace FlashArb.Time

/-- The civil date `(year, month, day)` of a count of days since 1970-01-01, by the era
arithmetic of the proleptic Gregorian calendar (eras of 400 years, years from March). -/
def civilOfDays (days : Nat) : Nat × Nat × Nat :=
  let z := days + 719468
  let era := z / 146097
  let doe := z - era * 146097
  let yoe := (doe - doe / 1460 + doe / 36524 - doe / 146096) / 365
  let doy := doe - (365 * yoe + yoe / 4 - yoe / 100)
  let mp := (5 * doy + 2) / 153
  let day := doy - (153 * mp + 2) / 5 + 1
  let month := if mp < 10 then mp + 3 else mp - 9
  let year := yoe + era * 400 + (if month ≤ 2 then 1 else 0)
  (year, month, day)

def padded (w n : Nat) : String :=
  let s := toString n
  String.ofList (List.replicate (w - s.length) '0') ++ s

/-- The RFC 3339 text of an instant in UTC, with the nanoseconds trimmed of trailing zeros. -/
def rfc3339Nano (ns : Nat) : String :=
  let secs := ns / 1000000000
  let frac := ns % 1000000000
  let (y, mo, d) := civilOfDays (secs / 86400)
  let sod := secs % 86400
  let fracText :=
    if frac == 0 then ""
    else "." ++ String.ofList ((padded 9 frac).toList.reverse.dropWhile (· == '0')).reverse
  padded 4 y ++ "-" ++ padded 2 mo ++ "-" ++ padded 2 d ++ "T" ++ padded 2 (sod / 3600) ++ ":" ++
    padded 2 (sod % 3600 / 60) ++ ":" ++ padded 2 (sod % 60) ++ fracText ++ "Z"

end FlashArb.Time
