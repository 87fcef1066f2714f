import FlashArb.Text.Quoted
import FlashArb.Bytes

/-! Reading RFC 3339 timestamps field by field. -/
namespace FlashArb.Time

def rfc3339Layout : String := "2006-01-02T15:04:05.999999999Z07:00"

/-- Bytes as a quoted literal in the messages of the timestamp reader. -/
def quoteRaw (b : Bytes) : String :=
  String.ofList ('"' :: b.flatMap (fun c =>
    if c < 0x20 || c ≥ 0x80 then ['\\', 'x'] ++ Text.hexFixed 2 c.toNat
    else if c == 0x22 || c == 0x5C then ['\\', Char.ofNat c.toNat]
    else [Char.ofNat c.toNat]) ++ ['"'])

/-- A reading of the fields of a timestamp. -/
structure Stamp where
  year : Nat
  month : Nat
  day : Nat
  hour : Nat
  minute : Nat
  second : Nat
  nanos : Nat
  /-- Seconds east of UTC. -/
  offset : Int

def isLeap (y : Nat) : Bool := y % 4 == 0 && (y % 100 != 0 || y % 400 == 0)

/-- The number of days of a month. -/
def daysIn (month year : Nat) : Nat :=
  match month with
  | 2 => if isLeap year then 29 else 28
  | 4 | 6 | 9 | 11 => 30
  | _ => 31

def isDigitByte (b : UInt8) : Bool := 0x30 ≤ b && b ≤ 0x39

def digitValue (b : UInt8) : Nat := b.toNat - 0x30

/-- Reads a number of two digits, or of one digit unless `fixed`. -/
def readNumber (fixed : Bool) : Bytes → Option (Nat × Bytes)
  | a :: b :: rest =>
    if !isDigitByte a then none
    else if isDigitByte b then some (digitValue a * 10 + digitValue b, rest)
    else if fixed then none else some (digitValue a, b :: rest)
  | [a] => if isDigitByte a && !fixed then some (digitValue a, []) else none
  | [] => none

/-- How a timestamp failed to be read. -/
inductive Fault where
  /-- The text `rest` at a field does not have the field's form. -/
  | cannot (rest : Bytes) (field : String)
  /-- A field is out of range. -/
  | range (field : String)
  /-- Text follows the zone. -/
  | extra (rest : Bytes)
  /-- The day is not in its month. -/
  | day

/-- The message of a failure to read `text`. -/
def Fault.message (text : Bytes) : Fault → String
  | .cannot rest field =>
    "parsing time " ++ quoteRaw text ++ " as " ++ Text.quote rfc3339Layout ++ ": cannot parse " ++
      quoteRaw rest ++ " as " ++ Text.quote field
  | .range field => "parsing time " ++ quoteRaw text ++ ": " ++ field ++ " out of range"
  | .extra rest => "parsing time " ++ quoteRaw text ++ ": extra text: " ++ quoteRaw rest
  | .day => "parsing time " ++ quoteRaw text ++ ": day out of range"

def expect (sep : UInt8) (field : String) (v : Bytes) : Except Fault Bytes :=
  match v with
  | c :: rest => if c == sep then .ok rest else .error (.cannot v field)
  | [] => .error (.cannot v field)

/-- Reads a number field and checks it is below `bound`. -/
def numberField (fixed : Bool) (field rangeName : String) (bound : Nat) (v : Bytes) :
    Except Fault (Nat × Bytes) :=
  match readNumber fixed v with
  | none => .error (.cannot v field)
  | some (n, rest) => if n < bound then .ok (n, rest) else .error (.range rangeName)

/-- Reads the optional fraction of the second: all its digits are consumed and the first nine
give the nanoseconds. -/
def fraction (v : Bytes) : Nat × Bytes :=
  match v with
  | sep :: d :: _ =>
    if (sep == 0x2E || sep == 0x2C) && isDigitByte d then
      let digits := (v.drop 1).takeWhile isDigitByte
      let kept := digits.take 9
      let value := kept.foldl (fun acc b => acc * 10 + digitValue b) 0
      (value * 10 ^ (9 - kept.length), (v.drop 1).drop digits.length)
    else (0, v)
  | _ => (0, v)

/-- Reads the zone: `Z`, or a sign with two-digit hours and minutes; offsets up to 24 hours and
60 minutes are allowed. -/
def zone (v : Bytes) : Except Fault (Int × Bytes) :=
  match v with
  | 0x5A :: rest => .ok (0, rest)
  | sign :: h1 :: h2 :: colon :: m1 :: m2 :: rest =>
    if colon != 0x3A then .error (.cannot v "Z07:00")
    else
      let hr := readNumber true [h1, h2]
      let mm := if hr.isSome then readNumber true [m1, m2] else none
      let hours := (hr.map (·.1)).getD 0
      let mins := (mm.map (·.1)).getD 0
      if mins > 60 then .error (.range "time zone offset minute")
      else if hours > 24 then .error (.range "time zone offset hour")
      else if hr.isNone || mm.isNone || !(sign == 0x2B || sign == 0x2D) then
        .error (.cannot v "Z07:00")
      else
        let off : Int := ((hours * 60 + mins) * 60 : Nat)
        .ok (if sign == 0x2D then -off else off, rest)
  | _ => .error (.cannot v "Z07:00")

/-- Reads a timestamp's fields, or the first fault. -/
def readStamp (v : Bytes) : Except Fault Stamp := do
  let year ← match v with
    | a :: b :: c :: d :: rest =>
      if [a, b, c, d].all isDigitByte then
        pure ([a, b, c, d].foldl (fun acc x => acc * 10 + digitValue x) 0, rest)
      else throw (.cannot v "2006")
    | _ => throw (.cannot v "2006")
  let (year, v) := year
  let v ← expect 0x2D "-" v
  let (month, v) ← match readNumber true v with
    | none => throw (.cannot v "01")
    | some (m, rest) => if 1 ≤ m && m ≤ 12 then pure (m, rest) else throw (.range "month")
  let v ← expect 0x2D "-" v
  let (day, v) ← match readNumber true v with
    | none => throw (.cannot v "02")
    | some r => pure r
  let v ← expect 0x54 "T" v
  let (hour, v) ← numberField false "15" "hour" 24 v
  let v ← expect 0x3A ":" v
  let (minute, v) ← numberField true "04" "minute" 60 v
  let v ← expect 0x3A ":" v
  let (second, v) ← numberField true "05" "second" 60 v
  let (nanos, v) := fraction v
  let (offset, v) ← zone v
  if !v.isEmpty then throw (.extra v)
  if day < 1 || day > daysIn month year then throw .day
  return ⟨year, month, day, hour, minute, second, nanos, offset⟩

/-- Reads an RFC 3339 timestamp; the failure reads as the reader reports it. -/
def parseRfc3339 (text : String) : Except String Stamp :=
  let v := text.toUTF8.toList
  match readStamp v with
  | .ok s => .ok s
  | .error f => .error (f.message v)

end FlashArb.Time
