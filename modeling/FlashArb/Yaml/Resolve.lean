import FlashArb.Yaml.Datum
import FlashArb.Text.Number
import FlashArb.Time.Rfc3339

/-! A scalar's text is read by its tag. -/
namespace FlashArb.Yaml

def longTagPrefix : String := "tag:yaml.org,2002:"

def shortTag (tag : String) : String :=
  if tag.startsWith longTagPrefix then "!!" ++ (tag.drop longTagPrefix.length).toString else tag

/-- The tag of null. -/
def nullTag : String := "!!null"
/-- The tag of booleans. -/
def boolTag : String := "!!bool"
/-- The tag of text. -/
def strTag : String := "!!str"
/-- The tag of integers. -/
def intTag : String := "!!int"
/-- The tag of floats. -/
def floatTag : String := "!!float"
/-- The tag of timestamps. -/
def timestampTag : String := "!!timestamp"
/-- The tag of sequences. -/
def seqTag : String := "!!seq"
/-- The tag of mappings. -/
def mapTag : String := "!!map"
def binaryTag : String := "!!binary"
def mergeTag : String := "!!merge"

def isResolvable (tag : String) : Bool :=
  tag == "" || tag == strTag || tag == boolTag || tag == intTag || tag == floatTag ||
    tag == timestampTag || tag == nullTag

/-- Whether text matches the float syntax: a sign, digits with an optional fraction (or a
fraction alone), and an optional exponent. -/
def isFloatSyntax (s : String) : Bool :=
  let cs := match s.toList with
    | '+' :: r => r
    | '-' :: r => r
    | r => r
  let intPart := cs.takeWhile Char.isDigit
  let cs := cs.drop intPart.length
  let (ok, cs) : Bool × List Char :=
    match cs with
    | '.' :: r =>
      let frac := r.takeWhile Char.isDigit
      (!intPart.isEmpty || !frac.isEmpty, r.drop frac.length)
    | r => (!intPart.isEmpty, r)
  ok && match cs with
    | [] => true
    | e :: r =>
      (e == 'e' || e == 'E') &&
        let r := match r with | '+' :: t => t | '-' :: t => t | t => t
        !r.isEmpty && r.all Char.isDigit

/-- The words with a fixed reading. -/
def fixedWord (s : String) : Option (String × Datum) :=
  let inf : Float := 1.0 / 0.0
  if s == "true" || s == "True" || s == "TRUE" then some (boolTag, .bool true)
  else if s == "false" || s == "False" || s == "FALSE" then some (boolTag, .bool false)
  else if s == "" || s == "~" || s == "null" || s == "Null" || s == "NULL" then some (nullTag, .null)
  else if s == ".nan" || s == ".NaN" || s == ".NAN" then some (floatTag, .float (0.0 / 0.0))
  else if s == ".inf" || s == ".Inf" || s == ".INF" || s == "+.inf" || s == "+.Inf" || s == "+.INF" then
    some (floatTag, .float inf)
  else if s == "-.inf" || s == "-.Inf" || s == "-.INF" then some (floatTag, .float (-inf))
  else none

/-- One or two digits and the text after them. -/
def shortNumber : List Char → Option (Nat × List Char)
  | a :: b :: rest =>
    if !a.isDigit then none
    else if b.isDigit then some ((a.toNat - 48) * 10 + (b.toNat - 48), rest)
    else some (a.toNat - 48, b :: rest)
  | [a] => if a.isDigit then some (a.toNat - 48, []) else none
  | [] => none

/-- A date `YYYY-M-D`: year, month and day, with the text after it. -/
def datePart (cs : List Char) : Option ((Nat × Nat × Nat) × List Char) := do
  let year := cs.take 4
  if year.length != 4 || !year.all Char.isDigit then none
  let rest := cs.drop 4
  let rest ← match rest with | '-' :: r => some r | _ => none
  let (month, rest) ← shortNumber rest
  let rest ← match rest with | '-' :: r => some r | _ => none
  let (day, rest) ← shortNumber rest
  some ((year.foldl (fun n c => n * 10 + (c.toNat - 48)) 0, month, day), rest)

/-- A time `h:m:s` with an optional fraction after `.` or `,` (only nine digits count): hour,
minute, second and nanoseconds, with the text after it. -/
def timePart (cs : List Char) : Option ((Nat × Nat × Nat × Nat) × List Char) := do
  let (hour, rest) ← shortNumber cs
  let rest ← match rest with | ':' :: r => some r | _ => none
  let (minute, rest) ← shortNumber rest
  let rest ← match rest with | ':' :: r => some r | _ => none
  let (second, rest) ← shortNumber rest
  let (nanos, rest) := match rest with
    | p :: d :: more =>
      if (p == '.' || p == ',') && d.isDigit then
        let digits := (d :: more).takeWhile Char.isDigit
        let used := (digits.take 9) ++ List.replicate (9 - min 9 digits.length) '0'
        (used.foldl (fun n c => n * 10 + (c.toNat - 48)) 0, (d :: more).drop digits.length)
      else (0, rest)
    | _ => (0, rest)
  if hour ≥ 24 || minute ≥ 60 || second ≥ 60 then none
  some ((hour, minute, second, nanos), rest)

/-- A zone `Z` or `±hh:mm` ending the text: its offset in seconds, or `none` for `Z`. -/
def zonePart : List Char → Option (Option Int)
  | ['Z'] => some none
  | [sign, h1, h2, ':', m1, m2] =>
    if !(h1.isDigit && h2.isDigit && m1.isDigit && m2.isDigit) then none
    else
      let hours := (h1.toNat - 48) * 10 + (h2.toNat - 48)
      let minutes := (m1.toNat - 48) * 10 + (m2.toNat - 48)
      if hours > 24 || minutes > 60 then none
      else if sign == '+' then some (some ((hours * 60 + minutes) * 60 : Nat))
      else if sign == '-' then some (some (-((hours * 60 + minutes) * 60 : Nat)))
      else none
  | _ => none

def readingAt (date : Nat × Nat × Nat) (time : Nat × Nat × Nat × Nat) (offset : Int) : Time.Reading :=
  let (year, month, day) := date
  let (hour, minute, second, nanos) := time
  { year, month, day, hour, minute, second, nanos, offset, zone := if offset == 0 then "UTC" else "" }

/-- Reads a timestamp. -/
def parseTimestamp (s : String) : Option Time.Reading := do
  let cs := s.toList
  -- every form starts with four digits and a hyphen
  if (cs.takeWhile Char.isDigit).length != 4 || cs.getD 4 ' ' != '-' then none
  let (date, rest) ← datePart cs
  let (_, month, day) := date
  if month == 0 || month > 12 || day == 0 || day > Time.daysIn month date.1 then none
  match rest with
  | [] => some (readingAt date (0, 0, 0, 0) 0)
  | c :: more =>
    if c == 'T' || c == 't' then
      let (time, zone) ← timePart more
      let offset ← zonePart zone
      some (readingAt date time (offset.getD 0))
    else if c == ' ' then
      let (time, rest) ← timePart (more.dropWhile (· == ' '))
      if rest.isEmpty then some (readingAt date time 0) else none
    else none

/-- The value of a base-64 digit. -/
def base64Digit (c : Char) : Option Nat :=
  if 'A' ≤ c && c ≤ 'Z' then some (c.toNat - 65)
  else if 'a' ≤ c && c ≤ 'z' then some (c.toNat - 97 + 26)
  else if '0' ≤ c && c ≤ '9' then some (c.toNat - 48 + 52)
  else if c == '+' then some 62
  else if c == '/' then some 63
  else none

/-- Decodes padded base 64, ignoring line breaks, within `fuel` groups of four. -/
def base64Groups : Nat → List Char → Option (List UInt8)
  | 0, _ => some []
  | _ + 1, [] => some []
  | fuel + 1, cs =>
    let group := cs.take 4
    let rest := cs.drop 4
    match group.map base64Digit with
    | [some a, some b, some c, some d] =>
      let n := ((a * 64 + b) * 64 + c) * 64 + d
      (fun more => [(n / 65536).toUInt8, (n / 256 % 256).toUInt8, (n % 256).toUInt8] ++ more) <$>
        base64Groups fuel rest
    | [some a, some b, some c, none] =>
      if group.getD 3 ' ' == '=' && rest.isEmpty then
        let n := (a * 64 + b) * 64 + c
        some [(n / 1024).toUInt8, (n / 4 % 256).toUInt8]
      else none
    | [some a, some b, none, none] =>
      if group.getD 2 ' ' == '=' && group.getD 3 ' ' == '=' && rest.isEmpty then
        some [((a * 64 + b) / 16).toUInt8]
      else none
    | _ => none

def decodeBase64 (s : String) : Option (List UInt8) :=
  let cs := s.toList.filter fun c => c != '\n' && c != '\r'
  if cs.length % 4 != 0 then none else base64Groups (cs.length / 4 + 1) cs

/-- An integer read in `base` (after its prefix): signed when it fits, else unsigned. -/
def prefixedInteger (digits : String) (base : Nat) (negative : Bool) : Option (String × Datum) :=
  match Text.parseInt ((if negative then "-" else "") ++ digits) base 64 with
  | .ok n => some (intTag, .int n)
  | .error _ =>
    if negative then none
    else match Text.parseUint digits base 64 with
      | .ok n => some (intTag, .uint n)
      | .error _ => none

/-- Reads text that starts with a digit or a sign: a timestamp (when the tag allows one), an
integer, a float, or a binary or octal integer. -/
def numberLike (tag : String) (s : String) : Option (String × Datum) :=
  let stamp := if tag == "" || tag == timestampTag then parseTimestamp s else none
  match stamp with
  | some t => some (timestampTag, .time t)
  | none =>
    let plain := s.replace "_" ""
    match Text.parseInt plain 0 64 with
    | .ok n => some (intTag, .int n)
    | .error _ =>
      match Text.parseUint plain 0 64 with
      | .ok n => some (intTag, .uint n)
      | .error _ =>
        let asFloat := if isFloatSyntax plain then
            match Binary64.parseChecked plain with
            | .ok x => some (floatTag, .float x)
            | .error _ => none
          else none
        let binary :=
          if plain.startsWith "0b" then prefixedInteger (plain.drop 2).toString 2 false
          else if plain.startsWith "-0b" then prefixedInteger (plain.drop 3).toString 2 true
          else none
        let octal :=
          if plain.startsWith "0o" then prefixedInteger (plain.drop 2).toString 8 false
          else if plain.startsWith "-0o" then prefixedInteger (plain.drop 3).toString 8 true
          else none
        asFloat <|> binary <|> octal

/-- Reads a scalar's text by what it looks like, for a resolvable tag: the tag found and the
value. -/
def resolvePlain (tag : String) (s : String) : String × Datum :=
  let hinted := match s.toList with
    | [] => true
    | c :: _ => c.isDigit || "+-yYnNtTfFoO~.".contains c
  if !hinted || tag == strTag || tag == binaryTag then (strTag, .text s)
  else
    match fixedWord s with
    | some r => r
    | none =>
      match s.toList with
      | '.' :: _ =>
        match Binary64.parseChecked s with
        | .ok x => (floatTag, .float x)
        | .error _ => (strTag, .text s)
      | c :: _ =>
        if c.isDigit || c == '+' || c == '-' then (numberLike tag s).getD (strTag, .text s)
        else (strTag, .text s)
      | [] => (strTag, .text s)

/-- Reads a scalar's text with its tag: the tag found and the value. -/
def resolve (tag : String) (s : String) : Except String (String × Datum) :=
  let tag := shortTag tag
  if !isResolvable tag then .ok (tag, .text s)
  else
    let (found, value) := resolvePlain tag s
    if tag == "" || tag == found || tag == strTag || tag == binaryTag then .ok (found, value)
    else match tag == floatTag, value with
      | true, .int n => .ok (floatTag, .float (Float.ofInt n))
      | _, _ => .error ("cannot decode " ++ shortTag found ++ " \x60" ++ s ++ "\x60 as a " ++ shortTag tag)

end FlashArb.Yaml
