import FlashArb.Text.Quoted

/-! Integers read from text in a given base or by prefix. -/
namespace FlashArb.Text

def numberError (reader text why : String) : String :=
  "strconv." ++ reader ++ ": parsing " ++ quote text ++ ": " ++ why

def digitOf (c : Char) : Nat :=
  if c.isDigit then c.toNat - '0'.toNat
  else if 'a' ≤ c.toLower && c.toLower ≤ 'z' then c.toLower.toNat - 'a'.toNat + 10
  else 36

/-- Whether underscores in a number separate digits: each underscore stands between digits
(a base prefix counting as a digit). -/
def underscoresOk (s : String) : Bool :=
  let cs := match s.toList with
    | '+' :: r => r
    | '-' :: r => r
    | r => r
  let (start, hex, rest) : Char × Bool × List Char :=
    match cs with
    | '0' :: p :: r =>
      if p.toLower == 'b' || p.toLower == 'o' || p.toLower == 'x' then ('0', p.toLower == 'x', r)
      else ('^', false, cs)
    | _ => ('^', false, cs)
  let saw := rest.foldl (fun saw c =>
    if saw == '#' then '#'
    else if c.isDigit || (hex && 'a' ≤ c.toLower && c.toLower ≤ 'f') then '0'
    else if c == '_' then (if saw != '0' then '#' else '_')
    else if saw == '_' then '#'
    else '!') start
  saw != '_' && saw != '#'

/-- Reads the digits of an unsigned number in `base`, at most `maxVal`: `none` for a bad digit,
`some none` when the value passes the limit. -/
def readDigits (base maxVal : Nat) (allowUnderscore : Bool) :
    List Char → Nat → Option (Option Nat)
  | [], n => some (some n)
  | c :: rest, n =>
    if c == '_' && allowUnderscore then readDigits base maxVal allowUnderscore rest n
    else
      let d := digitOf c
      if d ≥ base then none
      else if n ≥ (2 ^ 64 - 1) / base + 1 then
        -- A multiplication would overflow: out of range, whatever follows.
        some none
      else
        let n' := n * base + d
        if n' > maxVal then some none else readDigits base maxVal allowUnderscore rest n'

/-- Reads an unsigned integer of `bits` bits in `base` (0 for the text's own prefix). -/
def parseNat (reader : String) (text : String) (base bits : Nat) : Except String Nat :=
  let syntaxErr := Except.error (numberError reader text "invalid syntax")
  let rangeErr := Except.error (numberError reader text "value out of range")
  if text.isEmpty then syntaxErr
  else
    let cs := text.toList
    let (base, digits, prefixed) : Nat × List Char × Bool :=
      if base != 0 then (base, cs, false)
      else match cs with
        | '0' :: p :: r =>
          if cs.length ≥ 3 && p.toLower == 'b' then (2, r, true)
          else if cs.length ≥ 3 && p.toLower == 'o' then (8, r, true)
          else if cs.length ≥ 3 && p.toLower == 'x' then (16, r, true)
          else (8, p :: r, true)
        | _ => (10, cs, true)
    match readDigits base (2 ^ bits - 1) prefixed digits 0 with
    | none => syntaxErr
    | some none => rangeErr
    | some (some n) =>
      if prefixed && cs.contains '_' && !underscoresOk text then syntaxErr else .ok n

/-- Reads a signed integer of `bits` bits in `base` (0 for the text's own prefix). -/
def parseInt (text : String) (base bits : Nat) : Except String Int :=
  let fail (why : String) := Except.error (numberError "ParseInt" text why)
  if text.isEmpty then fail "invalid syntax"
  else
    let (neg, body) := match text.toList with
      | '+' :: r => (false, String.ofList r)
      | '-' :: r => (true, String.ofList r)
      | r => (false, String.ofList r)
    let cutoff := 2 ^ (bits - 1)
    match parseNat "ParseInt" body base bits with
    | .error e =>
      if (e.splitOn "value out of range").length > 1 then fail "value out of range"
      else fail "invalid syntax"
    | .ok n =>
      if !neg && n ≥ cutoff then fail "value out of range"
      else if neg && n > cutoff then fail "value out of range"
      else .ok (if neg then -(n : Int) else n)

def parseUint (text : String) (base bits : Nat) : Except String Nat :=
  parseNat "ParseUint" text base bits

end FlashArb.Text
