import FlashArb.Text.Quoted

/-! A JSON text is checked one octet at a time by a machine that knows, after each octet, what may
follow. -/
namespace FlashArb.Json.Scan

/-- What an open bracket expects next. -/
inductive Frame where
  | objectKey
  | objectValue
  | arrayValue
deriving DecidableEq, Inhabited

/-- Where the machine stands between octets. -/
inductive State where
  | beginValue
  | beginValueOrEmpty
  | beginStringOrEmpty
  | beginString
  | endValue
  | endTop
  | inString
  | inStringEsc
  /-- Inside a `\u` escape, with `n` hexadecimal digits read. -/
  | inStringEscU (n : Nat)
  | neg
  | zero
  | digits
  | dot
  | fraction
  | exponent
  | exponentSign
  | exponentDigits
  /-- Inside the literal `word`, with the first `n` letters read. -/
  | literal (word : String) (n : Nat)
deriving DecidableEq, Inhabited

/-- The machine: its state and the open brackets, innermost first. -/
structure Machine where
  state : State := .beginValue
  stack : List Frame := []
deriving Inhabited

def maxDepth : Nat := 10000

def isSpace (c : UInt8) : Bool := c == 0x20 || c == 0x09 || c == 0x0D || c == 0x0A

def isDigit (c : UInt8) : Bool := 0x30 ≤ c && c ≤ 0x39

def isHex (c : UInt8) : Bool :=
  isDigit c || (0x61 ≤ c && c ≤ 0x66) || (0x41 ≤ c && c ≤ 0x46)

def quoteOctet (c : UInt8) : String :=
  if c == 0x27 then "'\\''"
  else if c == 0x22 then "'\"'"
  else "'" ++ String.ofList (Text.escapeChar '"' (Char.ofNat c.toNat)) ++ "'"

def invalid (c : UInt8) (context : String) : String :=
  "invalid character " ++ quoteOctet c ++ " " ++ context

def push (m : Machine) (c : UInt8) (f : Frame) (next : State) : Except String Machine :=
  if m.stack.length + 1 ≤ maxDepth then .ok { state := next, stack := f :: m.stack }
  else .error (invalid c "exceeded max depth")

def afterValue (stack : List Frame) : State :=
  if stack.isEmpty then .endTop else .endValue

def literalAt (word : String) (n : Nat) : Char := word.toList.getD n ' '

mutual

/-- Reads one octet where a value may begin. -/
def beginValue (m : Machine) (c : UInt8) : Except String Machine :=
  if isSpace c then .ok m
  else if c == 0x7B then push m c .objectKey .beginStringOrEmpty
  else if c == 0x5B then push m c .arrayValue .beginValueOrEmpty
  else if c == 0x22 then .ok { m with state := .inString }
  else if c == 0x2D then .ok { m with state := .neg }
  else if c == 0x30 then .ok { m with state := .zero }
  else if c == 0x74 then .ok { m with state := .literal "true" 1 }
  else if c == 0x66 then .ok { m with state := .literal "false" 1 }
  else if c == 0x6E then .ok { m with state := .literal "null" 1 }
  else if 0x31 ≤ c && c ≤ 0x39 then .ok { m with state := .digits }
  else .error (invalid c "looking for beginning of value")

/-- Reads one octet after a complete value. -/
def endValue (m : Machine) (c : UInt8) : Except String Machine :=
  match m.stack with
  | [] => endTop { m with state := .endTop } c
  | f :: rest =>
    if isSpace c then .ok { m with state := .endValue }
    else match f with
      | .objectKey =>
        if c == 0x3A then .ok { state := .beginValue, stack := .objectValue :: rest }
        else .error (invalid c "after object key")
      | .objectValue =>
        if c == 0x2C then .ok { state := .beginString, stack := .objectKey :: rest }
        else if c == 0x7D then .ok { state := afterValue rest, stack := rest }
        else .error (invalid c "after object key:value pair")
      | .arrayValue =>
        if c == 0x2C then .ok { m with state := .beginValue }
        else if c == 0x5D then .ok { state := afterValue rest, stack := rest }
        else .error (invalid c "after array element")

def endTop (m : Machine) (c : UInt8) : Except String Machine :=
  if isSpace c then .ok m else .error (invalid c "after top-level value")

end

/-- Reads one octet. -/
def step (m : Machine) (c : UInt8) : Except String Machine :=
  match m.state with
  | .beginValue => beginValue m c
  | .beginValueOrEmpty =>
    if isSpace c then .ok m
    else if c == 0x5D then endValue { m with state := .endValue } c
    else beginValue m c
  | .beginStringOrEmpty =>
    if isSpace c then .ok m
    else if c == 0x7D then
      endValue { state := .endValue, stack := .objectValue :: m.stack.drop 1 } c
    else if c == 0x22 then .ok { m with state := .inString }
    else .error (invalid c "looking for beginning of object key string")
  | .beginString =>
    if isSpace c then .ok m
    else if c == 0x22 then .ok { m with state := .inString }
    else .error (invalid c "looking for beginning of object key string")
  | .endValue => endValue m c
  | .endTop => endTop m c
  | .inString =>
    if c == 0x22 then .ok { m with state := .endValue }
    else if c == 0x5C then .ok { m with state := .inStringEsc }
    else if c < 0x20 then .error (invalid c "in string literal")
    else .ok m
  | .inStringEsc =>
    if [0x62, 0x66, 0x6E, 0x72, 0x74, 0x5C, 0x2F, 0x22].contains c then .ok { m with state := .inString }
    else if c == 0x75 then .ok { m with state := .inStringEscU 0 }
    else .error (invalid c "in string escape code")
  | .inStringEscU n =>
    if isHex c then .ok { m with state := if n + 1 ≥ 4 then .inString else .inStringEscU (n + 1) }
    else .error (invalid c "in \\u hexadecimal character escape")
  | .neg =>
    if c == 0x30 then .ok { m with state := .zero }
    else if 0x31 ≤ c && c ≤ 0x39 then .ok { m with state := .digits }
    else .error (invalid c "in numeric literal")
  | .digits => if isDigit c then .ok m else afterZero m c
  | .zero => afterZero m c
  | .dot =>
    if isDigit c then .ok { m with state := .fraction }
    else .error (invalid c "after decimal point in numeric literal")
  | .fraction =>
    if isDigit c then .ok m
    else if c == 0x65 || c == 0x45 then .ok { m with state := .exponent }
    else endValue { m with state := .endValue } c
  | .exponent =>
    if c == 0x2B || c == 0x2D then .ok { m with state := .exponentSign } else exponentSign m c
  | .exponentSign => exponentSign m c
  | .exponentDigits => if isDigit c then .ok m else endValue { m with state := .endValue } c
  | .literal word n =>
    if c.toNat == (literalAt word n).toNat then
      if n + 1 ≥ word.length then .ok { m with state := .endValue }
      else .ok { m with state := .literal word (n + 1) }
    else .error (invalid c ("in literal " ++ word ++ " (expecting " ++ quoteOctet (literalAt word n).toNat.toUInt8 ++ ")"))
where
  afterZero (m : Machine) (c : UInt8) : Except String Machine :=
    if c == 0x2E then .ok { m with state := .dot }
    else if c == 0x65 || c == 0x45 then .ok { m with state := .exponent }
    else endValue { m with state := .endValue } c
  exponentSign (m : Machine) (c : UInt8) : Except String Machine :=
    if isDigit c then .ok { m with state := .exponentDigits }
    else .error (invalid c "in exponent of numeric literal")

def Machine.done (m : Machine) : Bool := m.state == .endTop

/-- Ends the input: one space closes what is being read, then a whole value must be there. -/
def finish (m : Machine) : Except String Unit :=
  if m.done then .ok ()
  else match step m 0x20 with
    | .error e => .error e
    | .ok m => if m.done then .ok () else .error "unexpected end of JSON input"

def check (bytes : List UInt8) : Except String Unit := do
  let m ← bytes.foldlM step {}
  finish m

end FlashArb.Json.Scan
