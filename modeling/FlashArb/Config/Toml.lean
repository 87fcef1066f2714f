import FlashArb.Config.Value
import FlashArb.Time.Civil
import FlashArb.Text.Utf8

/-! TOML documents read into settings, one expression at a time. -/
namespace FlashArb.Settings.Toml

def fault {α : Type} (problem : String) : Except String α := .error ("toml: " ++ problem)

def isDigit (b : UInt8) : Bool := 0x30 ≤ b && b ≤ 0x39

def isHexDigit (b : UInt8) : Bool :=
  isDigit b || (0x61 ≤ b && b ≤ 0x66) || (0x41 ≤ b && b ≤ 0x46)

def isBlank (b : UInt8) : Bool := b == 0x20 || b == 0x09

def skipBlanks (b : Bytes) : Bytes := b.dropWhile isBlank

def isBareKeyByte (b : UInt8) : Bool :=
  isDigit b || (0x41 ≤ b && b ≤ 0x5A) || (0x61 ≤ b && b ≤ 0x7A) || b == 0x2D || b == 0x5F

def isControl (b : UInt8) : Bool :=
  b < 0x09 || b == 0x0B || b == 0x0C || (0x0E ≤ b && b < 0x20) || b == 0x7F

/-- The width of the character at the front when it may stand in text: an ASCII character
that is not a control character, or a valid UTF-8 sequence; 0 otherwise. -/
def charWidth (bs : Bytes) : Nat :=
  match bs with
  | [] => 0
  | b :: _ =>
    if b < 0x80 then (if isControl b then 0 else 1)
    else ((Text.decodeRune bs).map (·.2)).getD 0

def byteChar (b : UInt8) : Char := Char.ofNat b.toNat

def codePoint (b : UInt8) : String :=
  "U+" ++ String.ofList ((Text.hexFixed 4 b.toNat).map Char.toUpper) ++
    (if Text.isPrintable (byteChar b) then " '" ++ (byteChar b).toString ++ "'" else "")

def startsWith (b : Bytes) (s : String) : Bool := b.take s.utf8ByteSize == s.toUTF8.toList

def expect (x : Char) (b : Bytes) : Except String Bytes :=
  match b with
  | [] => fault ("expected character " ++ x.toString ++ " but the document ended here")
  | c :: rest => if c.toNat == x.toNat then .ok rest else fault ("expected character " ++ x.toString)

/-! ## Strings -/

/-- Reads the rest of a literal string after its opening `'`, up to the closing one. -/
def literalBody : Bytes → Bytes → Except String (Bytes × Bytes)
  | [], _ => fault "unterminated literal string"
  | c :: rest, acc =>
    if c == 0x27 then .ok (acc.reverse, rest)
    else if c == 0x0A || c == 0x0D then fault "literal strings cannot have new lines"
    else if charWidth (c :: rest) == 0 then fault "invalid character"
    else literalBody rest (c :: acc)

/-- Scans a basic string after its opening `"`: its content up to the closing quote, whether
it holds escapes, and what follows. -/
def basicBody : Bytes → Bytes → Bool → Except String (Bytes × Bool × Bytes)
  | [], _, _ => fault "basic string not terminated by \""
  | c :: rest, acc, escaped =>
    if c == 0x22 then .ok (acc.reverse, escaped, rest)
    else if c == 0x0A || c == 0x0D then fault "basic strings cannot have new lines"
    else if c == 0x5C then
      match rest with
      | [] => fault "need a character after \\"
      | d :: more => basicBody more (d :: c :: acc) true
    else basicBody rest (c :: acc) escaped

/-- The code point of an escape's hexadecimal digits, `length` of them from `digits`. -/
def hexToRune (digits : Bytes) (length : Nat) : Except String Char :=
  if digits.length < length then
    fault ("unicode point needs " ++ toString length ++ " character, not " ++ toString digits.length)
  else
    let ds := digits.take length
    if ds.all isHexDigit then
      let r := ds.foldl (fun n d => n * 16 + Text.digitOf (byteChar d)) 0
      if r > 0x10FFFF || (0xD800 ≤ r && r < 0xE000) then
        fault "escape sequence is invalid Unicode code point"
      else .ok (Char.ofNat r)
    else fault "non-hex character"

/-- The bytes an escape `\c` stands for, reading its digits from `after`; returns them and how
many bytes of `after` it used. -/
def escapeBytes (c : UInt8) (after : Bytes) (available : Bytes) : Except String (Bytes × Nat) :=
  match byteChar c with
  | '"' => .ok ([0x22], 0)
  | '\\' => .ok ([0x5C], 0)
  | 'b' => .ok ([0x08], 0)
  | 'f' => .ok ([0x0C], 0)
  | 'n' => .ok ([0x0A], 0)
  | 'r' => .ok ([0x0D], 0)
  | 't' => .ok ([0x09], 0)
  | 'e' => .ok ([0x1B], 0)
  | 'u' => (fun r => (r.toString.toUTF8.toList, 4)) <$> hexToRune (available.take 4) 4
  | 'U' => (fun r => (r.toString.toUTF8.toList, 8)) <$> hexToRune (available.take 8) 8
  | _ => let _ := after; fault ("invalid escaped character " ++ codePoint c)

/-- Resolves the escapes of a single-line basic string's content; an escape's digits are read
from the content only. -/
def unescapeLine : Nat → Bytes → Except String Bytes
  | 0, _ => .ok []
  | _ + 1, [] => .ok []
  | fuel + 1, 0x5C :: c :: rest => do
    let (out, used) ← escapeBytes c rest rest
    return out ++ (← unescapeLine fuel (rest.drop used))
  | fuel + 1, b :: rest => (b :: ·) <$> unescapeLine fuel rest

/-- Reads a basic string at its opening `"`: its text and what follows. -/
def basicString (b : Bytes) : Except String (Bytes × Bytes) := do
  let (body, escaped, rest) ← basicBody (b.drop 1) [] false
  if escaped then
    return (← unescapeLine (body.length + 1) body, rest)
  else if validText body then return (body, rest)
  else fault "invalid UTF-8"
where
  /-- Whether every character may stand in text. -/
  validText (bs : Bytes) : Bool :=
    (Text.runes bs).all fun
      | .inl c => !(c.toNat < 0x80 && isControl (UInt8.ofNat c.toNat))
      | .inr _ => false

def literalString (b : Bytes) : Except String (Bytes × Bytes) := literalBody (b.drop 1) []

/-- Scans a three-quote string whose delimiter is the byte `q`, after the opening delimiter: the
content and what follows. -/
def multilineBody (q : UInt8) (what : String) : Nat → Bytes → Bytes → Except String (Bytes × Bytes)
  | 0, _, _ => fault (what ++ " not terminated")
  | _ + 1, [], _ =>
    fault ("multiline " ++ what ++ " not terminated by " ++ (if q == 0x22 then "\"\"\"" else "'''"))
  | fuel + 1, c :: rest, acc =>
    if c == q && rest.take 2 == [q, q] then
      let after := rest.drop 2
      match after with
      | d :: more =>
        if d != q then .ok (acc.reverse, after)
        else match more with
          | e :: more' =>
            if e != q then .ok ((q :: acc).reverse, more)
            else match more' with
              | f :: _ =>
                if f == q then
                  fault ((if q == 0x22 then "\"\"\"" else "'''") ++ " not allowed in multiline " ++ what)
                else .ok ((q :: q :: acc).reverse, more')
              | [] => .ok ((q :: q :: acc).reverse, more')
          | [] => .ok ((q :: acc).reverse, more)
      | [] => .ok (acc.reverse, after)
    else if c == 0x5C && q == 0x22 then
      match rest with
      | [] => fault "need a character after \\"
      | d :: more => multilineBody q what fuel more (d :: c :: acc)
    else if c == 0x0D then
      match rest with
      | 0x0A :: more => multilineBody q what fuel more (0x0A :: c :: acc)
      | _ => fault "need a \\n after \\r"
    else if q == 0x27 && c != 0x0A && charWidth (c :: rest) == 0 then fault "invalid character"
    else multilineBody q what fuel rest (c :: acc)

def dropFirstBreak : Bytes → Bytes
  | 0x0A :: rest => rest
  | 0x0D :: 0x0A :: rest => rest
  | b => b

/-- Whether the bytes after a backslash, up to the end of the content, are blanks before a
line break: the backslash then ends its line. -/
def endsLine : Bytes → Bool
  | 0x20 :: rest | 0x09 :: rest => endsLine rest
  | 0x0D :: 0x0A :: _ => true
  | 0x0A :: _ => true
  | _ => false

/-- Resolves the escapes of a three-quote basic string's content; `tail` is what follows the content
in the document, from which an escape's digits may also be read. -/
def unescapeBlock (tail : Bytes) : Nat → Bytes → Except String Bytes
  | 0, _ => .ok []
  | _ + 1, [] => .ok []
  | fuel + 1, 0x5C :: rest =>
    if endsLine rest then
      unescapeBlock tail fuel (rest.dropWhile fun b => b == 0x20 || b == 0x09 || b == 0x0A || b == 0x0D)
    else match rest with
      | c :: more => do
        let (out, used) ← escapeBytes c more (more ++ tail)
        return out ++ (← unescapeBlock tail fuel (more.drop used))
      | [] => .ok [0x5C]
  | fuel + 1, b :: rest =>
    if charWidth (b :: rest) == 0 && b != 0x0A then fault ("invalid character " ++ codePoint b)
    else (b :: ·) <$> unescapeBlock tail fuel rest

/-- Reads a three-quote basic string at its opening delimiter. -/
def multilineBasicString (b : Bytes) : Except String (Bytes × Bytes) := do
  let (body, rest) ← multilineBody 0x22 "basic string" (b.length + 1) (b.drop 3) []
  let body := dropFirstBreak body
  if body.contains 0x5C then
    return (← unescapeBlock ("\"\"\"".toUTF8.toList ++ rest) (body.length + 1) body, rest)
  else if (Text.runes body).all (fun
      | .inl c => !(c.toNat < 0x80 && isControl (UInt8.ofNat c.toNat))
      | .inr _ => false) then return (body, rest)
  else fault "invalid UTF-8"

def multilineLiteralString (b : Bytes) : Except String (Bytes × Bytes) := do
  let (body, rest) ← multilineBody 0x27 "literal string" (b.length + 1) (b.drop 3) []
  return (dropFirstBreak body, rest)

/-! ## Keys -/

/-- Reads one part of a key: bare, basic-quoted or literal-quoted. -/
def simpleKey (b : Bytes) : Except String (Bytes × Bytes) :=
  match b with
  | [] => fault "expected key but found none"
  | c :: _ =>
    if c == 0x27 then literalString b
    else if c == 0x22 then basicString b
    else if isBareKeyByte c then .ok (b.takeWhile isBareKeyByte, b.dropWhile isBareKeyByte)
    else fault ("invalid character at start of key: " ++ (byteChar c).toString)

/-- Reads the parts of a key after its first, each after a `.` between optional blanks. -/
def keyParts : Nat → Bytes → List Bytes → Except String (List Bytes × Bytes)
  | 0, b, acc => .ok (acc.reverse, b)
  | fuel + 1, b, acc =>
    match skipBlanks b with
    | 0x2E :: rest => do
      let (part, rest) ← simpleKey (skipBlanks rest)
      keyParts fuel rest (part :: acc)
    | _ => .ok (acc.reverse, skipBlanks b)

def key (b : Bytes) : Except String (List Bytes × Bytes) := do
  let (first, rest) ← simpleKey b
  keyParts (rest.length + 1) rest [first]

/-! ## Values -/

/-- The kinds of dates and times. -/
inductive DateKind where
  | dateTime
  | localDateTime
  | localDate
  | localTime

/-- A value as read, before decoding. -/
inductive Raw where
  | text (s : Bytes)
  | bool (b : Bool)
  | integer (t : Bytes)
  | float (t : Bytes)
  | date (kind : DateKind) (t : Bytes)
  | array (items : List Raw)
  | table (entries : List (List Bytes × Raw))

/-- Scans a date or time: digits, `-`, `:`, `.`, `T`, `Z`, signs, and one blank before a digit. -/
def dateTime (b : Bytes) : Raw × Bytes :=
  let rec go : Nat → Bytes → Nat → Bool → Bool → Bool → Bool → Raw × Bytes
    | 0, rest, i, date, time, tz, _ => (kindOf date time tz i, rest)
    | _ + 1, [], i, date, time, tz, _ => (kindOf date time tz i, [])
    | fuel + 1, c :: rest, i, date, time, tz, space =>
      if isDigit c then go fuel rest (i + 1) date time tz space
      else if c == 0x2D then go fuel rest (i + 1) true time (tz || i ≥ 8) space
      else if c == 0x54 || c == 0x74 || c == 0x3A || c == 0x2E then go fuel rest (i + 1) date true tz space
      else if c == 0x2B || c == 0x5A || c == 0x7A then go fuel rest (i + 1) date time true space
      else if c == 0x20 && !space && (rest.head?.map isDigit).getD false then
        match rest with
        | _ :: more => go fuel more (i + 2) date true tz true
        | [] => (kindOf date time tz i, c :: rest)
      else (kindOf date time tz i, c :: rest)
  go (b.length + 1) b 0 false false false false
where
  kindOf (date time tz : Bool) (i : Nat) : Raw :=
    let kind := if time then (if date then (if tz then .dateTime else .localDateTime) else .localTime)
      else .localDate
    .date kind (b.take i)

def followsWord (b : Bytes) (w : String) : Bool := startsWith b w

/-- Scans a number. -/
def number (b : Bytes) : Except String (Raw × Bytes) :=
  match b with
  | 0x30 :: p :: _ :: _ =>
    if p == 0x2E || p == 0x65 || p == 0x45 then general
    else
      let valid : Option (UInt8 → Bool) :=
        if p == 0x78 then some fun c => isHexDigit c || c == 0x5F
        else if p == 0x6F then some fun c => (0x30 ≤ c && c ≤ 0x37) || c == 0x5F
        else if p == 0x62 then some fun c => c == 0x30 || c == 0x31 || c == 0x5F
        else none
      match valid with
      | some ok =>
        let n := 2 + ((b.drop 2).takeWhile ok).length
        .ok (.integer (b.take n), b.drop n)
      | none => .ok (.integer (b.take 1), b.drop 1)
  | _ => general
where
  general : Except String (Raw × Bytes) :=
    let rec go : Nat → Bytes → Nat → Bool → Except String (Raw × Bytes)
      | 0, _, i, isFloat => finish i isFloat
      | _ + 1, [], i, isFloat => finish i isFloat
      | fuel + 1, c :: rest, i, isFloat =>
        if isDigit c || c == 0x2B || c == 0x2D || c == 0x5F then go fuel rest (i + 1) isFloat
        else if c == 0x2E || c == 0x65 || c == 0x45 then go fuel rest (i + 1) true
        else if c == 0x69 then
          if followsWord (c :: rest) "inf" then .ok (.float (b.take (i + 3)), b.drop (i + 3))
          else fault "unexpected character 'i' while scanning for a number"
        else if c == 0x6E then
          if followsWord (c :: rest) "nan" then .ok (.float (b.take (i + 3)), b.drop (i + 3))
          else fault "unexpected character 'n' while scanning for a number"
        else finish i isFloat
    go (b.length + 1) b 0 false
  finish (i : Nat) (isFloat : Bool) : Except String (Raw × Bytes) :=
    if i == 0 then fault "incomplete number"
    else .ok ((if isFloat then Raw.float else Raw.integer) (b.take i), b.drop i)

/-- Scans a value that is a number, a date or a time. -/
def numberOrDate (b : Bytes) : Except String (Raw × Bytes) :=
  match b with
  | 0x69 :: _ =>
    if followsWord b "inf" then .ok (.float (b.take 3), b.drop 3) else fault "expected 'inf'"
  | 0x6E :: _ =>
    if followsWord b "nan" then .ok (.float (b.take 3), b.drop 3) else fault "expected 'nan'"
  | 0x2B :: _ | 0x2D :: _ => number b
  | _ =>
    if b.length < 3 then number b
    else
      let head := (b.take 5).zipIdx
      let stop := head.find? fun (c, _) => !isDigit c
      match stop with
      | some (c, idx) =>
        if (idx == 2 && c == 0x3A) || (idx == 4 && c == 0x2D) then .ok (dateTime b) else number b
      | none => number b

/-- Skips blanks, comments and line breaks between array items. -/
def skipBetweenItems : Nat → Bytes → Except String Bytes
  | 0, b => .ok b
  | fuel + 1, b =>
    let b := skipBlanks b
    let b := match b with
      | 0x23 :: _ => comment b
      | _ => .ok b
    match b with
    | .error e => .error e
    | .ok b =>
      match b with
      | 0x0A :: rest => skipBetweenItems fuel rest
      | 0x0D :: rest =>
        match rest with
        | 0x0A :: more => skipBetweenItems fuel more
        | [] => fault "windows new line expected"
        | _ => fault "windows new line should be \\r\\n"
      | _ => .ok b
where
  /-- Skips a comment up to its line break; a control character in it is a fault. -/
  comment (b : Bytes) : Except String Bytes :=
    let rec go : Nat → Bytes → Except String Bytes
      | 0, rest => .ok rest
      | _ + 1, [] => .ok []
      | fuel + 1, c :: rest =>
        if c == 0x0A then .ok (c :: rest)
        else if c == 0x0D && rest.head? == some 0x0A then .ok rest
        else if charWidth (c :: rest) == 0 then fault "invalid character in comment"
        else go fuel rest
    go (b.length + 1) (b.drop 1)

def skipComment (b : Bytes) : Except String Bytes := skipBetweenItems.comment b

mutual

/-- Reads a value. -/
def value : Nat → Bytes → Except String (Raw × Bytes)
  | 0, _ => fault "expected value, not eof"
  | fuel + 1, b =>
    match b with
    | [] => fault "expected value, not eof"
    | c :: _ =>
      if c == 0x22 then
        if startsWith b "\"\"\"" then (fun (s, r) => (.text s, r)) <$> multilineBasicString b
        else (fun (s, r) => (.text s, r)) <$> basicString b
      else if c == 0x27 then
        if startsWith b "'''" then (fun (s, r) => (.text s, r)) <$> multilineLiteralString b
        else (fun (s, r) => (.text s, r)) <$> literalString b
      else if c == 0x74 then
        if startsWith b "true" then .ok (.bool true, b.drop 4) else fault "expected 'true'"
      else if c == 0x66 then
        if startsWith b "false" then .ok (.bool false, b.drop 5) else fault "expected 'false'"
      else if c == 0x5B then array fuel (b.drop 1) true []
      else if c == 0x7B then inlineTable fuel (b.drop 1) true []
      else numberOrDate b

/-- Reads the rest of an array after `[`. -/
def array : Nat → Bytes → Bool → List Raw → Except String (Raw × Bytes)
  | 0, _, _, _ => fault "array is incomplete"
  | fuel + 1, b, first, acc => do
    let b ← skipBetweenItems (b.length + 1) b
    match b with
    | [] => fault "array is incomplete"
    | 0x5D :: rest => .ok (.array acc.reverse, rest)
    | c :: rest =>
      let b ← if c == 0x2C then
          if first then fault "array cannot start with comma"
          else skipBetweenItems (rest.length + 1) rest
        else if !first then fault "array elements must be separated by commas"
        else pure b
      match b with
      | 0x5D :: rest => .ok (.array acc.reverse, rest)
      | _ =>
        let (v, rest) ← value fuel b
        array fuel (skipBlanks rest) false (v :: acc)

/-- Reads the rest of an inline table after `{`. -/
def inlineTable : Nat → Bytes → Bool → List (List Bytes × Raw) → Except String (Raw × Bytes)
  | 0, _, _, _ => fault "inline table is incomplete"
  | fuel + 1, b, first, acc => do
    match skipBlanks b with
    | [] =>
      if b.isEmpty then (do let rest ← expect '}' []; .ok (.table acc.reverse, rest))
      else fault "inline table is incomplete"
    | 0x7D :: rest => .ok (.table acc.reverse, rest)
    | b' =>
      let b' ← if first then pure b' else skipBlanks <$> expect ',' b'
      let (k, v, rest) ← keyValue fuel b'
      inlineTable fuel rest false ((k, v) :: acc)

/-- Reads a `key = value` pair. -/
def keyValue : Nat → Bytes → Except String (List Bytes × Raw × Bytes)
  | 0, _ => fault "expected key but found none"
  | fuel + 1, b => do
    let (k, rest) ← key b
    let rest := skipBlanks rest
    if rest.isEmpty then fault "expected = after a key, but the document ends there"
    else
      let rest ← expect '=' rest
      let (v, rest) ← value fuel (skipBlanks rest)
      return (k, v, rest)

end

/-! ## Expressions -/

/-- An expression of a document. -/
inductive Expr where
  | keyValue (key : List Bytes) (value : Raw)
  | table (key : List Bytes)
  | arrayTable (key : List Bytes)

/-- Reads an expression, if the line holds one, and skips a comment after it. -/
def expression (b : Bytes) : Except String (Option Expr × Bytes) := do
  let b := skipBlanks b
  match b with
  | [] => return (none, b)
  | 0x23 :: _ => return (none, ← skipComment b)
  | 0x0A :: _ | 0x0D :: _ => return (none, b)
  | _ =>
    let (e, rest) ← match b with
      | 0x5B :: 0x5B :: rest => do
        let (k, rest) ← key (skipBlanks rest)
        let rest ← expect ']' (skipBlanks rest)
        let rest ← expect ']' rest
        pure (Expr.arrayTable k, rest)
      | 0x5B :: rest => do
        let (k, rest) ← key (skipBlanks rest)
        let rest ← expect ']' (skipBlanks rest)
        pure (Expr.table k, rest)
      | _ => do
        let (k, v, rest) ← keyValue (b.length + 1) b
        pure (Expr.keyValue k v, rest)
    let rest := skipBlanks rest
    match rest with
    | 0x23 :: _ => return (some e, ← skipComment rest)
    | _ => return (some e, rest)

/-- Takes the line break before an expression. -/
def newline (b : Bytes) : Except String Bytes :=
  match b with
  | 0x0A :: rest => .ok rest
  | 0x0D :: rest =>
    match rest with
    | 0x0A :: more => .ok more
    | [] => fault "windows new line expected"
    | _ => fault "windows new line should be \\r\\n"
  | c :: _ => fault ("expected newline but got " ++ codePoint c)
  | [] => .ok []

/-! ## Checking keys -/

/-- What a key names. -/
inductive KeyKind where
  | table
  | value
  | arrayTable
deriving DecidableEq

def KeyKind.name : KeyKind → String
  | .table => "table"
  | .value => "value"
  | .arrayTable => "array table"

/-- A key met so far: its parent (none once its array table started a new element), its name,
what it names, whether a header named it, and whether a dotted key made it. -/
structure Seen where
  parent : Option Nat
  name : Bytes
  kind : KeyKind
  explicit : Bool
  dotted : Bool

/-- The keys met so far, the root first, and the table the pairs go into. -/
structure Tracker where
  entries : Array Seen := #[⟨none, [], .table, false, false⟩]
  current : Nat := 0

namespace Tracker

/-- The index of the key `name` under `parent`. -/
def find (t : Tracker) (parent : Nat) (name : Bytes) : Option Nat :=
  (List.range t.entries.size).find? fun i =>
    match t.entries[i]? with
    | some e => e.parent == some parent && e.name == name
    | none => false

def create (t : Tracker) (parent : Nat) (name : Bytes) (kind : KeyKind) (explicit dotted : Bool) :
    Tracker × Nat :=
  ({ t with entries := t.entries.push ⟨some parent, name, kind, explicit, dotted⟩ }, t.entries.size)

def update (t : Tracker) (i : Nat) (f : Seen → Seen) : Tracker :=
  { t with entries := t.entries.modify i f }

/-- Whether key `i` lies under key `root`. -/
def isUnder (t : Tracker) (root : Nat) : Nat → Nat → Bool
  | 0, _ => false
  | fuel + 1, i =>
    match (t.entries[i]?).bind (·.parent) with
    | some p => p == root || isUnder t root fuel p
    | none => false

def settle (t : Tracker) (root : Nat) : Tracker :=
  { t with entries := t.entries.mapIdx fun i e =>
      if e.dotted && isUnder t root (t.entries.size + 1) i then { e with explicit := true, dotted := false }
      else e }

def clear (t : Tracker) (root : Nat) : Tracker :=
  { t with entries := t.entries.mapIdx fun i e =>
      if isUnder t root (t.entries.size + 1) i then { e with parent := none } else e }

/-- Walks the parts of a header before the last, creating tables; a value on the way is a fault. -/
def walkHeader (t : Tracker) : Nat → List Bytes → Except String (Tracker × Nat)
  | parent, [] => .ok (t, parent)
  | parent, k :: ks =>
    match t.find parent k with
    | none =>
      let (t, i) := t.create parent k .table false false
      walkHeader t i ks
    | some i =>
      match t.entries[i]? with
      | some e =>
        if e.kind == .value then
          fault ("expected " ++ Text.lossyString k ++ " to be a table, not a " ++ e.kind.name)
        else walkHeader t i ks
      | none => walkHeader t i ks

end Tracker

mutual

/-- Checks a pair under the table `parent`. -/
def checkPair (t : Tracker) (parent : Nat) : List Bytes → Raw → Except String Tracker
  | [], _ => .ok t
  | [k], v => do
    match t.find parent k with
    | some _ => fault ("key " ++ Text.lossyString k ++ " is already defined")
    | none =>
      let (t, _) := t.create parent k .value false true
      checkValue t v
  | k :: ks, v => do
    match t.find parent k with
    | none =>
      let (t, i) := t.create parent k .table false true
      checkPair t i ks v
    | some i =>
      match t.entries[i]? with
      | some e =>
        if e.kind != .table then
          fault ("expected " ++ Text.lossyString k ++ " to be a table, not a " ++ e.kind.name)
        else if e.explicit then
          fault ("cannot redefine table " ++ Text.lossyString k ++ " that has already been explicitly defined")
        else checkPair t i ks v
      | none => checkPair t i ks v

def checkValue (t : Tracker) : Raw → Except String Tracker
  | .table entries => (fun _ => t) <$> checkEntries {} entries
  | .array items => checkItems t items
  | _ => .ok t

def checkItems (t : Tracker) : List Raw → Except String Tracker
  | [] => .ok t
  | v :: vs => do
    let t ← checkValue t v
    checkItems t vs

def checkEntries (t : Tracker) : List (List Bytes × Raw) → Except String Tracker
  | [] => .ok t
  | (k, v) :: es => do
    let t ← checkPair t 0 k v
    checkEntries t es

end

/-- Checks an expression against the keys met so far. -/
def Tracker.check (t : Tracker) : Expr → Except String Tracker
  | .keyValue k v => checkPair t t.current k v
  | .table k => do
    let t := t.settle t.current
    let (t, parent) ← t.walkHeader 0 k.dropLast
    let name := k.getLastD []
    match t.find parent name with
    | some i =>
      match t.entries[i]? with
      | some e =>
        if e.kind != .table then
          fault ("key " ++ Text.lossyString name ++ " should be a table, not a " ++ e.kind.name)
        else if e.explicit then fault ("table " ++ Text.lossyString name ++ " already exists")
        else .ok { t.update i (fun e => { e with explicit := true }) with current := i }
      | none => .ok t
    | none =>
      let (t, i) := t.create parent name .table true false
      .ok { t with current := i }
  | .arrayTable k => do
    let t := t.settle t.current
    let (t, parent) ← t.walkHeader 0 k.dropLast
    let name := k.getLastD []
    match t.find parent name with
    | some i =>
      match t.entries[i]? with
      | some e =>
        if e.kind != .arrayTable then
          fault ("key " ++ e.kind.name ++ " already exists as a " ++ Text.lossyString name ++
            ",  but should be an array table")
        else .ok { t.clear i with current := i }
      | none => .ok t
    | none =>
      let (t, i) := t.create parent name .arrayTable true false
      .ok { t with current := i }

/-! ## Decoding -/

/-- Removes the underscores of an integer's digits, each of which must stand between digits. -/
def integerDigits (b : Bytes) : Except String Bytes :=
  let start := match b with
    | 0x2B :: _ | 0x2D :: _ => 1
    | _ => 0
  if b.length == start then .ok b
  else if b[start]? == some 0x5F then fault "number cannot start with underscore"
  else if b.getLast? == some 0x5F then fault "number cannot end with underscore"
  else if !b.contains 0x5F then .ok b
  else
    let front := b.takeWhile (· != 0x5F)
    let rec go : Bytes → Bool → Bytes → Except String Bytes
      | [], _, acc => .ok (front ++ acc.reverse)
      | c :: rest, before, acc =>
        if c == 0x5F then
          if before then go rest false acc
          else fault "number must have at least one digit between underscores"
        else go rest true (c :: acc)
    go ((b.dropWhile (· != 0x5F)).drop 1) false []

def asText (b : Bytes) : String := Text.lossyString b

/-- Decodes an integer: a `0x`, `0b` or `0o` prefix names the base; a decimal integer has no
leading zero. -/
def decodeInteger (b : Bytes) : Except String Int :=
  let based (base : Nat) (name : String) : Except String Int := do
    let ds ← integerDigits (b.drop 2)
    match Text.parseInt (asText ds) base 64 with
    | .ok n => .ok n
    | .error e => fault ("couldn't parse " ++ name ++ " number: " ++ e)
  match b with
  | 0x30 :: 0x78 :: _ :: _ => based 16 "hexadecimal"
  | 0x30 :: 0x62 :: _ :: _ => based 2 "binary"
  | 0x30 :: 0x6F :: _ :: _ => based 8 "octal"
  | _ => do
    let ds ← integerDigits b
    let start := match ds with
      | 0x2B :: _ | 0x2D :: _ => 1
      | _ => 0
    if ds.length > start + 1 && ds[start]? == some 0x30 then
      fault "leading zero not allowed on decimal number"
    else match Text.parseInt (asText ds) 10 64 with
      | .ok n => .ok n
      | .error e => fault ("couldn't parse decimal number: " ++ e)

/-- Removes the underscores of a float, each of which must stand between digits. -/
def floatDigits (b : Bytes) : Except String Bytes :=
  if b.head? == some 0x5F then fault "number cannot start with underscore"
  else if b.getLast? == some 0x5F then fault "number cannot end with underscore"
  else if !b.contains 0x5F then .ok b
  else
    let rec go : Bytes → Option UInt8 → Bool → Bytes → Except String Bytes
      | [], _, _, acc => .ok acc.reverse
      | c :: rest, prev, before, acc =>
        let next := rest.head?
        if c == 0x5F then
          if !before then fault "number must have at least one digit between underscores"
          else if next == some 0x65 || next == some 0x45 then fault "cannot have underscore before exponent"
          else go rest (some c) false acc
        else if c == 0x2B || c == 0x2D then go rest (some c) false (c :: acc)
        else if c == 0x65 || c == 0x45 then
          if next == some 0x5F then fault "cannot have underscore after exponent"
          else go rest (some c) before (c :: acc)
        else if c == 0x2E then
          if next == some 0x5F then fault "cannot have underscore after decimal point"
          else if prev == some 0x5F then fault "cannot have underscore before decimal point"
          else go rest (some c) before (c :: acc)
        else go rest (some c) true (c :: acc)
    go b none false []

/-- Decodes a float: digits around a single point, no leading zeros, in range. -/
def decodeFloat (b : Bytes) : Except String Float := do
  if b.length == 4 && (b.head? == some 0x2B || b.head? == some 0x2D) && b.drop 1 == "nan".toUTF8.toList then
    return 0.0 / 0.0
  let ds ← floatDigits b
  if ds.head? == some 0x2E then fault "float cannot start with a dot"
  else if ds.getLast? == some 0x2E then fault "float cannot end with a dot"
  else
    let dots := (ds.zipIdx.filter (·.1 == 0x2E)).map (·.2)
    if dots.length > 1 then fault "float can have at most one decimal point"
    else if dots.any (fun i => !((ds[i - 1]?.map isDigit).getD false)) then
      fault "float decimal point must be preceded by a digit"
    else if dots.any (fun i => !((ds[i + 1]?.map isDigit).getD false)) then
      fault "float decimal point must be followed by a digit"
    else
      let start := match ds with
        | 0x2B :: _ | 0x2D :: _ => 1
        | _ => 0
      if ds[start]? == some 0x30 && (ds[start + 1]?.map isDigit).getD false then
        fault "float integer part cannot have leading zeroes"
      else match Binary64.parseChecked (asText ds) with
        | .ok x => return x
        | .error e => fault ("unable to parse float: " ++ e)

def digitsValue (b : Bytes) : Except String Nat :=
  if b.all isDigit then .ok (b.foldl (fun n d => n * 10 + (d.toNat - 0x30)) 0)
  else fault "expected digit (0-9)"

/-- A date `YYYY-MM-DD`: year, month and day of a real date. -/
def decodeDate (b : Bytes) : Except String (Nat × Nat × Nat) := do
  if b.length != 10 || b[4]? != some 0x2D || b[7]? != some 0x2D then
    fault "dates are expected to have the format YYYY-MM-DD"
  else
    let y ← digitsValue (b.take 4)
    let m ← digitsValue ((b.drop 5).take 2)
    let d ← digitsValue ((b.drop 8).take 2)
    if m > 0 && m < 13 && d > 0 && d ≤ Time.daysIn m y then return (y, m, d)
    else fault "impossible date"

/-- A time `HH:MM:SS[.fraction]`: hour, minute, second, nanoseconds, the digits of the
fraction kept (at most nine), and what follows. -/
def decodeTime (b : Bytes) : Except String (Nat × Nat × Nat × Nat × Nat × Bytes) := do
  if b.length < 8 then fault "times are expected to have the format HH:MM:SS[.NNNNNN]"
  else
    let h ← digitsValue (b.take 2)
    if h > 23 then fault "hour cannot be greater 23"
    else if b[2]? != some 0x3A then fault "expecting colon between hours and minutes"
    else
      let mi ← digitsValue ((b.drop 3).take 2)
      if mi > 59 then fault "minutes cannot be greater 59"
      else if b[5]? != some 0x3A then fault "expecting colon between minutes and seconds"
      else
        let s ← digitsValue ((b.drop 6).take 2)
        if s > 60 then fault "seconds cannot be greater 60"
        else
          let rest := b.drop 8
          match rest with
          | 0x2E :: more =>
            let digits := more.takeWhile isDigit
            if more.isEmpty then fault "nanoseconds need at least one digit"
            else if digits.isEmpty then fault "need at least one digit after fraction point"
            else
              let kept := digits.take 9
              let frac := kept.foldl (fun n d => n * 10 + (d.toNat - 0x30)) 0
              return (h, mi, s, frac * 10 ^ (9 - kept.length), kept.length, more.drop digits.length)
          | _ => return (h, mi, s, 0, 0, rest)

def timeText (h mi s nanos precision : Nat) : String :=
  Time.padded 2 h ++ ":" ++ Time.padded 2 mi ++ ":" ++ Time.padded 2 s ++
    (if precision > 0 then "." ++ String.ofList ((Time.padded 9 nanos).toList.take precision) else "")

/-- A local date and time: the date, the time and what follows. -/
def decodeLocalDateTime (b : Bytes) :
    Except String ((Nat × Nat × Nat) × (Nat × Nat × Nat × Nat × Nat) × Bytes) := do
  if b.length < 11 then
    fault "local datetimes are expected to have the format YYYY-MM-DDTHH:MM:SS[.NNNNNNNNN]"
  else
    let date ← decodeDate (b.take 10)
    let sep := b[10]?
    if sep != some 0x54 && sep != some 0x20 && sep != some 0x74 then
      fault "datetime separator is expected to be T or a space"
    else
      let (h, mi, s, ns, p, rest) ← decodeTime (b.drop 11)
      return (date, (h, mi, s, ns, p), rest)

/-- The text of a date or time value. -/
def decodeDateTime (kind : DateKind) (b : Bytes) : Except String String := do
  match kind with
  | .localDate =>
    let (y, m, d) ← decodeDate b
    return Time.padded 4 y ++ "-" ++ Time.padded 2 m ++ "-" ++ Time.padded 2 d
  | .localTime =>
    let (h, mi, s, ns, p, rest) ← decodeTime b
    if !rest.isEmpty then fault "extra characters at the end of a local time"
    else return timeText h mi s ns p
  | .localDateTime =>
    let ((y, m, d), (h, mi, s, ns, p), rest) ← decodeLocalDateTime b
    if !rest.isEmpty then fault "extra characters at the end of a local date time"
    else return Time.padded 4 y ++ "-" ++ Time.padded 2 m ++ "-" ++ Time.padded 2 d ++ "T" ++
      timeText h mi s ns p
  | .dateTime =>
    let ((y, m, d), (h, mi, s, ns, _), rest) ← decodeLocalDateTime b
    let (offset, rest) ← match rest with
      | 0x5A :: more | 0x7A :: more => pure ((0 : Int), more)
      | _ =>
        if rest.length != 6 then fault "invalid date-time timezone"
        else
          let sign : Int ← match rest.head? with
            | some 0x2D => pure (-1)
            | some 0x2B => pure 1
            | _ => fault "invalid timezone offset character"
          if rest[3]? != some 0x3A then fault "expected a : separator"
          else
            let hours ← digitsValue ((rest.drop 1).take 2)
            if hours > 23 then fault "invalid timezone offset hours"
            else
              let minutes ← digitsValue ((rest.drop 4).take 2)
              if minutes > 59 then fault "invalid timezone offset minutes"
              else pure (sign * ((hours * 3600 + minutes * 60 : Nat) : Int), rest.drop 6)
    if !rest.isEmpty then fault "extra bytes at the end of the timezone"
    else
      let reading : Time.Reading :=
        { year := y, month := m, day := d, hour := h, minute := mi, second := s, nanos := ns,
          offset, zone := if offset == 0 then "UTC" else "" }
      return reading.normalize.render

/-- Sets `path` in a map, creating maps on the way and going into the last element of a list
of tables; `f` makes the new value at the end from the old one. -/
def modifyAt (f : Option Value → Value) : Value → List String → Value
  | v, [] => f (some v)
  | .map ms, [k] => .map (setMember ms k (f (member ms k)))
  | .map ms, k :: ks =>
    let inner := match member ms k with
      | some (.list items) =>
        match items.getLast? with
        | some last => .list (items.dropLast ++ [modifyAt f last ks])
        | none => .list []
      | some (.map m) => modifyAt f (.map m) ks
      | _ => modifyAt f (.map []) ks
    .map (setMember ms k inner)
  | v, _ => v
where
  member (ms : List (String × Value)) (k : String) : Option Value := (ms.find? (·.1 == k)).map (·.2)
  setMember (ms : List (String × Value)) (k : String) (v : Value) : List (String × Value) :=
    if ms.any (·.1 == k) then ms.map fun (k', v') => if k' == k then (k', v) else (k', v')
    else ms ++ [(k, v)]

def keyNames (k : List Bytes) : List String := k.map Text.lossyString

mutual

/-- Decodes a value. -/
def decode : Raw → Except String Value
  | .text s => .ok (.text (Text.lossyString s))
  | .bool b => .ok (.bool b)
  | .integer t => .int64 <$> decodeInteger t
  | .float t => .float <$> decodeFloat t
  | .date kind t => .date <$> decodeDateTime kind t
  | .array items => .list <$> decodeItems items
  | .table entries => decodeEntries (.map []) entries

def decodeItems : List Raw → Except String (List Value)
  | [] => .ok []
  | v :: vs => do
    let x ← decode v
    let xs ← decodeItems vs
    return x :: xs

def decodeEntries (acc : Value) : List (List Bytes × Raw) → Except String Value
  | [] => .ok acc
  | (k, v) :: es => do
    let x ← decode v
    decodeEntries (modifyAt (fun _ => x) acc (keyNames k)) es

end

/-- The document after an expression, with the path of the table pairs go into. -/
def apply (doc : Value) (current : List String) : Expr → Except String (Value × List String)
  | .keyValue k v => do
    let x ← decode v
    return (modifyAt (fun _ => x) doc (current ++ keyNames k), current)
  | .table k =>
    let path := keyNames k
    .ok (modifyAt (fun
      | some (.map m) => .map m
      | some (.list items) => .list items
      | _ => .map []) doc path, path)
  | .arrayTable k =>
    let path := keyNames k
    .ok (modifyAt (fun
      | some (.list items) => .list (items ++ [.map []])
      | _ => .list [.map []]) doc path, path)

/-- Reads the expressions of a document one by one, each after a line break but the first,
checking and applying each before reading the next. -/
def expressions : Nat → Bytes → Bool → Tracker → Value → List String → Except String Value
  | 0, _, _, _, doc, _ => .ok doc
  | fuel + 1, b, first, t, doc, current => do
    if b.isEmpty then return doc
    let b ← if first then pure b else newline b
    if b.isEmpty then return doc
    let (e, rest) ← expression b
    match e with
    | none => expressions fuel rest false t doc current
    | some e =>
      let t ← t.check e
      let (doc, current) ← apply doc current e
      expressions fuel rest false t doc current

/-- Reads a TOML document into settings. -/
def parse (text : String) : Except String (List (String × Value)) := do
  let b := text.toUTF8.toList
  match ← expressions (b.length + 2) b true {} (.map []) [] with
  | .map ms => return ms
  | _ => return []

end FlashArb.Settings.Toml
