import FlashArb.Text.Utf8
import FlashArb.Text.Quoted

/-! Dotenv files: one variable assignment per line. -/
namespace FlashArb.Settings

def isLineBlank (b : UInt8) : Bool :=
  b == 0x09 || b == 0x0B || b == 0x0C || b == 0x0D || b == 0x20 || b == 0x85 || b == 0xA0

def isAnyBlank (b : UInt8) : Bool := isLineBlank b || b == 0x0A

/-- Whether a byte, read as a character of the first 256 code points, is a letter or a number. -/
def isNameByte (b : UInt8) : Bool :=
  let n := b.toNat
  (0x30 ≤ n && n ≤ 0x39) || (0x41 ≤ n && n ≤ 0x5A) || (0x61 ≤ n && n ≤ 0x7A) ||
    n == 0xAA || n == 0xB5 || n == 0xBA || n == 0xB2 || n == 0xB3 || n == 0xB9 ||
    (0xBC ≤ n && n ≤ 0xBE) || (0xC0 ≤ n && n ≤ 0xFF && n != 0xD7 && n != 0xF7)

def textOfBytes (b : Bytes) : String := Text.lossyString b

/-- What a reference takes after its `$`: an optional `(`, an optional `{`, a name of capitals,
digits and `_`, and an optional `}`. -/
def variableRef (cs : List Char) : List Char × List Char :=
  let (p, cs) := match cs with | '(' :: r => (['('], r) | r => ([], r)
  let (b, cs) := match cs with | '\x7b' :: r => (['\x7b'], r) | r => ([], r)
  let name := cs.takeWhile fun c => ('A' ≤ c && c ≤ 'Z') || c.isDigit || c == '_'
  let cs := cs.drop name.length
  let (e, cs) := match cs with | '\x7d' :: r => (['\x7d'], r) | r => ([], r)
  (p ++ b ++ name ++ e, cs)

/-- Expands `$NAME`, `${NAME}` and `\$` from the variables assigned so far, within `fuel`
steps (the text's length suffices). -/
def expandWithin (vars : List (String × String)) : Nat → List Char → List Char
  | 0, cs => cs
  | _ + 1, [] => []
  | fuel + 1, '\\' :: '$' :: rest =>
    let (body, after) := variableRef rest
    '$' :: body ++ expandWithin vars fuel after
  | fuel + 1, '$' :: rest =>
    let (body, after) := variableRef rest
    let name := String.ofList (body.filter fun c => ('A' ≤ c && c ≤ 'Z') || c.isDigit || c == '_')
    if name.isEmpty then '$' :: body ++ expandWithin vars fuel after
    else ((vars.lookup name).getD "").toList ++ expandWithin vars fuel after
  | fuel + 1, c :: rest => c :: expandWithin vars fuel rest

def expandVariables (vars : List (String × String)) (cs : List Char) : List Char :=
  expandWithin vars cs.length cs

/-- Turns `\n` and `\r` into line breaks and drops a backslash before anything but `$`. -/
def expandEscapes : List Char → List Char
  | '\\' :: 'n' :: rest => '\n' :: expandEscapes rest
  | '\\' :: 'r' :: rest => '\r' :: expandEscapes rest
  | '\\' :: c :: rest => if c == '$' then '\\' :: '$' :: expandEscapes rest else c :: expandEscapes rest
  | c :: rest => c :: expandEscapes rest
  | [] => []

def isLineBlankChar (c : Char) : Bool := c.toNat < 256 && isLineBlank (UInt8.ofNat c.toNat)

/-- Drops the leading characters that satisfy `p`; an invalid byte stops the dropping. -/
def dropCharsWhile (p : Char → Bool) (src : Bytes) : Bytes :=
  go src.length src
where
  go : Nat → Bytes → Bytes
    | 0, bs => bs
    | fuel + 1, bs =>
      match Text.decodeRune bs with
      | some (c, w) => if p c then go fuel (bs.drop w) else bs
      | none => bs

/-- Drops the trailing characters that satisfy `p`; an invalid byte stops the dropping. -/
def dropEndCharsWhile (p : Char → Bool) (src : Bytes) : Bytes :=
  let kept := ((Text.runes src).reverse.dropWhile fun
    | .inl c => p c
    | .inr _ => false).reverse
  kept.flatMap fun
    | .inl c => c.toString.toUTF8.toList
    | .inr b => [b]

/-- Skips blank lines and comment lines to the start of the next statement. -/
def statementStart (fuel : Nat) (src : Bytes) : Option Bytes :=
  match fuel with
  | 0 => none
  | fuel + 1 =>
    let src := dropCharsWhile Text.isSpace src
    match src with
    | [] => none
    | 0x23 :: _ =>
      match src.findIdx? (· == 0x0A) with
      | some i => statementStart fuel (src.drop i)
      | none => none
    | _ => some src

/-- Reads a statement's name up to its `=` or `:`, returning the name and what follows. -/
def keyName (src : Bytes) : Except String (String × Bytes) :=
  let src := dropCharsWhile isLineBlankChar src
  let src :=
    if src.take 6 == "export".toUTF8.toList then
      let after := src.drop 6
      match Text.decodeRune after with
      | some (c, _) => if isLineBlankChar c then dropCharsWhile isLineBlankChar after else src
      | none => src
    else src
  let rec scan : Bytes → Nat → Except String (Option Nat)
    | [], _ => .ok none
    | b :: rest, i =>
      if isLineBlank b then scan rest (i + 1)
      else if b == 0x3D || b == 0x3A then .ok (some i)
      else if b == 0x5F || b == 0x2E || isNameByte b then scan rest (i + 1)
      else .error ("unexpected character " ++ Text.quote (Char.ofNat b.toNat).toString ++
        " in variable name near " ++ Text.quote (textOfBytes src))
  match scan src 0 with
  | .error e => .error e
  | .ok found =>
    if src.isEmpty then .error "zero length string"
    else
      let (key, offset) := match found with
        | some i => (src.take i, i + 1)
        | none => ([], 0)
      .ok (textOfBytes (dropEndCharsWhile Text.isSpace key),
        dropCharsWhile isLineBlankChar (src.drop offset))

def closingQuote (q : UInt8) (src : Bytes) : Option Nat :=
  (List.range src.length).find? fun i =>
    i ≥ 1 && src[i]? == some q && src[i - 1]? != some 0x5C

/-- Reads a statement's value, returning it and the rest of the file. -/
def statementValue (vars : List (String × String)) (src : Bytes) : Except String (String × Bytes) :=
  match src.head? with
  | some q =>
    if q == 0x22 || q == 0x27 then
      match closingQuote q src with
      | some i =>
        let inner := ((src.take i).dropWhile (· == q)).reverse.dropWhile (· == q) |>.reverse
        let text := textOfBytes inner
        let value := if q == 0x22 then
            String.ofList (expandVariables vars (expandEscapes text.toList))
          else text
        .ok (value, src.drop (i + 1))
      | none =>
        let line := src.takeWhile (· != 0x0A)
        .error ("unterminated quoted value " ++ textOfBytes line)
    else unquoted
  | none => unquoted
where
  /-- A value up to the end of its line. -/
  unquoted : Except String (String × Bytes) :=
    let lineBytes := src.takeWhile fun b => b != 0x0A && b != 0x0D
    let rest := src.drop lineBytes.length
    let chars := (textOfBytes lineBytes).toList
    if chars.isEmpty then .ok ("", rest)
    else
      let cut := ((List.range chars.length).reverse.find? fun i =>
        chars[i]? == some '#' && i > 0 &&
          ((chars[i - 1]?.map isLineBlankChar).getD false))
      let body := chars.take (cut.getD chars.length)
      let trimmed := ((body.dropWhile isLineBlankChar).reverse.dropWhile isLineBlankChar).reverse
      .ok (String.ofList (expandVariables vars trimmed), rest)

/-- Reads the assignments of a dotenv file in order; a later assignment of a name replaces an
earlier one. A reference expands from the names the file assigned before it. -/
def parseDotenv (text : String) : Except String (List (String × String)) :=
  let src := (text.replace "\r\n" "\n").toUTF8.toList
  go (src.length + 1) src []
where
  go : Nat → Bytes → List (String × String) → Except String (List (String × String))
    | 0, _, acc => .ok acc
    | fuel + 1, src, acc =>
      match statementStart (src.length + 1) src with
      | none => .ok acc
      | some start =>
        match keyName start with
        | .error e => .error e
        | .ok (key, afterKey) =>
          match statementValue acc afterKey with
          | .error e => .error e
          | .ok (value, rest) => go fuel rest ((key, value) :: acc.filter (·.1 != key))

end FlashArb.Settings
