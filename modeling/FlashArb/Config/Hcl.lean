import FlashArb.Config.Sources
import FlashArb.Text.Letters
import FlashArb.Text.Utf8
import FlashArb.Float.Text

/-! An HCL file is a list of items. -/
namespace FlashArb.Settings.Hcl

/-! ## Tokens -/

/-- The kinds of tokens. -/
inductive Kind where
  | illegal
  | eof
  | comment
  | ident
  | number
  | float
  | bool
  | string
  | heredoc
  | lbrack
  | rbrack
  | lbrace
  | rbrace
  | comma
  | period
  | assign
  | add
  | sub
deriving DecidableEq

/-- The name a fault gives a kind. -/
def Kind.name : Kind → String
  | .illegal => "ILLEGAL"
  | .eof => "EOF"
  | .comment => "COMMENT"
  | .ident => "IDENT"
  | .number => "NUMBER"
  | .float => "FLOAT"
  | .bool => "BOOL"
  | .string => "STRING"
  | .heredoc => "HEREDOC"
  | .lbrack => "LBRACK"
  | .rbrack => "RBRACK"
  | .lbrace => "LBRACE"
  | .rbrace => "RBRACE"
  | .comma => "COMMA"
  | .period => "PERIOD"
  | .assign => "ASSIGN"
  | .add => "ADD"
  | .sub => "SUB"

/-- A position: line and column, from 1; line 0 for none. -/
structure Pos where
  line : Nat
  column : Nat

def Pos.shown (p : Pos) : String :=
  if p.line > 0 then toString p.line ++ ":" ++ toString p.column else "-"

def Pos.fault (p : Pos) (msg : String) : String := "At " ++ p.shown ++ ": " ++ msg

/-- A token: its kind, where it starts and its text. -/
structure Token where
  kind : Kind
  pos : Pos
  text : String
  json : Bool := false

def Token.shown (t : Token) : String := t.pos.shown ++ " " ++ t.kind.name ++ " " ++ t.text

/-! ## Scanning -/

/-- The scanner: the characters left and those before the last read (to step back), where it
stands, and the last fault met. -/
structure Scanner where
  rest : List Char
  before : List Char := []
  line : Nat := 1
  column : Nat := 0
  lastLineLen : Nat := 0
  lastCharLen : Nat := 0
  prevLine : Nat := 1
  prevColumn : Nat := 0
  fault : Option String := none
  /-- Whether the text is in the JSON syntax, where a NUL ends the text without a fault and
  faults are shown without `At`. -/
  json : Bool := false

namespace Scanner

def recent (s : Scanner) : Pos :=
  if s.column > 0 then ⟨s.line, s.column⟩
  else if s.lastLineLen > 0 then ⟨s.line - 1, s.lastLineLen⟩
  else ⟨1, 1⟩

def err (s : Scanner) (msg : String) : Scanner :=
  { s with fault := some (if s.json then s.recent.shown ++ ": " ++ msg else s.recent.fault msg) }

/-- Reads a character; `none` at the end (which still moves the column) and for a NUL. -/
def next (s : Scanner) : Option Char × Scanner :=
  match s.rest with
  | [] => (none, { s with column := s.column + 1, lastCharLen := 0 })
  | c :: r =>
    let s := { s with before := s.rest, rest := r, prevLine := s.line, prevColumn := s.column,
                      column := s.column + 1, lastCharLen := c.utf8Size }
    let s := if c == '\n' then { s with line := s.line + 1, lastLineLen := s.column, column := 0 } else s
    if c == '\x00' then (none, if s.json then s else s.err "unexpected null character (0x00)")
    else if c == '\uE123' && !s.json then (some '\uFFFD', s.err "unicode code point U+E123 reserved for internal use")
    else (some c, s)

def unread (s : Scanner) : Scanner :=
  { s with rest := s.before, line := s.prevLine, column := s.prevColumn }

def peek (s : Scanner) : Option Char := s.rest.head?

end Scanner

def isLetter : Option Char → Bool
  | some c => ('a' ≤ c && c ≤ 'z') || ('A' ≤ c && c ≤ 'Z') || c == '_' || (c.toNat ≥ 0x80 && Text.isLetter c)
  | none => false

def isDigit : Option Char → Bool
  | some c => ('0' ≤ c && c ≤ '9') || (c.toNat ≥ 0x80 && Text.isDecimalDigit c)
  | none => false

def isDecimal : Option Char → Bool
  | some c => '0' ≤ c && c ≤ '9'
  | none => false

def isHexadecimal : Option Char → Bool
  | some c => ('0' ≤ c && c ≤ '9') || ('a' ≤ c && c ≤ 'f') || ('A' ≤ c && c ≤ 'F')
  | none => false

def isWhitespace : Option Char → Bool
  | some c => c == ' ' || c == '\t' || c == '\n' || c == '\r'
  | none => false

def isChar (ch : Option Char) (c : Char) : Bool := ch == some c

/-- The value of a digit, 16 for anything else. -/
def digitVal : Option Char → Nat
  | some c =>
    if '0' ≤ c && c ≤ '9' then c.toNat - '0'.toNat
    else if 'a' ≤ c && c ≤ 'f' then c.toNat - 'a'.toNat + 10
    else if 'A' ≤ c && c ≤ 'F' then c.toNat - 'A'.toNat + 10
    else 16
  | none => 16

/-- Reads characters while `p` holds of the one read, within `fuel` steps; returns the first
that fails and whether any held. -/
def readWhile (p : Option Char → Bool) : Nat → Option Char → Bool → Scanner → Option Char × Bool × Scanner
  | 0, ch, any, s => (ch, any, s)
  | fuel + 1, ch, any, s =>
    if p ch then
      let (ch, s) := s.next
      readWhile p fuel ch true s
    else (ch, any, s)

def scanMantissa (ch : Option Char) (s : Scanner) : Option Char × Scanner :=
  let (ch, scanned, s) := readWhile isDecimal (s.rest.length + 1) ch false s
  (ch, if scanned && ch.isSome then s.unread else s)

def scanFraction (ch : Option Char) (s : Scanner) : Option Char × Scanner :=
  if isChar ch '.' then scanMantissa s.peek s else (ch, s)

/-- Reads an exponent after its `e`: a sign and digits. -/
def scanExponent (ch : Option Char) (s : Scanner) : Option Char × Scanner :=
  if isChar ch 'e' || isChar ch 'E' then
    let (ch, s) := s.next
    let (ch, s) := if isChar ch '-' || isChar ch '+' then s.next else (ch, s)
    scanMantissa ch s
  else (ch, s)

/-- Reads a number whose first digit `ch` was read: an integer (decimal, octal or
hexadecimal) or a float. -/
def scanNumber (ch : Option Char) (s : Scanner) : Kind × Scanner :=
  let fuel := s.rest.length + 1
  if isChar ch '0' then
    let (ch, s) := s.next
    if isChar ch 'x' || isChar ch 'X' then
      let (ch, s) := s.next
      let (ch, found, s) := readWhile isHexadecimal fuel ch false s
      let s := if found then s else s.err "illegal hexadecimal number"
      (.number, if ch.isSome then s.unread else s)
    else
      let rec octal : Nat → Option Char → Bool → Scanner → Option Char × Bool × Scanner
        | 0, ch, bad, s => (ch, bad, s)
        | fuel + 1, ch, bad, s =>
          if isDecimal ch then
            let (ch, s) := s.next
            octal fuel ch (bad || isChar ch '8' || isChar ch '9') s
          else (ch, bad, s)
      let (ch, illegal, s) := octal fuel ch false s
      if isChar ch 'e' || isChar ch 'E' then (.float, (scanExponent ch s).2)
      else if isChar ch '.' then
        let (ch, s) := scanFraction ch s
        if isChar ch 'e' || isChar ch 'E' then
          let (ch, s) := s.next
          (.float, (scanExponent ch s).2)
        else (.float, s)
      else
        let s := if illegal then s.err "illegal octal number" else s
        (.number, if ch.isSome then s.unread else s)
  else
    let (_, s) := scanMantissa ch s
    let (ch, s) := s.next
    if isChar ch 'e' || isChar ch 'E' then (.float, (scanExponent ch s).2)
    else if isChar ch '.' then
      let (ch, s) := scanFraction ch s
      if isChar ch 'e' || isChar ch 'E' then
        let (ch, s) := s.next
        (.float, (scanExponent ch s).2)
      else (.float, s)
    else (.number, if ch.isSome then s.unread else s)

/-- Reads `n` digits of `base` from `ch` on, noting a fault when fewer stand there. -/
def scanDigits (ch : Option Char) (base n : Nat) (s : Scanner) : Scanner :=
  let rec go : Nat → Option Char → Scanner → Option Char × Nat × Scanner
    | 0, ch, s => (ch, 0, s)
    | k + 1, ch, s =>
      if digitVal ch < base then
        let (ch, s) := s.next
        if ch.isNone then (ch, k + 1, s) else go k ch s
      else (ch, k + 1, s)
  let (ch, left, s) := go n ch s
  let s := if left > 0 then s.err "illegal char escape" else s
  if left != n && ch.isSome then s.unread else s

/-- Reads an escape after its backslash. -/
def scanEscape (s : Scanner) : Scanner :=
  let (ch, s) := s.next
  match ch with
  | some 'a' | some 'b' | some 'f' | some 'n' | some 'r' | some 't' | some 'v' | some '\\'
  | some '"' => s
  | some '0' | some '1' | some '2' | some '3' | some '4' | some '5' | some '6' | some '7' =>
    scanDigits ch 8 3 s
  | some 'x' => let (c, s) := s.next; scanDigits c 16 2 s
  | some 'u' => let (c, s) := s.next; scanDigits c 16 4 s
  | some 'U' => let (c, s) := s.next; scanDigits c 16 8 s
  | _ => s.err "illegal char escape"

/-- Reads a string after its opening quote, up to the closing one; quotes inside `${ }` do
not close it. -/
def scanString : Nat → Nat → Scanner → Scanner
  | 0, _, s => s
  | fuel + 1, braces, s =>
    let (ch, s) := s.next
    if (isChar ch '\n' && braces == 0) || ch.isNone then s.err "literal not terminated"
    else if isChar ch '"' && braces == 0 then s
    else
      let (braces, s) :=
        if braces == 0 && isChar ch '$' && s.peek == some '\x7b' then (braces + 1, s.next.2)
        else if braces > 0 && isChar ch '\x7b' then (braces + 1, s)
        else (braces, s)
      let braces := if braces > 0 && isChar ch '\x7d' then braces - 1 else braces
      let s := if isChar ch '\\' then scanEscape s else s
      scanString fuel braces s

/-- Reads a comment whose first character `ch` was read. -/
def scanComment (ch : Option Char) (s : Scanner) : Scanner :=
  if isChar ch '#' || (isChar ch '/' && s.peek != some '*') then
    if isChar ch '/' && s.peek != some '/' then s.err "expected '/' for comment"
    else
      let (ch, s) := s.next
      let (ch, _, s) := readWhile (fun c => !(isChar c '\n') && c.isSome) (s.rest.length + 1) ch false s
      if ch.isSome then s.unread else s
  else
    let (ch, s) := if isChar ch '/' then s.next.2.next else (ch, s)
    let rec block : Nat → Option Char → Scanner → Scanner
      | 0, _, s => s
      | fuel + 1, ch, s =>
        if ch.isNone then s.err "comment not terminated"
        else
          let (next, s) := s.next
          if isChar ch '*' && isChar next '/' then s else block fuel next s
    block (s.rest.length + 2) ch s

/-- Whether a line closes a heredoc: blanks, the anchor, and carriage returns. -/
def closesHeredoc (anchor : List Char) (line : List Char) : Bool :=
  let isSpace (c : Char) : Bool := c == ' ' || c == '\t' || c == '\n' || c == '\x0b' || c == '\x0c' || c == '\r'
  (List.range (line.length + 1)).any fun i =>
    (line.take i).all isSpace && (line.drop i).take anchor.length == anchor &&
      (line.drop (i + anchor.length)).all (· == '\r') && i + anchor.length ≤ line.length

def byteLength (cs : List Char) : Nat := (cs.map Char.utf8Size).sum

/-- Reads a heredoc after its first `<`: the anchor line, then lines up to one that closes it. -/
def scanHeredoc (s : Scanner) : Scanner :=
  let (c, s) := s.next
  if !(isChar c '<') then s.err "heredoc expected second '<', didn't see it"
  else
    let start := s.rest
    let (ch, s) := s.next
    let (ch, s) := if isChar ch '-' then s.next else (ch, s)
    let (ch, _, s) := readWhile (fun c => isLetter c || isDigit c) (s.rest.length + 1) ch false s
    if ch.isNone then s.err "heredoc not terminated"
    else if !(isChar ch '\n') then s.err "invalid characters in heredoc anchor"
    else
      let ident := start.take (start.length - s.rest.length - 1)
      if ident.isEmpty || ident == ['-'] then s.err "zero-length heredoc anchor"
      else
        let anchor := if ident.head? == some '-' then ident.drop 1 else ident
        let rec lines : Nat → List Char → Scanner → Scanner
          | 0, _, s => s
          | fuel + 1, line, s =>
            let (ch, s) := s.next
            if isChar ch '\n' then
              let l := line.reverse
              if byteLength l ≥ byteLength ident && closesHeredoc anchor l then s
              else lines fuel [] s
            else if ch.isNone then s.err "heredoc not terminated"
            else lines fuel (ch.getD ' ' :: line) s
        lines (s.rest.length + 1) [] s

/-- Reads the next token. -/
def Scanner.scan (s : Scanner) : Token × Scanner :=
  let (ch, s) := s.next
  let (ch, _, s) := readWhile isWhitespace (s.rest.length + 1) ch false s
  let start := if s.lastCharLen > 0 then s.before else s.rest
  let pos : Pos := if s.column > 0 then ⟨s.line, s.column⟩ else ⟨s.line - 1, s.lastLineLen⟩
  let (kind, s) : Kind × Scanner :=
    if isLetter ch then
      let (c, _, s) := readWhile (fun c => isLetter c || isDigit c || isChar c '-' || isChar c '.')
        (s.rest.length + 1) (s.next.1) false s.next.2
      let s := if c.isSome then s.unread else s
      let text := start.take (start.length - s.rest.length)
      (if text == "true".toList || text == "false".toList then .bool else .ident, s)
    else if isDecimal ch then scanNumber ch s
    else match ch with
      | none => (.eof, s)
      | some '"' => (.string, scanString (s.rest.length + 1) 0 s)
      | some '#' | some '/' => (.comment, scanComment ch s)
      | some '.' =>
        if isDecimal s.peek then
          let (c, s) := scanMantissa s.peek s
          (.float, (scanExponent c s).2)
        else (.period, s)
      | some '<' => (.heredoc, scanHeredoc s)
      | some '[' => (.lbrack, s)
      | some ']' => (.rbrack, s)
      | some '\x7b' => (.lbrace, s)
      | some '\x7d' => (.rbrace, s)
      | some ',' => (.comma, s)
      | some '=' => (.assign, s)
      | some '+' => (.add, s)
      | some '-' =>
        if isDecimal s.peek then
          let (c, s) := s.next
          scanNumber c s
        else (.sub, s)
      | _ => (.illegal, s.err "illegal char")
  ({ kind, pos, text := String.ofList (start.take (start.length - s.rest.length)) }, s)

/-! ## Parsing -/

mutual

/-- A node of the syntax tree. -/
inductive Node where
  | literal (tok : Token)
  | list (pos : Pos) (items : List Node)
  | object (pos : Pos) (items : List Entry)
  | entries (items : List Entry)
  | entry (e : Entry)

/-- An item: its keys and its value. -/
inductive Entry where
  | mk (keys : List Token) (value : Node)

end

def Entry.keys : Entry → List Token
  | .mk keys _ => keys

def Entry.value : Entry → Node
  | .mk _ value => value

/-- A parse fault: the end of the document where an item was expected, or a fault message. -/
inductive Fault where
  | eof
  | text (msg : String)

def Fault.shown : Fault → String
  | .eof => "EOF"
  | .text msg => msg

/-- The parser: the scanner, the current token, and whether that token was stepped back over. -/
structure Parser where
  scanner : Scanner
  tok : Token
  buffered : Bool := false

/-- Reads the next token, skipping comments; a token stepped back over is read again. -/
def Parser.scan (p : Parser) : Token × Parser :=
  if p.buffered then (p.tok, { p with buffered := false })
  else
    let rec skip : Nat → Token × Scanner → Token × Scanner
      | 0, r => r
      | fuel + 1, (t, s) => if t.kind == .comment then skip fuel s.scan else (t, s)
    let (t, s) := skip (p.scanner.rest.length + 1) p.scanner.scan
    (t, { p with scanner := s, tok := t })

def Parser.unscan (p : Parser) : Parser := { p with buffered := true }

/-- Reads the keys of an item, up to `=` or `{`; the keys read so far come with any fault. -/
def objectKey : Nat → List Token → Parser → (List Token × Option Fault) × Parser
  | 0, keys, p => ((keys, some .eof), p)
  | fuel + 1, keys, p =>
    let (tok, p) := p.scan
    match tok.kind with
    | .eof => ((keys, some .eof), p)
    | .assign =>
      if keys.length > 1 then
        (([], some (.text (tok.pos.fault "nested object expected: LBRACE got: ASSIGN"))), p)
      else if keys.isEmpty then (([], some (.text (tok.pos.fault "no object keys found!"))), p)
      else ((keys, none), p)
    | .lbrace =>
      if keys.isEmpty then ((keys, some (.text (tok.pos.fault "expected: IDENT | STRING got: LBRACE"))), p)
      else ((keys, none), p)
    | .ident | .string => objectKey fuel (keys ++ [tok]) p
    | .illegal => ((keys, some (.text (tok.pos.fault "illegal character"))), p)
    | k => ((keys, some (.text (tok.pos.fault ("expected: IDENT | STRING | ASSIGN | LBRACE got: " ++ k.name)))), p)

mutual

/-- Reads items up to the end, or up to `}` inside an object; returns those read and the
fault that stopped the reading, if any. -/
def objectList : Nat → Bool → List Entry → Parser → (List Entry × Option Fault) × Parser
  | 0, _, items, p => ((items, none), p)
  | fuel + 1, inObject, items, p =>
    let (stop, p) := if inObject then
        let (tok, p) := p.scan
        (tok.kind == .rbrace, p.unscan)
      else (false, p)
    if stop then ((items, none), p)
    else
      match objectItem fuel p with
      | (.error .eof, p) => ((items, none), p)
      | (.error f, p) => ((items, some f), p)
      | (.ok e, p) =>
        let (tok, p) := p.scan
        let p := if tok.kind != .comma then p.unscan else p
        objectList fuel inObject (items ++ [e]) p

/-- Reads an item: its keys, then `=` and a value or a block. -/
def objectItem : Nat → Parser → Except Fault Entry × Parser
  | 0, p => (.error .eof, p)
  | fuel + 1, p =>
    let ((keys, err), p) := objectKey (p.scanner.rest.length + 2) [] p
    let err := if !keys.isEmpty && (match err with | some .eof => true | _ => false) then none else err
    let (err, p) :=
      if !keys.isEmpty && err.isSome && p.tok.kind == .rbrace then (none, { p with tok := { p.tok with kind := .eof } })
      else (err, p)
    match err with
    | some f => (.error f, p)
    | none =>
      let value : Except Fault Node × Parser :=
        match p.tok.kind with
        | .assign => object fuel p
        | .lbrace => objectType fuel p
        | _ =>
          (.error (.text (p.tok.pos.fault ("key '" ++ " ".intercalate (keys.map (·.text)) ++
            "' expected start of object ('\x7b') or assignment ('=')"))), p)
      match value with
      | (.error f, p) => (.error f, p)
      | (.ok v, p) => (.ok (.mk keys v), p.scan.2.unscan)

/-- Reads a value after `=`. -/
def object : Nat → Parser → Except Fault Node × Parser
  | 0, p => (.error .eof, p)
  | fuel + 1, p =>
    let (tok, p) := p.scan
    match tok.kind with
    | .number | .float | .bool | .string | .heredoc => (.ok (.literal tok), p)
    | .lbrace => objectType fuel p
    | .lbrack => listType fuel tok.pos false [] p
    | .eof => (.error .eof, p)
    | _ => (.error (.text (tok.pos.fault ("Unknown token: " ++ tok.shown))), p)

/-- Reads an object after its `{`. -/
def objectType : Nat → Parser → Except Fault Node × Parser
  | 0, p => (.error .eof, p)
  | fuel + 1, p =>
    let lbrace := p.tok.pos
    let ((items, err), p) := objectList fuel true [] p
    match err with
    | some f =>
      if p.tok.kind != .rbrace then (.error f, p) else closing lbrace items p
    | none => closing lbrace items p
where
  closing (lbrace : Pos) (items : List Entry) (p : Parser) : Except Fault Node × Parser :=
    let (tok, p) := p.scan
    if tok.kind != .rbrace then
      (.error (.text (tok.pos.fault ("object expected closing RBRACE got: " ++ tok.kind.name))), p)
    else (.ok (.object lbrace items), p)

/-- Reads the rest of a list after its `[` at `lbrack`; `needComma` tells whether an item was
just read. -/
def listType : Nat → Pos → Bool → List Node → Parser → Except Fault Node × Parser
  | 0, _, _, _, p => (.error .eof, p)
  | fuel + 1, lbrack, needComma, items, p =>
    let (tok, p) := p.scan
    if needComma && tok.kind != .comma && tok.kind != .rbrack then
      (.error (.text (tok.pos.fault ("error parsing list, expected comma or list end, got: " ++ tok.kind.name))), p)
    else match tok.kind with
      | .bool | .number | .float | .string | .heredoc => listType fuel lbrack true (items ++ [.literal tok]) p
      | .comma => listType fuel lbrack false items p.scan.2.unscan
      | .lbrace =>
        match objectType fuel p with
        | (.error f, p) =>
          (.error (.text (tok.pos.fault ("error while trying to parse object within list: " ++ f.shown))), p)
        | (.ok n, p) => listType fuel lbrack true (items ++ [n]) p
      | .lbrack =>
        match listType fuel tok.pos false [] p with
        | (.error f, p) =>
          (.error (.text (tok.pos.fault ("error while trying to parse list within list: " ++ f.shown))), p)
        | (.ok n, p) => listType fuel lbrack needComma (items ++ [n]) p
      | .rbrack => (.ok (.list lbrack items), p)
      | k => (.error (.text (tok.pos.fault ("unexpected token while parsing list: " ++ k.name))), p)

end

/-! ## Values of tokens -/

/-- The bytes a string escape stands for, from the text after its backslash: the bytes and
the rest, or `none` for a bad escape. -/
def unquoteEscape (s : List Char) : Option (List UInt8 × List Char) :=
  let hexValue (ds : List Char) : Option Nat :=
    if ds.all (fun c => isHexadecimal (some c)) then some (ds.foldl (fun n c => n * 16 + digitVal (some c)) 0)
    else none
  match s with
  | c :: rest =>
    match c with
    | 'a' => some ([7], rest)
    | 'b' => some ([8], rest)
    | 'f' => some ([12], rest)
    | 'n' => some ([10], rest)
    | 'r' => some ([13], rest)
    | 't' => some ([9], rest)
    | 'v' => some ([11], rest)
    | '\\' => some ([0x5C], rest)
    | '"' => some ([0x22], rest)
    | 'x' =>
      if rest.length < 2 then none
      else (hexValue (rest.take 2)).map fun v => ([v.toUInt8], rest.drop 2)
    | 'u' | 'U' =>
      let n := if c == 'u' then 4 else 8
      if rest.length < n then none
      else match hexValue (rest.take n) with
        | some v =>
          if v > 0x10FFFF || (0xD800 ≤ v && v < 0xE000) then none
          else some ((Char.ofNat v).toString.toUTF8.toList, rest.drop n)
        | none => none
    | _ =>
      if '0' ≤ c && c ≤ '7' then
        let ds := rest.take 2
        if ds.length < 2 || !(ds.all fun d => '0' ≤ d && d ≤ '7') then none
        else
          let v := ds.foldl (fun n d => n * 8 + (d.toNat - '0'.toNat)) (c.toNat - '0'.toNat)
          if v > 255 then none else some ([v.toUInt8], rest.drop 2)
      else none
  | [] => none

/-- The text of a string token without its quotes and escapes; the text inside `${ }` is kept
as it is. `none` for a string that cannot be read so. -/
def unquote (text : String) : Option String :=
  let cs := text.toList
  if cs.length < 2 || cs.head? != some '"' || cs.getLast? != some '"' then none
  else
    let s := (cs.drop 1).dropLast
    if !s.contains '$' && !s.contains '\x7b' && s.contains '\n' then none
    else if !s.contains '\\' && !s.contains '"' && !s.contains '$' then some (String.ofList s)
    else
      let rec go : Nat → List Char → List UInt8 → Option (List UInt8)
        | 0, _, acc => some acc
        | _ + 1, [], acc => some acc
        | fuel + 1, '$' :: '\x7b' :: rest, acc =>
          let rec inner : Nat → Nat → List Char → List Char → Option (List Char × List Char)
            | 0, _, _, _ => none
            | _ + 1, 0, s, acc => some (acc.reverse, s)
            | _ + 1, _ + 1, [], _ => none
            | k + 1, braces, c :: r, acc =>
              let braces := if c == '\x7b' then braces + 1 else if c == '\x7d' then braces - 1 else braces
              inner k braces r (c :: acc)
          match inner (rest.length + 2) 1 rest [] with
          | some (body, more) => go fuel more (acc ++ ("$\x7b" ++ String.ofList body).toUTF8.toList)
          | none => none
        | _ + 1, '\n' :: _, _ => none
        | _ + 1, '"' :: _, _ => none
        | fuel + 1, '\\' :: rest, acc =>
          match unquoteEscape rest with
          | some (bs, more) => go fuel more (acc ++ bs)
          | none => none
        | fuel + 1, c :: rest, acc => go fuel rest (acc ++ c.toString.toUTF8.toList)
      (go (s.length + 1) s []).map Text.lossyString

/-- The text of a string token in the JSON syntax without its quotes and escapes, escapes
read everywhere; `none` for one holding a line break, a bare quote or a bad escape. -/
def unquoteStrict (text : String) : Option String :=
  let cs := text.toList
  if cs.length < 2 || cs.head? != some '"' || cs.getLast? != some '"' then none
  else
    let s := (cs.drop 1).dropLast
    if s.contains '\n' then none
    else
      let rec go : Nat → List Char → List UInt8 → Option (List UInt8)
        | 0, _, acc => some acc
        | _ + 1, [], acc => some acc
        | _ + 1, '"' :: _, _ => none
        | fuel + 1, '\\' :: rest, acc =>
          match unquoteEscape rest with
          | some (bs, more) => go fuel more (acc ++ bs)
          | none => none
        | fuel + 1, c :: rest, acc => go fuel rest (acc ++ c.toString.toUTF8.toList)
      (go (s.length + 1) s []).map Text.lossyString

/-- The text of a heredoc token: the lines between the anchor lines, without the indentation
of the closing anchor when every line has it (`<<-`). -/
def heredocText (text : String) : String :=
  let b := text.toUTF8.toList
  match b.idxOf? 0x0A with
  | none => ""
  | some idx =>
    let slice (lo hi : Nat) : List UInt8 := (b.take hi).drop lo
    if b[2]? != some 0x2D then Text.lossyString (slice (idx + 1) (b.length + 1 - idx))
    else
      let lines := (Text.lossyString (slice (idx + 1) (b.length + 2 - idx))).splitOn "\n"
      let pre := lines.getLastD ""
      if !(lines.all (·.startsWith pre)) then
        Text.lossyString ((slice (idx + 1) (b.length + 1 - idx)).reverse.dropWhile
          (fun x => x == 0x20 || x == 0x09)).reverse
      else "\n".intercalate (lines.dropLast.map (fun l => (l.drop pre.length).toString) ++ [""])

/-- The text a key or string token stands for. -/
def Token.value (t : Token) : String :=
  match t.kind with
  | .string =>
    if !t.json then (unquote t.text).getD t.text
    else if t.text.isEmpty then ""
    else (unquoteStrict t.text).getD t.text
  | .heredoc => heredocText t.text
  | _ => t.text

/-! ## Decoding -/

/-- A decoded value, with the shape it was given: lists of any values, lists of maps and
maps are told apart. -/
inductive Decoded where
  | int (n : Int)
  | float (x : Float)
  | bool (b : Bool)
  | text (s : String)
  | items (xs : List Decoded)
  | tables (xs : List (List (String × Decoded)))
  | table (ms : List (String × Decoded))

/-- The name a fault gives a node's type. -/
def Node.typeName : Node → String
  | .literal _ => "*ast.LiteralType"
  | .list _ _ => "*ast.ListType"
  | .object _ _ => "*ast.ObjectType"
  | .entries _ => "*ast.ObjectList"
  | .entry _ => "*ast.ObjectItem"

/-- Where a node starts; none for a list of items whose first has no key. -/
def Node.pos : Node → Pos
  | .literal t => t.pos
  | .list p _ => p
  | .object p _ => p
  | .entries (e :: _) => (e.keys.head?.map (·.pos)).getD ⟨0, 0⟩
  | .entries [] => ⟨0, 0⟩
  | .entry e => (e.keys.head?.map (·.pos)).getD ⟨0, 0⟩

/-- The items whose first key is `key` (compared without case), that key taken off. -/
def filterEntries (es : List Entry) (key : String) : List Entry :=
  es.filterMap fun e =>
    match e.keys with
    | k :: ks =>
      if k.value == key || Text.toLower k.value == Text.toLower key then some (.mk ks e.value) else none
    | [] => none

def setMember (ms : List (String × Decoded)) (k : String) (v : Decoded) : List (String × Decoded) :=
  if ms.any (·.1 == k) then ms.map fun (k', v') => if k' == k then (k', v) else (k', v')
  else ms ++ [(k, v)]

mutual

/-- Decodes a node into a slot that may hold a value already; `inSlice` tells whether the slot
is an item of a list. -/
def decodeAny : Nat → Bool → String → Node → Option Decoded → Except String Decoded
  | 0, _, _, _, _ => .error "nesting too deep"
  | fuel + 1, inSlice, name, node, old =>
    match old with
    | some v => decodeInto fuel name node v
    | none =>
      match node with
      | .entries _ | .object _ _ => decodeInto fuel name node (if inSlice then .table [] else .tables [])
      | .list _ _ => decodeInto fuel name node (.items [])
      | .literal tok =>
        match tok.kind with
        | .bool => decodeInto fuel name node (.bool false)
        | .float => decodeInto fuel name node (.float 0)
        | .number => decodeInto fuel name node (.int 0)
        | .string | .heredoc => decodeInto fuel name node (.text "")
        | _ => .error (node.pos.fault (name ++ ": cannot decode into interface: " ++ node.typeName))
      | .entry _ => .error (name ++ ": cannot decode into interface: " ++ node.typeName)

/-- Decodes a node into a value of the shape of `current`. -/
def decodeInto : Nat → String → Node → Decoded → Except String Decoded
  | 0, _, _, _ => .error "nesting too deep"
  | fuel + 1, name, node, current =>
    let unknown := Except.error (node.pos.fault (name ++ ": unknown type " ++ node.typeName))
    match current with
    | .bool _ =>
      match node with
      | .literal t => if t.kind == .bool then .ok (.bool (t.text == "true")) else unknown
      | _ => unknown
    | .float _ =>
      match node with
      | .literal t =>
        if t.kind == .float || t.kind == .number then .float <$> Binary64.parseChecked t.text else unknown
      | _ => unknown
    | .int _ =>
      match node with
      | .literal t =>
        if t.kind == .number then .int <$> Text.parseInt t.text 0 64
        else if t.kind == .string then .int <$> Text.parseInt t.value 0 64
        else unknown
      | _ => unknown
    | .text _ =>
      let unknownText := Except.error (node.pos.fault (name ++ ": unknown type for string " ++ node.typeName))
      match node with
      | .literal t =>
        if t.kind == .number then .ok (.text t.text)
        else if t.kind == .string || t.kind == .heredoc then .ok (.text t.value)
        else unknownText
      | _ => unknownText
    | .table ms => decodeMap fuel name node ms
    | .items xs => decodeSlice fuel false name node xs []
    | .tables ms => decodeSlice fuel true name node [] ms

/-- Decodes the items of an object or an item list into a map holding `ms`. -/
def decodeMap : Nat → String → Node → List (String × Decoded) → Except String Decoded
  | 0, _, _, _ => .error "nesting too deep"
  | fuel + 1, name, node, ms =>
    let es := match node with
      | .entry e => some [e]
      | .object _ es => some es
      | .entries es => some es
      | _ => none
    match es with
    | none => .error (node.pos.fault (name ++ ": not an object type for map (" ++ node.typeName ++ ")"))
    | some es =>
      let listPos := Node.pos (.entries es)
      let rec each : Nat → List Entry → List String → List (String × Decoded) → Except String Decoded
        | 0, _, _, ms => .ok (.table ms)
        | _ + 1, [], _, ms => .ok (.table ms)
        | k + 1, e :: rest, done, ms =>
          match e.keys with
          | [] => .error (listPos.fault (name ++ ": map must have string keys"))
          | first :: more =>
            let key := first.value
            if done.contains key then each k rest done ms
            else
              let (value, done) := if more.isEmpty then (e.value, done)
                else (Node.entries (filterEntries es key), done ++ [key])
              match decodeAny fuel false (name ++ "." ++ key) value ((ms.find? (·.1 == key)).map (·.2)) with
              | .error err => .error err
              | .ok v => each k rest done (setMember ms key v)
      each (es.length + 1) es [] ms

/-- Decodes the items of a list, an object or an item list into a list holding `xs` (or
`tables`, a list of maps, when `ofTables`). -/
def decodeSlice : Nat → Bool → String → Node → List Decoded → List (List (String × Decoded)) →
    Except String Decoded
  | 0, _, _, _, _, _ => .error "nesting too deep"
  | fuel + 1, ofTables, name, node, xs, tables =>
    let items : Option (List Node) := match node with
      | .entries es => some (es.map .entry)
      | .object _ _ => some [node]
      | .list _ ns => some ns
      | _ => none
    match items with
    | none => .error (node.pos.fault ("unknown slice type: " ++ node.typeName))
    | some items =>
      let rec each : Nat → Nat → List Node → List Decoded → List (List (String × Decoded)) → Except String Decoded
        | 0, _, _, xs, tables => .ok (if ofTables then .tables tables else .items xs)
        | _ + 1, _, [], xs, tables => .ok (if ofTables then .tables tables else .items xs)
        | k + 1, i, item :: rest, xs, tables =>
          let field := name ++ "[" ++ toString i ++ "]"
          if ofTables then
            match decodeInto fuel field item (.table []) with
            | .ok (.table m) => each k (i + 1) rest xs (tables ++ [m])
            | .ok _ => each k (i + 1) rest xs tables
            | .error e => .error e
          else
            match decodeAny fuel true field item none with
            | .ok v => each k (i + 1) rest (xs ++ [v]) tables
            | .error e => .error e
      each (items.length + 1) 0 items xs tables

end

mutual

/-- A decoded value as a setting. -/
def Decoded.setting : Decoded → Value
  | .int n => .int n
  | .float x => .float x
  | .bool b => .bool b
  | .text s => .text s
  | .items xs => .list (settingsOf xs)
  | .tables ts => .list (tablesOf ts)
  | .table ms => .map (membersOf ms)

def settingsOf : List Decoded → List Value
  | [] => []
  | x :: xs => x.setting :: settingsOf xs

def tablesOf : List (List (String × Decoded)) → List Value
  | [] => []
  | t :: ts => .map (membersOf t) :: tablesOf ts

def membersOf : List (String × Decoded) → List (String × Value)
  | [] => []
  | (k, v) :: ms => (k, v.setting) :: membersOf ms

end

/-- Reads an HCL file into settings. -/
def parse (text : String) : Except String (List (String × Value)) :=
  let text := text.replace "\r\n" "\n"
  let fuel := 4 * text.length + 16
  let p : Parser := { scanner := { rest := text.toList }, tok := { kind := .illegal, pos := ⟨0, 0⟩, text := "" } }
  let ((items, err), p) := objectList fuel false [] p
  match p.scanner.fault, err with
  | some f, _ => .error f
  | none, some f => .error f.shown
  | none, none =>
    match decodeMap fuel "root" (.entries items) [] with
    | .ok (.table ms) => .ok (membersOf ms)
    | .ok _ => .ok []
    | .error e => .error e

end FlashArb.Settings.Hcl
