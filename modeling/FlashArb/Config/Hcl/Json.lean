import FlashArb.Config.Hcl

/-! An HCL file whose first character after blanks is `{` is written in the JSON syntax. -/
namespace FlashArb.Settings.Hcl

/-! ## Tokens -/

/-- The kinds of tokens of the JSON syntax. -/
inductive JsonKind where
  | illegal
  | eof
  | number
  | float
  | bool
  | string
  | null
  | lbrack
  | lbrace
  | comma
  | period
  | colon
  | rbrack
  | rbrace
deriving DecidableEq

/-- The name a fault gives a kind. -/
def JsonKind.name : JsonKind → String
  | .illegal => "ILLEGAL"
  | .eof => "EOF"
  | .number => "NUMBER"
  | .float => "FLOAT"
  | .bool => "BOOL"
  | .string => "STRING"
  | .null => "NULL"
  | .lbrack => "LBRACK"
  | .lbrace => "LBRACE"
  | .comma => "COMMA"
  | .period => "PERIOD"
  | .colon => "COLON"
  | .rbrack => "RBRACK"
  | .rbrace => "RBRACE"

/-- A token of the JSON syntax: its kind, where it starts and its text. -/
structure JsonToken where
  kind : JsonKind
  pos : Pos
  text : String

def JsonToken.detailed (t : JsonToken) : String :=
  "\x7bType:" ++ t.kind.name ++ " Pos:" ++ t.pos.shown ++ " Text:" ++ t.text ++ "\x7d"

/-- A literal token as a token of the native syntax, without its position: `null` is an empty
string, and other strings keep their quotes to be read with every escape. -/
def JsonToken.literal (t : JsonToken) : Token :=
  match t.kind with
  | .bool => { kind := .bool, pos := ⟨0, 0⟩, text := t.text }
  | .float => { kind := .float, pos := ⟨0, 0⟩, text := t.text }
  | .number => { kind := .number, pos := ⟨0, 0⟩, text := t.text }
  | .null => { kind := .string, pos := ⟨0, 0⟩, text := "" }
  | _ => { kind := .string, pos := ⟨0, 0⟩, text := t.text, json := true }

/-! ## Scanning -/

/-- Reads a number whose first digit `ch` was read: digits, then a fraction or an exponent that make
it a float. -/
def scanJsonNumber (ch : Option Char) (s : Scanner) : JsonKind × Scanner :=
  let zero := isChar ch '0'
  let start := (s.line, s.column, s.rest.length)
  let (_, s) := scanMantissa ch s
  let (ch, s) := s.next
  if isChar ch 'e' || isChar ch 'E' then (.float, (scanExponent ch s).2)
  else if isChar ch '.' then
    let (ch, s) := scanFraction ch s
    if isChar ch 'e' || isChar ch 'E' then
      let (ch, s) := s.next
      (.float, (scanExponent ch s).2)
    else (.float, s)
  else
    let s := if ch.isSome then s.unread else s
    let s := if zero && start != (s.line, s.column, s.rest.length) then
        s.err "numbers cannot start with 0"
      else s
    (.number, s)

/-- Reads a string after its opening quote, up to the closing one, within `fuel` steps. -/
def scanJsonString : Nat → Scanner → Scanner
  | 0, s => s
  | fuel + 1, s =>
    let (ch, s) := s.next
    if isChar ch '\n' || ch.isNone then s.err "literal not terminated"
    else if isChar ch '"' then s
    else scanJsonString fuel (if isChar ch '\\' then scanEscape s else s)

/-- Reads the next token of the JSON syntax. -/
def Scanner.scanJson (s : Scanner) : JsonToken × Scanner :=
  let (ch, s) := s.next
  let (ch, _, s) := readWhile isWhitespace (s.rest.length + 1) ch false s
  let start := if s.lastCharLen > 0 then s.before else s.rest
  let pos : Pos := if s.column > 0 then ⟨s.line, s.column⟩ else ⟨s.line - 1, s.lastLineLen⟩
  let (kind, s) : JsonKind × Scanner :=
    if isLetter ch then
      let (c, _, s) := readWhile (fun c => isLetter c || isDigit c || isChar c '-')
        (s.rest.length + 1) (s.next.1) false s.next.2
      let s := if c.isSome then s.unread else s
      let text := start.take (start.length - s.rest.length)
      if text == "true".toList || text == "false".toList then (.bool, s)
      else if text == "null".toList then (.null, s)
      else (.illegal, s.err "illegal char")
    else if isDecimal ch then scanJsonNumber ch s
    else match ch with
      | none => (.eof, s)
      | some '"' => (.string, scanJsonString (s.rest.length + 1) s)
      | some '.' =>
        if isDecimal s.peek then
          let (c, s) := scanMantissa s.peek s
          (.float, (scanExponent c s).2)
        else (.period, s)
      | some '[' => (.lbrack, s)
      | some ']' => (.rbrack, s)
      | some '\x7b' => (.lbrace, s)
      | some '\x7d' => (.rbrace, s)
      | some ',' => (.comma, s)
      | some ':' => (.colon, s)
      | some '-' =>
        if isDecimal s.peek then
          let (c, s) := s.next
          scanJsonNumber c s
        else (.illegal, s.err "illegal char")
      | some c => (.illegal, s.err ("illegal char: " ++ c.toString))
  ({ kind, pos, text := String.ofList (start.take (start.length - s.rest.length)) }, s)

/-! ## Parsing -/

/-- The parser of the JSON syntax: the scanner and the current token. -/
structure JsonParser where
  scanner : Scanner
  tok : JsonToken

def JsonParser.scan (p : JsonParser) : JsonToken × JsonParser :=
  let (t, s) := p.scanner.scanJson
  (t, { scanner := s, tok := t })

/-- Reads the keys of a member up to its `:`. -/
def jsonKeys : Nat → List Token → JsonParser → Except Fault (List Token) × JsonParser
  | 0, _, p => (.error .eof, p)
  | fuel + 1, keys, p =>
    let (tok, p) := p.scan
    match tok.kind with
    | .eof => (.error .eof, p)
    | .string => jsonKeys fuel (keys ++ [tok.literal]) p
    | .colon =>
      if keys.isEmpty then (.error (.text ("expected: STRING got: " ++ tok.kind.name)), p)
      else (.ok keys, p)
    | .illegal => (.error (.text "illegal"), p)
    | k => (.error (.text ("expected: STRING got: " ++ k.name)), p)

mutual

/-- Reads the members of an object while commas separate them; returns those read and the
fault that stopped the reading, if any. The end of the text ends the members quietly. -/
def jsonMembers : Nat → List Entry → JsonParser → (List Entry × Option Fault) × JsonParser
  | 0, items, p => ((items, none), p)
  | fuel + 1, items, p =>
    match jsonMember fuel p with
    | (.error .eof, p) => ((items, none), p)
    | (.error f, p) => ((items, some f), p)
    | (.ok e, p) =>
      let (tok, p) := p.scan
      if tok.kind == .comma then jsonMembers fuel (items ++ [e]) p
      else ((items ++ [e], none), p)

/-- Reads a member: its keys, `:` and a value. -/
def jsonMember : Nat → JsonParser → Except Fault Entry × JsonParser
  | 0, p => (.error .eof, p)
  | fuel + 1, p =>
    match jsonKeys (p.scanner.rest.length + 2) [] p with
    | (.error f, p) => (.error f, p)
    | (.ok keys, p) =>
      match jsonValue fuel p with
      | (.error f, p) => (.error f, p)
      | (.ok v, p) => (.ok (.mk keys v), p)

/-- Reads a value after `:`. -/
def jsonValue : Nat → JsonParser → Except Fault Node × JsonParser
  | 0, p => (.error .eof, p)
  | fuel + 1, p =>
    let (tok, p) := p.scan
    match tok.kind with
    | .number | .float | .bool | .null | .string => (.ok (.literal tok.literal), p)
    | .lbrace => jsonObject fuel p
    | .lbrack => jsonList fuel [] p
    | .eof => (.error .eof, p)
    | _ => (.error (.text ("Expected object value, got unknown token: " ++ tok.detailed)), p)

/-- Reads an object after its `{`. -/
def jsonObject : Nat → JsonParser → Except Fault Node × JsonParser
  | 0, p => (.error .eof, p)
  | fuel + 1, p =>
    let ((items, err), p) := jsonMembers fuel [] p
    match err with
    | some f => if p.tok.kind != .rbrace then (.error f, p) else (.ok (.object ⟨0, 0⟩ items), p)
    | none => (.ok (.object ⟨0, 0⟩ items), p)

/-- Reads the rest of a list after its `[`, passing over commas, booleans and `[`. -/
def jsonList : Nat → List Node → JsonParser → Except Fault Node × JsonParser
  | 0, _, p => (.error .eof, p)
  | fuel + 1, items, p =>
    let (tok, p) := p.scan
    match tok.kind with
    | .number | .float | .string => jsonList fuel (items ++ [.literal tok.literal]) p
    | .comma | .bool | .lbrack => jsonList fuel items p
    | .lbrace =>
      match jsonObject fuel p with
      | (.error f, p) => (.error f, p)
      | (.ok n, p) => jsonList fuel (items ++ [n]) p
    | .rbrack => (.ok (.list ⟨0, 0⟩ items), p)
    | k => (.error (.text ("unexpected token while parsing list: " ++ k.name)), p)

end

/-! ## Flattening -/

def Node.isObject : Node → Bool
  | .object _ _ => true
  | _ => false

/-- One flattening run over a member list, within `fuel` steps. -/
def flattenMembers (walked : Bool) (fuel : Nat) (items : List Entry) : List Entry :=
  go fuel items.reverse []
where
  /-- Flattens the members of `frontier`, the last first, onto `done`. -/
  go : Nat → List Entry → List Entry → List Entry
    | 0, frontier, done => frontier.reverse ++ done
    | _ + 1, [], done => done
    | fuel + 1, e :: frontier, done =>
      match e.value with
      | .object _ inner =>
        if (inner.isEmpty && !walked) || !(inner.all (·.value.isObject)) then go fuel frontier (e :: done)
        else go fuel ((inner.map fun i => Entry.mk (e.keys ++ i.keys) i.value).reverse ++ frontier) done
      | .list _ elems =>
        if elems.isEmpty || !(elems.all Node.isObject) then go fuel frontier (e :: done)
        else go fuel ((elems.map fun el => Entry.mk e.keys el).reverse ++ frontier) done
      | _ => go fuel frontier (e :: done)

/-- Flattens a member list, then the values of its members within `depth` levels, then the
list again. -/
def flattenTree (fuel : Nat) : Nat → List Entry → List Entry
  | 0, items => items
  | depth + 1, items =>
    let first := flattenMembers false fuel items
    let inner := first.map fun e => Entry.mk e.keys (flattenNode depth e.value)
    flattenMembers true fuel inner
where
  /-- Flattens the member lists inside a value. -/
  flattenNode : Nat → Node → Node
    | 0, n => n
    | depth + 1, .object pos items => .object pos (flattenTree fuel depth items)
    | depth + 1, .list pos ns => .list pos (ns.map (flattenNode depth))
    | _ + 1, n => n

/-! ## Reading -/

/-- The members of a file in the JSON syntax, flattened, or the fault that stops the reading. -/
def jsonEntries (text : String) : Except String (List Entry) :=
  let fuel := 4 * text.length + 16
  let p : JsonParser :=
    { scanner := { rest := text.toList, json := true }, tok := { kind := .illegal, pos := ⟨0, 0⟩, text := "" } }
  let (tok, p) := p.scan
  let (result, p) : Except Fault Node × JsonParser :=
    match tok.kind with
    | .lbrace => jsonObject fuel p
    | .eof => (.error .eof, p)
    | _ => (.error (.text ("Expected object, got unknown token: " ++ tok.detailed)), p)
  match p.scanner.fault, result with
  | some f, _ => .error f
  | none, .error .eof => .error "EOF token found"
  | none, .error (.text m) => .error m
  | none, .ok (.object _ items) => .ok (flattenTree fuel fuel items)
  | none, .ok _ => .ok []

def isJsonSyntax (text : String) : Bool :=
  match text.toList.dropWhile Text.isSpace with
  | '\x7b' :: _ => true
  | _ => false

/-- Reads an HCL file, in the JSON syntax or the native one, into settings. -/
def read (text : String) : Except String (List (String × Value)) :=
  if isJsonSyntax text then
    match jsonEntries text with
    | .error e => .error e
    | .ok items =>
      let fuel := 4 * text.length + 16
      match decodeMap fuel "root" (.entries items) [] with
      | .ok (.table ms) => .ok (membersOf ms)
      | .ok _ => .ok []
      | .error e => .error e
  else parse text

end FlashArb.Settings.Hcl
