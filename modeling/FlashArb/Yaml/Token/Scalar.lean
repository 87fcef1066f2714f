import FlashArb.Yaml.Token.Scanner
import FlashArb.Text.Utf8

/-! Directives, anchors and aliases, tags, and the five kinds of scalars. -/
namespace FlashArb.Yaml

/-- Whether a document marker `---` or `...` stands at the start of the line here, followed by
a blank or the end. -/
def Scanner.atDocumentMarker (s : Scanner) : Bool :=
  s.mark.column == 0 &&
    ((s.peek 0 == '-' && s.peek 1 == '-' && s.peek 2 == '-') ||
      (s.peek 0 == '.' && s.peek 1 == '.' && s.peek 2 == '.')) &&
    isBlankz (s.peek 3)

/-- Moves past blanks. -/
def skipBlanks : Scan Unit := do
  need 1
  for _ in [0:(← get).bound] do
    if !isBlank (← get).peek then break
    skip
    need 1

/-- Reads a run of name characters. -/
def readWord : Scan String := do
  need 1
  let mut w := ""
  for _ in [0:(← get).bound] do
    if !isWordChar (← get).peek then break
    w := w.push (← read)
    need 1
  return w

/-- Reads the number of a version: one or two digits. -/
def versionNumber (start : Mark) : Scan Nat := do
  need 1
  let mut value := 0
  let mut length := 0
  for _ in [0:(← get).bound] do
    let c := (← get).peek
    if !c.isDigit then break
    length := length + 1
    if length > 2 then failAt "found extremely long version number" start
    value := value * 10 + (c.toNat - '0'.toNat)
    skip
    need 1
  if length == 0 then failAt "did not find expected version number" start
  return value

/-- Reads a tag handle: `!`, then name characters and a closing `!`. -/
def tagHandle (directive : Bool) (start : Mark) : Scan String := do
  need 1
  if (← get).peek != '!' then failAt "did not find expected '!'" start
  let first ← read
  let word ← readWord
  let mut h := (String.singleton first) ++ word
  if (← get).peek == '!' then
    h := h.push (← read)
  else if directive && h != "!" then
    failAt "did not find expected '!'" start
  return h

def utf8Bytes (c : Char) : List UInt8 := (String.singleton c).toUTF8.toList

def leadWidth (b : Nat) : Nat :=
  if b < 0x80 then 1 else if b / 32 == 6 then 2 else if b / 16 == 14 then 3
  else if b / 8 == 30 then 4 else 0

/-- Reads a run of `%XX` escapes spelling one UTF-8 sequence. -/
def uriEscapes (start : Mark) : Scan (List UInt8) := do
  let mut left := 0
  let mut first := true
  let mut out : List UInt8 := []
  for _ in [0:5] do
    if !first && left == 0 then break
    need 3
    let s ← get
    if !(s.peek == '%' && isHexDigit (s.peek 1) && isHexDigit (s.peek 2)) then
      failAt "did not find URI escaped octet" start
    let octet := hexValue (s.peek 1) * 16 + hexValue (s.peek 2)
    if first then
      left := leadWidth octet
      first := false
      if left == 0 then failAt "found an incorrect leading UTF-8 octet" start
    else if octet / 64 != 2 then
      failAt "found an incorrect trailing UTF-8 octet" start
    out := out ++ [octet.toUInt8]
    skip
    skip
    skip
    left := left - 1
  return out

def isUriChar (verbatim : Bool) (c : Char) : Bool :=
  isWordChar c || ";/?:@&=+$.%!~*'()".contains c || (verbatim && ",[]".contains c)

/-- Reads a tag URI after the text `head` (whose leading `!` is dropped). -/
def tagUri (verbatim : Bool) (head : String) (start : Mark) : Scan String := do
  let mut bytes : List UInt8 := ((head.drop 1).toString).toUTF8.toList
  let mut found := !head.isEmpty
  need 1
  for _ in [0:(← get).bound] do
    let c := (← get).peek
    if !isUriChar verbatim c then break
    if c == '%' then
      bytes := bytes ++ (← uriEscapes start)
    else
      bytes := bytes ++ utf8Bytes (← read)
    need 1
    found := true
  if !found then failAt "did not find expected tag URI" start
  return Text.lossyString bytes

/-- Scans a directive: `%YAML major.minor` or `%TAG handle prefix`, then blanks, an optional
comment and the end of the line. -/
def scanDirective : Scan Token := do
  let start := (← get).mark
  skip
  let name ← readWord
  if name.isEmpty then failAt "could not find expected directive name" start
  if !isBlankz (← get).peek then failAt "found unexpected non-alphabetical character" start
  let token ← if name == "YAML" then do
      skipBlanks
      let major ← versionNumber start
      if (← get).peek != '.' then failAt "did not find expected digit or '.' character" start
      skip
      let minor ← versionNumber start
      pure ({ kind := .versionDirective, start, stop := (← get).mark, major, minor } : Token)
    else if name == "TAG" then do
      skipBlanks
      let handle ← tagHandle true start
      need 1
      if !isBlank (← get).peek then failAt "did not find expected whitespace" start
      skipBlanks
      let pfx ← tagUri true "" start
      need 1
      if !isBlankz (← get).peek then failAt "did not find expected whitespace or line break" start
      pure ({ kind := .tagDirective, start, stop := (← get).mark, value := handle, suffix := pfx } : Token)
    else failAt "found unknown directive name" start
  skipBlanks
  if (← get).peek == '#' then
    for _ in [0:(← get).bound] do
      if isBreakz (← get).peek then break
      skip
      need 1
  let s ← get
  if !isBreakz s.peek then failAt "did not find expected comment or line break" start
  if isBreak s.peek then
    need 2
    skipLine
  return token

/-- Scans an anchor `&name` or an alias `*name`. -/
def scanAnchor (kind : TokenKind) : Scan Token := do
  let start := (← get).mark
  skip
  let name ← readWord
  let s ← get
  let c := s.peek
  if name.isEmpty || !(isBlankz c || "?:,]\x7d%@".contains c || c == '\x60') then
    failAt "did not find expected alphabetic or numeric character" start
  return { kind, start, stop := s.mark, value := name }

/-- Scans a tag: `!<uri>`, `!handle!suffix`, or `!suffix` (whose handle is `!`); a lone `!`
has an empty handle and the suffix `!`. A tag ends at a blank, or at `,` in flow context. -/
def scanTag : Scan Token := do
  let start := (← get).mark
  need 2
  let mut handle := ""
  let mut suffix := ""
  if (← get).peek 1 == '<' then
    skip
    skip
    suffix ← tagUri true "" start
    if (← get).peek != '>' then failAt "did not find the expected '>'" start
    skip
  else
    let h ← tagHandle false start
    if h.length > 1 && h.back == '!' then
      handle := h
      suffix ← tagUri false "" start
    else
      suffix ← tagUri false h start
      handle := "!"
      if suffix.isEmpty then
        handle := ""
        suffix := "!"
  need 1
  let s ← get
  if !isBlankz s.peek && (s.flowLevel == 0 || s.peek != ',') then
    failAt "did not find expected whitespace or line break" start
  return { kind := .tag, start, stop := s.mark, value := handle, suffix }

def foldBreaks (leading trailing : String) : String :=
  if leading.startsWith "\n" then (if trailing.isEmpty then " " else trailing)
  else leading ++ trailing

/-- The character a backslash escape names, or the count of hexadecimal digits that give it. -/
def escapeOf (c : Char) : Option (Char ⊕ Nat) :=
  match c with
  | '0' => some (.inl '\x00')
  | 'a' => some (.inl '\x07')
  | 'b' => some (.inl '\x08')
  | 't' | '\t' => some (.inl '\t')
  | 'n' => some (.inl '\n')
  | 'v' => some (.inl '\x0b')
  | 'f' => some (.inl '\x0c')
  | 'r' => some (.inl '\r')
  | 'e' => some (.inl '\x1b')
  | ' ' => some (.inl ' ')
  | '"' => some (.inl '"')
  | '\'' => some (.inl '\'')
  | '\\' => some (.inl '\\')
  | 'N' => some (.inl '\u0085')
  | '_' => some (.inl '\u00A0')
  | 'L' => some (.inl '\u2028')
  | 'P' => some (.inl '\u2029')
  | 'x' => some (.inr 2)
  | 'u' => some (.inr 4)
  | 'U' => some (.inr 8)
  | _ => none

/-- Reads a backslash escape of a double-quoted scalar. -/
def readEscape (start : Mark) : Scan Char := do
  match escapeOf ((← get).peek 1) with
  | none => failAt "found unknown escape character" start
  | some (.inl c) =>
    skip
    skip
    return c
  | some (.inr digits) =>
    skip
    skip
    need digits
    let mut value := 0
    for k in [0:digits] do
      let c := (← get).peek k
      if !isHexDigit c then failAt "did not find expected hexdecimal number" start
      value := value * 16 + hexValue c
    if (0xD800 ≤ value && value ≤ 0xDFFF) || value > 0x10FFFF then
      failAt "found invalid Unicode character escape code" start
    for _ in [0:digits] do
      skip
    return Char.ofNat value

/-- Scans a single- or double-quoted scalar. -/
def scanQuoted (single : Bool) : Scan Token := do
  let start := (← get).mark
  skip
  let bound := (← get).bound
  let mut text := ""
  let mut leadingBreak := ""
  let mut trailing := ""
  let mut spaces := ""
  for _ in [0:bound] do
    need 4
    let s ← get
    if s.atDocumentMarker then failAt "found unexpected document indicator" start
    if s.peek == '\x00' then failAt "found unexpected end of stream" start
    let mut leadingBlanks := false
    for _ in [0:bound] do
      let s ← get
      let c := s.peek
      if isBlankz c then break
      if single && c == '\'' && s.peek 1 == '\'' then
        text := text.push '\''
        skip
        skip
      else if (single && c == '\'') || (!single && c == '"') then break
      else if !single && c == '\\' && isBreak (s.peek 1) then
        need 3
        skip
        skipLine
        leadingBlanks := true
        break
      else if !single && c == '\\' then
        text := text.push (← readEscape start)
      else
        text := text.push (← read)
      need 2
    need 1
    let c := (← get).peek
    if (single && c == '\'') || (!single && c == '"') then break
    for _ in [0:bound] do
      let c := (← get).peek
      if !(isBlank c || isBreak c) then break
      if isBlank c then
        if leadingBlanks then skip else spaces := spaces.push (← read)
      else
        need 2
        if leadingBlanks then
          trailing := trailing ++ (← readLine)
        else
          spaces := ""
          leadingBreak := leadingBreak ++ (← readLine)
          leadingBlanks := true
      need 1
    if leadingBlanks then
      text := text ++ foldBreaks leadingBreak trailing
      leadingBreak := ""
      trailing := ""
    else
      text := text ++ spaces
      spaces := ""
  skip
  return { kind := .scalar, start, stop := (← get).mark, value := text,
           style := if single then .singleQuoted else .doubleQuoted }

/-- Scans a plain scalar. -/
def scanPlain : Scan Token := do
  let s0 ← get
  let indent : Int := s0.indent + 1
  let start := s0.mark
  let bound := s0.bound
  let mut stop := s0.mark
  let mut text := ""
  let mut leadingBreak := ""
  let mut trailing := ""
  let mut spaces := ""
  let mut leadingBlanks := false
  for _ in [0:bound] do
    need 4
    let s ← get
    if s.atDocumentMarker || s.peek == '#' then break
    for _ in [0:bound] do
      let s ← get
      let c := s.peek
      if isBlankz c then break
      if (c == ':' && isBlankz (s.peek 1)) || (s.flowLevel > 0 && ",?[]\x7b\x7d".contains c) then break
      if leadingBlanks then
        text := text ++ foldBreaks leadingBreak trailing
        leadingBreak := ""
        trailing := ""
        leadingBlanks := false
      else if !spaces.isEmpty then
        text := text ++ spaces
        spaces := ""
      text := text.push (← read)
      stop := (← get).mark
      need 2
    let c := (← get).peek
    if !(isBlank c || isBreak c) then break
    need 1
    for _ in [0:bound] do
      let s ← get
      let c := s.peek
      if !(isBlank c || isBreak c) then break
      if isBlank c then
        if leadingBlanks && (s.mark.column : Int) < indent && c == '\t' then
          failAt "found a tab character that violates indentation" start
        if leadingBlanks then skip else spaces := spaces.push (← read)
      else
        need 2
        if leadingBlanks then
          trailing := trailing ++ (← readLine)
        else
          spaces := ""
          leadingBreak := leadingBreak ++ (← readLine)
          leadingBlanks := true
      need 1
    let s ← get
    if s.flowLevel == 0 && (s.mark.column : Int) < indent then break
  if leadingBlanks then modify fun s => { s with keyAllowed := true }
  return { kind := .scalar, start, stop, value := text, style := .plain }

/-- Moves past the indentation and empty lines before a block scalar's line, collecting breaks. -/
def blockBreaks (indent : Nat) (start : Mark) : Scan (Nat × String × Mark) := do
  let mut stop := (← get).mark
  let mut maxIndent := 0
  let mut breaks := ""
  let bound := (← get).bound
  for _ in [0:bound] do
    need 1
    for _ in [0:bound] do
      let s ← get
      if (indent == 0 || s.mark.column < indent) && s.peek == ' ' then
        skip
        need 1
      else break
    let s ← get
    maxIndent := max maxIndent s.mark.column
    if (indent == 0 || s.mark.column < indent) && s.peek == '\t' then
      failAt "found a tab character where an indentation space is expected" start
    if !isBreak s.peek then break
    need 2
    breaks := breaks ++ (← readLine)
    stop := (← get).mark
  let parent := (← get).indent
  let indent := if indent == 0 then max (max maxIndent (parent + 1).toNat) 1 else indent
  return (indent, breaks, stop)

/-- Scans a literal (`|`) or folded (`>`) block scalar with its header: a chomping indicator
and an indentation indicator in either order, blanks and a comment. -/
def scanBlock (literal : Bool) : Scan Token := do
  let start := (← get).mark
  skip
  need 1
  let mut chomping : Int := 0
  let mut increment := 0
  let c := (← get).peek
  if c == '+' || c == '-' then
    chomping := if c == '+' then 1 else -1
    skip
    need 1
    let d := (← get).peek
    if d.isDigit then
      if d == '0' then failAt "found an indentation indicator equal to 0" start
      increment := d.toNat - '0'.toNat
      skip
  else if c.isDigit then
    if c == '0' then failAt "found an indentation indicator equal to 0" start
    increment := c.toNat - '0'.toNat
    skip
    need 1
    let d := (← get).peek
    if d == '+' || d == '-' then
      chomping := if d == '+' then 1 else -1
      skip
  skipBlanks
  if (← get).peek == '#' then
    skipLineComment
    for _ in [0:(← get).bound] do
      if isBreakz (← get).peek then break
      skip
      need 1
  let s ← get
  if !isBreakz s.peek then failAt "did not find expected comment or line break" start
  if isBreak s.peek then
    need 2
    skipLine
  let parent := (← get).indent
  let given := if increment > 0 then (if parent ≥ 0 then parent.toNat + increment else increment) else 0
  let (indent, first, firstStop) ← blockBreaks given start
  let mut stop := firstStop
  let mut text := ""
  let mut leadingBreak := ""
  let mut trailing := first
  let mut leadingBlank := false
  need 1
  for _ in [0:(← get).bound] do
    let s ← get
    if !(s.mark.column == indent && s.peek != '\x00') then break
    let trailingBlank := isBlank s.peek
    if !literal && !leadingBlank && !trailingBlank && leadingBreak.startsWith "\n" then
      if trailing.isEmpty then text := text.push ' '
    else
      text := text ++ leadingBreak
    leadingBreak := ""
    text := text ++ trailing
    trailing := ""
    leadingBlank := isBlank s.peek
    for _ in [0:(← get).bound] do
      if isBreakz (← get).peek then break
      text := text.push (← read)
      need 1
    need 2
    leadingBreak := leadingBreak ++ (← readLine)
    let (_, more, moreStop) ← blockBreaks indent start
    trailing := more
    stop := moreStop
  if chomping != -1 then text := text ++ leadingBreak
  if chomping == 1 then text := text ++ trailing
  return { kind := .scalar, start, stop, value := text,
           style := if literal then .literal else .folded }

end FlashArb.Yaml
