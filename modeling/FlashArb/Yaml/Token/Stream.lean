import FlashArb.Yaml.Token.Scalar

/-! `fetchNextToken` reads one token. -/
namespace FlashArb.Yaml

def indicator (kind : TokenKind) : Scan Unit := do
  let start := (← get).mark
  skip
  enqueue { kind, start, stop := (← get).mark }

def fetchStreamStart : Scan Unit := do
  modify fun s => { s with indent := -1, keys := s.keys.push {}, keyAllowed := true, started := true }
  let m := (← get).mark
  enqueue { kind := .streamStart, start := m, stop := m }

/-- Ends the stream: the last line is ended, every block collection is closed, and a pending
simple key is dropped. -/
def fetchStreamEnd : Scan Unit := do
  modify fun s =>
    if s.mark.column != 0 then { s with mark := { s.mark with column := 0, line := s.mark.line + 1 } }
    else s
  unrollIndent (-1) (← get).mark
  removeKey
  modify fun s => { s with keyAllowed := false }
  let m := (← get).mark
  enqueue { kind := .streamEnd, start := m, stop := m }

/-- Reads a directive, closing every block collection first. -/
def fetchDirective : Scan Unit := do
  unrollIndent (-1) (← get).mark
  removeKey
  modify fun s => { s with keyAllowed := false }
  enqueue (← scanDirective)

/-- Reads a document marker, closing every block collection first. -/
def fetchDocumentMarker (kind : TokenKind) : Scan Unit := do
  unrollIndent (-1) (← get).mark
  removeKey
  modify fun s => { s with keyAllowed := false }
  let start := (← get).mark
  skip
  skip
  skip
  enqueue { kind, start, stop := (← get).mark }

/-- Reads `[` or `{`, which may start a simple key and opens a flow level. -/
def fetchFlowStart (kind : TokenKind) : Scan Unit := do
  saveKey
  enterFlow
  modify fun s => { s with keyAllowed := true }
  indicator kind

/-- Reads `]` or `}`, which closes a flow level. -/
def fetchFlowEnd (kind : TokenKind) : Scan Unit := do
  removeKey
  leaveFlow
  modify fun s => { s with keyAllowed := false }
  indicator kind

def fetchFlowEntry : Scan Unit := do
  removeKey
  modify fun s => { s with keyAllowed := true }
  indicator .flowEntry

/-- Reads `-` before a block sequence entry, which in block context opens a sequence at its
column and must stand where a key could. -/
def fetchBlockEntry : Scan Unit := do
  let s ← get
  if s.flowLevel == 0 then
    if !s.keyAllowed then failAt "block sequence entries are not allowed in this context" s.mark
    rollIndent s.mark.column none .blockSequenceStart s.mark
  removeKey
  modify fun s => { s with keyAllowed := true }
  indicator .blockEntry

/-- Reads `?` before a key, which in block context opens a mapping at its column and must
stand where a key could. -/
def fetchKey : Scan Unit := do
  let s ← get
  if s.flowLevel == 0 then
    if !s.keyAllowed then failAt "mapping keys are not allowed in this context" s.mark
    rollIndent s.mark.column none .blockMappingStart s.mark
  removeKey
  modify fun s => { s with keyAllowed := s.flowLevel == 0 }
  indicator .key

/-- Reads `:` before a value. -/
def fetchValue : Scan Unit := do
  let s ← get
  let top := s.keys.size - 1
  let key := s.topKey
  if ← keyIsValid top then
    enqueue { kind := .key, start := key.mark, stop := key.mark } (some key.tokenNumber)
    rollIndent key.mark.column (some key.tokenNumber) .blockMappingStart key.mark
    modify fun s => { s with keys := s.keys.modify top fun k => { k with possible := false },
                             keysByToken := s.keysByToken.filter (·.1 != key.tokenNumber),
                             keyAllowed := false }
  else
    let s ← get
    if s.flowLevel == 0 then
      if !s.keyAllowed then failAt "mapping values are not allowed in this context" s.mark
      rollIndent s.mark.column none .blockMappingStart s.mark
    modify fun s => { s with keyAllowed := s.flowLevel == 0 }
  indicator .value

def fetchKeyCandidate (scan : Scan Token) : Scan Unit := do
  saveKey
  modify fun s => { s with keyAllowed := false }
  enqueue (← scan)

def fetchBlockScalar (literal : Bool) : Scan Unit := do
  removeKey
  modify fun s => { s with keyAllowed := true }
  enqueue (← scanBlock literal)

/-- Whether a plain scalar may start here. -/
def Scanner.startsPlain (s : Scanner) : Bool :=
  let c := s.peek
  !(isBlankz c || "-?:,[]\x7b\x7d#&*!|>'\"%@".contains c || c == '\x60') ||
    (c == '-' && !isBlank (s.peek 1)) ||
    (s.flowLevel == 0 && (c == '?' || c == ':') && !isBlankz (s.peek 1))

/-- Reads the token that starts at the next character that is not blank, comment or break. -/
def fetchContent : Scan Unit := do
  let s ← get
  let c := s.peek
  let next := s.peek 1
  if c == '[' then fetchFlowStart .flowSequenceStart
  else if c == '{' then fetchFlowStart .flowMappingStart
  else if c == ']' then fetchFlowEnd .flowSequenceEnd
  else if c == '}' then fetchFlowEnd .flowMappingEnd
  else if c == ',' then fetchFlowEntry
  else if c == '-' && isBlankz next then fetchBlockEntry
  else if c == '?' && (s.flowLevel > 0 || isBlankz next) then fetchKey
  else if c == ':' && (s.flowLevel > 0 || isBlankz next) then fetchValue
  else if c == '*' then fetchKeyCandidate (scanAnchor .alias)
  else if c == '&' then fetchKeyCandidate (scanAnchor .anchor)
  else if c == '!' then fetchKeyCandidate scanTag
  else if c == '|' && s.flowLevel == 0 then fetchBlockScalar true
  else if c == '>' && s.flowLevel == 0 then fetchBlockScalar false
  else if c == '\'' then fetchKeyCandidate (scanQuoted true)
  else if c == '"' then fetchKeyCandidate (scanQuoted false)
  else if s.startsPlain then fetchKeyCandidate scanPlain
  else failAt "found character that cannot start any token" s.mark

/-- Reads the next token. -/
def fetchNextToken : Scan Unit := do
  need 1
  if !(← get).started then
    fetchStreamStart
    return
  let scanMark := (← get).mark
  skipToToken
  unrollIndent (← get).mark.column scanMark
  need 4
  let s ← get
  if s.peek == '\x00' then fetchStreamEnd
  else if s.mark.column == 0 && s.peek == '%' then fetchDirective
  else if s.mark.column == 0 && s.peek 1 == '-' && s.peek == '-' && s.peek 2 == '-' && isBlankz (s.peek 3) then
    fetchDocumentMarker .documentStart
  else if s.mark.column == 0 && s.peek 1 == '.' && s.peek == '.' && s.peek 2 == '.' && isBlankz (s.peek 3) then
    fetchDocumentMarker .documentEnd
  else
    fetchContent
    let s ← get
    if (s.tokens.back?.map (·.kind)) != some .blockEntry then skipLineComment

/-- Fetches tokens until at least three wait past the head of the queue and the head token can
no longer become a simple key. -/
def fetchTokens : Scan Unit := do
  for _ in [0:2 * (← get).bound + 64] do
    let s ← get
    if s.taken + 2 < s.tokens.size then
      match s.keysByToken.lookup s.taken with
      | none => break
      | some i => if !(← keyIsValid i) then break
    fetchNextToken
  modify fun s => { s with available := true }

def headToken : Scan Token := do
  if !(← get).available then fetchTokens
  let s ← get
  return s.tokens.getD s.taken { kind := .streamEnd, start := s.mark, stop := s.mark }

def takeToken : Scan Unit := modify fun s =>
  { s with available := false, taken := s.taken + 1,
           ended := (s.tokens[s.taken]?.map (·.kind)) == some .streamEnd }

end FlashArb.Yaml
