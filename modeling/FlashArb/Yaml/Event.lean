import FlashArb.Yaml.Token.Stream

/-! The second stage turns tokens into events. -/
namespace FlashArb.Yaml

/-- The kinds of events. -/
inductive EventKind where
  | streamStart
  | streamEnd
  | documentStart
  | documentEnd
  | alias
  | scalar
  | sequenceStart
  | sequenceEnd
  | mappingStart
  | mappingEnd
deriving DecidableEq, Inhabited

/-- The name of an event kind in messages. -/
def EventKind.name : EventKind → String
  | .streamStart => "stream start"
  | .streamEnd => "stream end"
  | .documentStart => "document start"
  | .documentEnd => "document end"
  | .alias => "alias"
  | .scalar => "scalar"
  | .sequenceStart => "sequence start"
  | .sequenceEnd => "sequence end"
  | .mappingStart => "mapping start"
  | .mappingEnd => "mapping end"

/-- An event with where it starts and stops. -/
structure Event where
  kind : EventKind
  start : Mark := {}
  stop : Mark := {}
  /-- The anchor of a node, or the name an alias refers to. -/
  anchor : String := ""
  /-- A node's resolved tag; empty when it has none. -/
  tag : String := ""
  value : String := ""
  style : ScalarStyle := .plain
  /-- Whether a collection is written in flow style. -/
  flow : Bool := false
deriving Inhabited

/-- The states of the parser: what it expects next. -/
inductive ParseState where
  | streamStart
  | implicitDocumentStart
  | documentStart
  | documentContent
  | documentEnd
  | blockNode
  | blockNodeOrIndentlessSequence
  | flowNode
  | blockSequenceFirstEntry
  | blockSequenceEntry
  | indentlessSequenceEntry
  | blockMappingFirstKey
  | blockMappingKey
  | blockMappingValue
  | flowSequenceFirstEntry
  | flowSequenceEntry
  | flowSequenceEntryMappingKey
  | flowSequenceEntryMappingValue
  | flowSequenceEntryMappingEnd
  | flowMappingFirstKey
  | flowMappingKey
  | flowMappingValue
  | flowMappingEmptyValue
  | finished
deriving DecidableEq, Inhabited

/-- The state of the parser. -/
structure Parser where
  scanner : Scanner
  state : ParseState := .streamStart
  /-- States to return to, innermost first. -/
  states : List ParseState := []
  /-- Where the open collections began, innermost first. -/
  marks : List Mark := []
  /-- The tag handles of the current document with their prefixes. -/
  tagDirectives : List (String × String) := []

/-- The parser as a state over faults. -/
abbrev Parse := StateT Parser (Except Fault)

/-- Runs a step of the scanner. -/
def scan (m : Scan α) : Parse α := fun p =>
  let s := p.scanner
  let p := { p with scanner := Scanner.empty }
  match m s with
  | .ok (a, s) => .ok (a, { p with scanner := s })
  | .error e => .error e

def token : Parse Token := scan headToken

def take : Parse Unit := scan takeToken

def parseFault (problem : String) (mark : Mark) (context : Mark := {}) : Fault :=
  ⟨.parsing, problem, mark, context⟩

def goTo (st : ParseState) : Parse Unit := modify fun p => { p with state := st }

def pushState (st : ParseState) : Parse Unit := modify fun p => { p with states := st :: p.states }

def popState : Parse Unit := modify fun p =>
  { p with state := p.states.headD .finished, states := p.states.tail }

def pushMark (m : Mark) : Parse Unit := modify fun p => { p with marks := m :: p.marks }

def popMark : Parse Mark := do
  let p ← get
  set { p with marks := p.marks.tail }
  return p.marks.headD {}

def emptyScalar (m : Mark) : Event := { kind := .scalar, start := m, stop := m }

/-- A bound on the tokens a loop of the parser takes. -/
def Parser.bound (p : Parser) : Nat := 4 * p.scanner.bound + 64

def defaultTagDirectives : List (String × String) := [("!", "!"), ("!!", "tag:yaml.org,2002:")]

/-- Reads the directives before a document: at most one version directive, naming version
1.1, and tag directives with distinct handles; the predefined handles are added after. -/
def directives : Parse Unit := do
  let mut version := false
  for _ in [0:(← get).bound] do
    let t ← token
    if t.kind == .versionDirective then
      if version then throw (parseFault "found duplicate %YAML directive" t.start)
      if t.major != 1 || t.minor != 1 then throw (parseFault "found incompatible YAML document" t.start)
      version := true
    else if t.kind == .tagDirective then
      if (← get).tagDirectives.any (·.1 == t.value) then
        throw (parseFault "found duplicate %TAG directive" t.start)
      modify fun p => { p with tagDirectives := p.tagDirectives ++ [(t.value, t.suffix)] }
    else break
    take
  modify fun p => { p with tagDirectives := defaultTagDirectives.foldl (fun ds d =>
    if ds.any (·.1 == d.1) then ds else ds ++ [d]) p.tagDirectives }

/-- Expects the start of the stream. -/
def streamStart : Parse Event := do
  let t ← token
  if t.kind != .streamStart then throw (parseFault "did not find expected <stream-start>" t.start)
  goTo .implicitDocumentStart
  take
  return { kind := .streamStart, start := t.start, stop := t.stop }

/-- Starts a document, or ends the stream. -/
def documentStart (implicit : Bool) : Parse Event := do
  let mut t ← token
  if !implicit then
    for _ in [0:(← get).bound] do
      if t.kind != .documentEnd then break
      take
      t ← token
  let opens := t.kind == .versionDirective || t.kind == .tagDirective ||
    t.kind == .documentStart || t.kind == .streamEnd
  if implicit && !opens then
    directives
    pushState .documentEnd
    goTo .blockNode
    return { kind := .documentStart, start := t.start, stop := t.stop }
  else if t.kind != .streamEnd then
    let start := t.start
    directives
    let marker ← token
    if marker.kind != .documentStart then
      throw (parseFault "did not find expected <document start>" marker.start)
    pushState .documentEnd
    goTo .documentContent
    take
    return { kind := .documentStart, start, stop := marker.stop }
  else
    goTo .finished
    take
    return { kind := .streamEnd, start := t.start, stop := t.stop }

/-- Reads the content of an explicit document, which may be empty. -/
def documentContent (node : Parse Event) : Parse Event := do
  let t ← token
  if t.kind == .versionDirective || t.kind == .tagDirective || t.kind == .documentStart ||
      t.kind == .documentEnd || t.kind == .streamEnd then
    popState
    return emptyScalar t.start
  else node

/-- Ends a document, taking its `...` marker if there is one; its tag directives end with it. -/
def documentEnd : Parse Event := do
  let t ← token
  let mut stop := t.start
  if t.kind == .documentEnd then
    stop := t.stop
    take
  modify fun p => { p with tagDirectives := [] }
  goTo .documentStart
  return { kind := .documentEnd, start := t.start, stop }

/-- Reads a node: an alias, or content with an optional anchor and tag in either order. -/
def node (block indentless : Bool) : Parse Event := do
  let mut t ← token
  if t.kind == .alias then
    popState
    take
    return { kind := .alias, start := t.start, stop := t.stop, anchor := t.value }
  let mut start := t.start
  let mut stop := t.start
  let mut anchor := ""
  let mut tagged := false
  let mut handle := ""
  let mut suffix := ""
  let mut tagMark := t.start
  if t.kind == .anchor then
    anchor := t.value
    stop := t.stop
    take
    t ← token
    if t.kind == .tag then
      tagged := true
      handle := t.value
      suffix := t.suffix
      tagMark := t.start
      stop := t.stop
      take
      t ← token
  else if t.kind == .tag then
    tagged := true
    handle := t.value
    suffix := t.suffix
    tagMark := t.start
    stop := t.stop
    take
    t ← token
    if t.kind == .anchor then
      anchor := t.value
      stop := t.stop
      take
      t ← token
  let mut tag := ""
  if tagged then
    if handle.isEmpty then tag := suffix
    else
      match (← get).tagDirectives.find? (·.1 == handle) with
      | some (_, pfx) => tag := pfx ++ suffix
      | none => throw (parseFault "found undefined tag handle" tagMark start)
  if indentless && t.kind == .blockEntry then
    goTo .indentlessSequenceEntry
    return { kind := .sequenceStart, start, stop := t.stop, anchor, tag }
  if t.kind == .scalar then
    popState
    take
    return { kind := .scalar, start, stop := t.stop, anchor, tag, value := t.value, style := t.style }
  if t.kind == .flowSequenceStart then
    goTo .flowSequenceFirstEntry
    return { kind := .sequenceStart, start, stop := t.stop, anchor, tag, flow := true }
  if t.kind == .flowMappingStart then
    goTo .flowMappingFirstKey
    return { kind := .mappingStart, start, stop := t.stop, anchor, tag, flow := true }
  if block && t.kind == .blockSequenceStart then
    goTo .blockSequenceFirstEntry
    return { kind := .sequenceStart, start, stop := t.stop, anchor, tag }
  if block && t.kind == .blockMappingStart then
    goTo .blockMappingFirstKey
    return { kind := .mappingStart, start, stop := t.stop, anchor, tag }
  if !anchor.isEmpty || !tag.isEmpty then
    popState
    return { kind := .scalar, start, stop, anchor, tag }
  throw (parseFault "did not find expected node content" t.start start)

/-- Reads an entry of a block sequence, or its end. -/
def blockSequenceEntry (first : Bool) : Parse Event := do
  if first then
    pushMark (← token).start
    take
  let t ← token
  if t.kind == .blockEntry then
    take
    let next ← token
    if next.kind != .blockEntry && next.kind != .blockEnd then
      pushState .blockSequenceEntry
      node true false
    else
      goTo .blockSequenceEntry
      return emptyScalar t.stop
  else if t.kind == .blockEnd then
    popState
    let _ ← popMark
    take
    return { kind := .sequenceEnd, start := t.start, stop := t.stop }
  else
    let context ← popMark
    throw (parseFault "did not find expected '-' indicator" t.start context)

/-- Reads an entry of a sequence at its key's indentation, or its end. -/
def indentlessSequenceEntry : Parse Event := do
  let t ← token
  if t.kind == .blockEntry then
    take
    let next ← token
    if next.kind != .blockEntry && next.kind != .key && next.kind != .value && next.kind != .blockEnd then
      pushState .indentlessSequenceEntry
      node true false
    else
      goTo .indentlessSequenceEntry
      return emptyScalar t.stop
  else
    popState
    return { kind := .sequenceEnd, start := t.start, stop := t.start }

/-- Reads a key of a block mapping, or its end. -/
def blockMappingKey (first : Bool) : Parse Event := do
  if first then
    pushMark (← token).start
    take
  let t ← token
  if t.kind == .key then
    take
    let next ← token
    if next.kind != .key && next.kind != .value && next.kind != .blockEnd then
      pushState .blockMappingValue
      node true true
    else
      goTo .blockMappingValue
      return emptyScalar t.stop
  else if t.kind == .blockEnd then
    popState
    let _ ← popMark
    take
    return { kind := .mappingEnd, start := t.start, stop := t.stop }
  else
    let context ← popMark
    throw (parseFault "did not find expected key" t.start context)

/-- Reads a value of a block mapping, which may be empty. -/
def blockMappingValue : Parse Event := do
  let t ← token
  if t.kind == .value then
    take
    let next ← token
    if next.kind != .key && next.kind != .value && next.kind != .blockEnd then
      pushState .blockMappingKey
      node true true
    else
      goTo .blockMappingKey
      return emptyScalar t.stop
  else
    goTo .blockMappingKey
    return emptyScalar t.start

/-- Reads an entry of a flow sequence, or its end; entries after the first follow a `,`. -/
def flowSequenceEntry (first : Bool) : Parse Event := do
  if first then
    pushMark (← token).start
    take
  let mut t ← token
  if t.kind != .flowSequenceEnd then
    if !first then
      if t.kind == .flowEntry then
        take
        t ← token
      else
        let context ← popMark
        throw (parseFault "did not find expected ',' or ']'" t.start context)
    if t.kind == .key then
      goTo .flowSequenceEntryMappingKey
      take
      return { kind := .mappingStart, start := t.start, stop := t.stop, flow := true }
    else if t.kind != .flowSequenceEnd then
      pushState .flowSequenceEntry
      return ← node false false
  popState
  let _ ← popMark
  take
  return { kind := .sequenceEnd, start := t.start, stop := t.stop }

/-- Reads the key of a pair inside a flow sequence. -/
def flowSequenceEntryMappingKey : Parse Event := do
  let t ← token
  if t.kind != .value && t.kind != .flowEntry && t.kind != .flowSequenceEnd then
    pushState .flowSequenceEntryMappingValue
    node false false
  else
    take
    goTo .flowSequenceEntryMappingValue
    return emptyScalar t.stop

/-- Reads the value of a pair inside a flow sequence, which may be empty. -/
def flowSequenceEntryMappingValue : Parse Event := do
  let t ← token
  if t.kind == .value then
    take
    let next ← token
    if next.kind != .flowEntry && next.kind != .flowSequenceEnd then
      pushState .flowSequenceEntryMappingEnd
      return ← node false false
  goTo .flowSequenceEntryMappingEnd
  return emptyScalar t.start

def flowSequenceEntryMappingEnd : Parse Event := do
  let t ← token
  goTo .flowSequenceEntry
  return { kind := .mappingEnd, start := t.start, stop := t.start }

/-- Reads a key of a flow mapping, or its end; keys after the first follow a `,`. -/
def flowMappingKey (first : Bool) : Parse Event := do
  if first then
    pushMark (← token).start
    take
  let mut t ← token
  if t.kind != .flowMappingEnd then
    if !first then
      if t.kind == .flowEntry then
        take
        t ← token
      else
        let context ← popMark
        throw (parseFault "did not find expected ',' or '\x7d'" t.start context)
    if t.kind == .key then
      take
      let next ← token
      if next.kind != .value && next.kind != .flowEntry && next.kind != .flowMappingEnd then
        pushState .flowMappingValue
        return ← node false false
      else
        goTo .flowMappingValue
        return emptyScalar next.start
    else if t.kind != .flowMappingEnd then
      pushState .flowMappingEmptyValue
      return ← node false false
  popState
  let _ ← popMark
  take
  return { kind := .mappingEnd, start := t.start, stop := t.stop }

/-- Reads a value of a flow mapping, which may be empty, and is empty after a key without `:`. -/
def flowMappingValue (empty : Bool) : Parse Event := do
  let t ← token
  if empty then
    goTo .flowMappingKey
    return emptyScalar t.start
  let mut at0 := t.start
  if t.kind == .value then
    take
    let next ← token
    at0 := next.start
    if next.kind != .flowEntry && next.kind != .flowMappingEnd then
      pushState .flowMappingKey
      return ← node false false
  goTo .flowMappingKey
  return emptyScalar at0

/-- The next event, or none once the stream has ended. -/
def nextEvent : Parse (Option Event) := do
  let p ← get
  if p.scanner.ended then return none
  match p.state with
  | .streamStart => some <$> streamStart
  | .implicitDocumentStart => some <$> documentStart true
  | .documentStart => some <$> documentStart false
  | .documentContent => some <$> documentContent (node true false)
  | .documentEnd => some <$> documentEnd
  | .blockNode => some <$> node true false
  | .blockNodeOrIndentlessSequence => some <$> node true true
  | .flowNode => some <$> node false false
  | .blockSequenceFirstEntry => some <$> blockSequenceEntry true
  | .blockSequenceEntry => some <$> blockSequenceEntry false
  | .indentlessSequenceEntry => some <$> indentlessSequenceEntry
  | .blockMappingFirstKey => some <$> blockMappingKey true
  | .blockMappingKey => some <$> blockMappingKey false
  | .blockMappingValue => some <$> blockMappingValue
  | .flowSequenceFirstEntry => some <$> flowSequenceEntry true
  | .flowSequenceEntry => some <$> flowSequenceEntry false
  | .flowSequenceEntryMappingKey => some <$> flowSequenceEntryMappingKey
  | .flowSequenceEntryMappingValue => some <$> flowSequenceEntryMappingValue
  | .flowSequenceEntryMappingEnd => some <$> flowSequenceEntryMappingEnd
  | .flowMappingFirstKey => some <$> flowMappingKey true
  | .flowMappingKey => some <$> flowMappingKey false
  | .flowMappingValue => some <$> flowMappingValue false
  | .flowMappingEmptyValue => some <$> flowMappingValue true
  | .finished => return none

end FlashArb.Yaml
