import FlashArb.Yaml.Event
import FlashArb.Yaml.Resolve

/-! The third stage builds the node tree of the first document from the events. -/
namespace FlashArb.Yaml

/-- The kinds of nodes. -/
inductive NodeKind where
  | document
  | sequence
  | mapping
  | scalar
  | alias
deriving DecidableEq, Inhabited

/-- A node of the tree. -/
structure Node where
  kind : NodeKind
  tag : String := ""
  value : String := ""
  style : ScalarStyle := .plain
  line : Nat := 0
  column : Nat := 0
  /-- The children: a document's node, a sequence's items, a mapping's keys and values in turn. -/
  content : List Nat := []
  /-- The node an alias refers to. -/
  target : Option Nat := none
deriving Inhabited

/-- The state of the tree's construction. -/
structure Composer where
  parser : Parser
  /-- The event read but not yet used. -/
  event : Option Event := none
  nodes : Array Node := #[]
  /-- The anchors met so far, the latest first. -/
  anchors : List (String × Nat) := []

/-- The construction as a state over fault messages. -/
abbrev Compose := StateT Composer (Except String)

/-- The event read next, reading it if needed. -/
def Composer.peek : Compose Event := do
  match (← get).event with
  | some e => return e
  | none =>
    -- the composer lets go of the parser while it runs, so that it is updated in place
    let p ← modifyGet fun c => (c.parser, { c with parser := { scanner := Scanner.empty } })
    match nextEvent.run p with
    | .error f => throw f.message
    | .ok (none, _) => throw "yaml: unexpected end of events"
    | .ok (some e, p) =>
      if let some f := p.scanner.pending then throw f.message
      modify fun c => { c with parser := p, event := some e }
      return e

/-- Uses the event read next, which must be of kind `k`. -/
def Composer.expect (k : EventKind) : Compose Unit := do
  let e ← Composer.peek
  if e.kind == .streamEnd then throw "yaml: attempted to go past the end of stream; corrupted value?"
  if e.kind != k then throw ("yaml: expected " ++ k.name ++ " event but got " ++ e.kind.name)
  modify fun c => { c with event := none }

/-- Adds a node for event `e`, with its tag settled, and returns its position. -/
def Composer.add (kind : NodeKind) (defaultTag : String) (e : Event) (value : String) : Compose Nat := do
  let tag :=
    if e.tag != "" && e.tag != "!" then shortTag e.tag
    else if defaultTag != "" then defaultTag
    else if kind == .scalar then (resolvePlain "" value).1
    else ""
  let n : Node := { kind, tag, value, style := e.style, line := e.start.line + 1,
                    column := e.start.column + 1 }
  modifyGet fun c => (c.nodes.size, { c with nodes := c.nodes.push n })

def Composer.anchor (i : Nat) (name : String) : Compose Unit :=
  if name.isEmpty then pure () else modify fun c => { c with anchors := (name, i) :: c.anchors }

def Composer.setContent (i : Nat) (content : List Nat) : Compose Unit :=
  modify fun c => { c with nodes := c.nodes.modify i fun n => { n with content } }

/-- A bound on the events a collection holds. -/
def Composer.bound (c : Composer) : Nat := 4 * c.parser.bound

/-- Builds a scalar node. -/
def Composer.scalar : Compose Nat := do
  let e ← Composer.peek
  let defaultTag :=
    if e.style != .plain then strTag else if e.value == "<<" then mergeTag else ""
  let i ← Composer.add .scalar defaultTag e e.value
  Composer.anchor i e.anchor
  Composer.expect .scalar
  return i

/-- Builds an alias node, which refers to the latest node with its anchor. -/
def Composer.alias : Compose Nat := do
  let e ← Composer.peek
  let i ← Composer.add .alias "" { e with tag := "" } e.anchor
  match (← get).anchors.lookup e.anchor with
  | none => throw ("yaml: unknown anchor '" ++ e.anchor ++ "' referenced")
  | some t => modify fun c => { c with nodes := c.nodes.modify i fun n => { n with target := some t } }
  Composer.expect .alias
  return i

mutual

/-- Builds the node that starts with the next event, within `fuel` levels of nesting; none at
the end of the stream. -/
def Composer.node : Nat → Compose (Option Nat)
  | 0 => throw "yaml: exceeded max depth"
  | fuel + 1 => do
    let e ← Composer.peek
    match e.kind with
    | .scalar => some <$> Composer.scalar
    | .alias => some <$> Composer.alias
    | .mappingStart => some <$> Composer.mapping fuel
    | .sequenceStart => some <$> Composer.sequence fuel
    | .documentStart => some <$> Composer.document fuel
    | .streamEnd => return none
    | k => throw ("yaml: internal error: attempted to parse unknown event: " ++ k.name)

/-- Builds a sequence node and its items. -/
def Composer.sequence (fuel : Nat) : Compose Nat := do
  let e ← Composer.peek
  let i ← Composer.add .sequence seqTag e ""
  Composer.anchor i e.anchor
  Composer.expect .sequenceStart
  let mut items : Array Nat := #[]
  for _ in [0:(← get).bound] do
    if (← Composer.peek).kind == .sequenceEnd then break
    if let some item ← Composer.node fuel then items := items.push item
  Composer.setContent i items.toList
  Composer.expect .sequenceEnd
  return i

/-- Builds a mapping node with its keys and values. -/
def Composer.mapping (fuel : Nat) : Compose Nat := do
  let e ← Composer.peek
  let i ← Composer.add .mapping mapTag e ""
  Composer.anchor i e.anchor
  Composer.expect .mappingStart
  let mut items : Array Nat := #[]
  for _ in [0:(← get).bound] do
    if (← Composer.peek).kind == .mappingEnd then break
    if let some k ← Composer.node fuel then items := items.push k
    if let some v ← Composer.node fuel then items := items.push v
  Composer.setContent i items.toList
  Composer.expect .mappingEnd
  return i

/-- Builds a document node with its one child. -/
def Composer.document (fuel : Nat) : Compose Nat := do
  let e ← Composer.peek
  let i ← Composer.add .document "" { e with tag := "" } ""
  Composer.expect .documentStart
  if let some child ← Composer.node fuel then Composer.setContent i [child]
  let _ ← Composer.peek
  Composer.expect .documentEnd
  return i

end

/-- The nodes of the first document of a text and the position of its document node; none
for a text without documents. -/
def compose (text : String) : Except String (Option (Array Node × Nat)) := do
  let start : Composer := { parser := { scanner := Scanner.ofString text } }
  let run : Compose (Option Nat) := do
    Composer.expect .streamStart
    Composer.node (start.bound + 1)
  let (root, c) ← run.run start
  return root.map fun r => (c.nodes, r)

end FlashArb.Yaml
