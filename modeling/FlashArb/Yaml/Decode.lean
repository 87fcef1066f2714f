import FlashArb.Yaml.Node
import FlashArb.Text.Utf8

/-! Decoding YAML nodes into values. -/
namespace FlashArb.Yaml

/-- A place a node is decoded into. -/
inductive Slot where
  /-- A place for a value of any kind. -/
  | any
  /-- A place for text. -/
  | text
  /-- An existing map; `textKeys` says whether its keys are text. -/
  | into (textKeys : Bool) (members : List (Datum × Datum))

/-- The type of a slot as faults name it. -/
def Slot.typeName : Slot → String
  | .any => "interface \x7b\x7d"
  | .text => "string"
  | .into true _ => "map[string]interface \x7b\x7d"
  | .into false _ => "map[interface \x7b\x7d]interface \x7b\x7d"

def Slot.current : Slot → Datum
  | .any => .null
  | .text => .text ""
  | .into textKeys members => .map textKeys members

/-- The state of decoding. -/
structure Decoder where
  nodes : Array Node
  decodes : Nat := 0
  aliasDecodes : Nat := 0
  aliasDepth : Nat := 0
  /-- The alias nodes being decoded. -/
  active : List Nat := []
  /-- The type faults found so far. -/
  faults : Array String := #[]
  /-- The keys a merge must not set again, while a merge is being applied. -/
  merged : Option (List Datum) := none

/-- Decoding as a state over fault messages. -/
abbrev Decode := StateT Decoder (Except String)

def Decoder.node (d : Decoder) (i : Nat) : Node := d.nodes.getD i default

def Node.isText (n : Node) : Bool :=
  n.kind == .scalar && (shortTag n.tag == strTag ||
    ((n.tag == "" || n.tag == "!") && n.style != .plain))

/-- The short tag of a node, looking through an alias. -/
def Decoder.shortTagOf (d : Decoder) (n : Node) : String :=
  let own (n : Node) : String :=
    if n.isText then strTag
    else if n.tag == "" || n.tag == "!" then
      match n.kind with
      | .mapping => mapTag
      | .sequence => seqTag
      | .scalar => (resolvePlain "" n.value).1
      | _ => ""
    else shortTag n.tag
  if n.kind == .alias && (n.tag == "" || n.tag == "!") then
    match n.target with
    | some t => own (d.node t)
    | none => ""
  else own n

def Node.isMergeKey (n : Node) : Bool :=
  n.kind == .scalar && n.value == "<<" && (n.tag == "" || n.tag == "!" || shortTag n.tag == mergeTag)

def allowedAliasShare (decodes : Nat) : Float :=
  if decodes ≤ 400000 then 0.99
  else if decodes ≥ 4000000 then 0.10
  else 0.99 - 0.89 * ((decodes - 400000).toFloat / 3600000.0)

/-- Counts a decode, refusing documents whose aliases expand too much. -/
def countDecode : Decode Unit := do
  modify fun d => { d with decodes := d.decodes + 1,
                           aliasDecodes := if d.aliasDepth > 0 then d.aliasDecodes + 1 else d.aliasDecodes }
  let d ← get
  if d.aliasDecodes > 100 && d.decodes > 1000 &&
      d.aliasDecodes.toFloat / d.decodes.toFloat > allowedAliasShare d.decodes then
    throw "yaml: document contains excessive aliasing"

/-- Records a type fault: the node, its tag (with its text unless it is a collection), and the
slot. Long text is cut to seven bytes. -/
def typeFault (n : Node) (tag : String) (slot : Slot) : Decode Unit := do
  let tag := if n.tag != "" then n.tag else tag
  let shown :=
    if tag == seqTag || tag == mapTag then ""
    else
      let bytes := n.value.toUTF8.toList
      if bytes.length > 10 then " \x60" ++ Text.lossyString (bytes.take 7) ++ "...\x60"
      else " \x60" ++ n.value ++ "\x60"
  let fault := "line " ++ toString n.line ++ ": cannot unmarshal " ++ shortTag tag ++ shown ++
    " into " ++ slot.typeName
  modify fun d => { d with faults := d.faults.push fault }

/-- Decodes null into a slot: a slot of any kind takes it, a text slot does not, and a map is
emptied. -/
def decodeNull (slot : Slot) : Bool × Datum :=
  match slot with
  | .any => (true, .null)
  | .text => (false, .text "")
  | .into textKeys _ => (true, .map textKeys [])

/-- Decodes a scalar. -/
def decodeScalar (n : Node) (slot : Slot) : Decode (Bool × Datum) := do
  let (tag, value) ←
    if n.isText then pure (strTag, Datum.text n.value)
    else
      match resolve n.tag n.value with
      | .error e => throw ("yaml: " ++ e)
      | .ok (tag, value) =>
        if tag == binaryTag then
          match decodeBase64 n.value with
          | none => throw "yaml: !!binary value contains invalid base64 data"
          | some bytes => pure (tag, Datum.text (Text.lossyString bytes))
        else pure (tag, value)
  match value, slot with
  | .null, _ => return decodeNull slot
  | .text s, .text => return (true, .text (if tag == binaryTag then s else n.value))
  | _, .text => return (true, .text n.value)
  | _, .any => return (true, value)
  | _, .into _ _ =>
    typeFault n tag slot
    return (false, slot.current)

/-- The faults of keys written twice in a mapping: each later key of the same kind and text as
an earlier one, in the order of the earlier. -/
def duplicateKeys (keys : List Node) : List String :=
  let rec go : List Node → List String
    | [] => []
    | k :: rest =>
      (rest.filter fun k' => k'.kind == k.kind && k'.value == k.value).map (fun k' =>
        "line " ++ toString k'.line ++ ": mapping key " ++ Text.quote k'.value ++
          " already defined at line " ++ toString k.line) ++ go rest
  go keys

def pairsOf : List Nat → List (Nat × Nat)
  | k :: v :: rest => (k, v) :: pairsOf rest
  | _ => []

def mergeFault : String := "yaml: map merge requires map or sequence of maps as the value"

mutual

/-- Decodes the node at `i` into a slot, within `fuel` levels: whether it decoded, and the
slot's value after. -/
def decodeNode : Nat → Nat → Slot → Decode (Bool × Datum)
  | 0, _, _ => throw "yaml: exceeded max depth"
  | fuel + 1, i, slot => do
    countDecode
    let n := (← get).node i
    match n.kind with
    | .document =>
      match n.content with
      | [child] =>
        let (_, v) ← decodeNode fuel child slot
        return (true, v)
      | _ => return (false, slot.current)
    | .alias =>
      if (← get).active.contains i then
        throw ("yaml: anchor '" ++ n.value ++ "' value contains itself")
      modify fun d => { d with active := i :: d.active, aliasDepth := d.aliasDepth + 1 }
      let r ← match n.target with
        | some t => decodeNode fuel t slot
        | none => pure (false, slot.current)
      modify fun d => { d with active := d.active.erase i, aliasDepth := d.aliasDepth - 1 }
      return r
    | .scalar => decodeScalar n slot
    | .sequence =>
      match slot with
      | .any =>
        let mut items : Array Datum := #[]
        for item in n.content do
          let (ok, v) ← decodeNode fuel item .any
          if ok then items := items.push v
        return (true, .list items.toList)
      | _ =>
        typeFault n seqTag slot
        return (false, slot.current)
    | .mapping =>
      let d ← get
      let dups := duplicateKeys ((pairsOf n.content).map fun (k, _) => d.node k)
      if !dups.isEmpty then
        modify fun d => { d with faults := d.faults ++ dups.toArray }
        return (false, slot.current)
      match slot with
      | .text =>
        typeFault n mapTag slot
        return (false, slot.current)
      | .any =>
        let textKeys := (pairsOf n.content).all fun (k, _) =>
          let t := d.shortTagOf (d.node k)
          t == strTag || t == mergeTag
        decodeMembers fuel n textKeys []
      | .into textKeys members => decodeMembers fuel n textKeys members

/-- Decodes a mapping's members into a map, then applies its merge key. -/
def decodeMembers (fuel : Nat) (n : Node) (textKeys : Bool) (start : List (Datum × Datum)) :
    Decode (Bool × Datum) := do
  let mut fields := (← get).merged
  modify fun d => { d with merged := none }
  let mut members := start
  let mut mergeValue : Option Nat := none
  for (k, v) in pairsOf n.content do
    if ((← get).node k).isMergeKey then
      mergeValue := some v
      continue
    let (ok, key) ← decodeNode fuel k (if textKeys then .text else .any)
    if ok then
      if let some fs := fields then
        if fs.any (·.sameKey key) then continue
        fields := some (fs ++ [key])
      if key.isCollection then throw ("yaml: invalid map key: " ++ key.spelled)
      let (vok, value) ← decodeNode fuel v .any
      let d ← get
      if vok || (d.shortTagOf (d.node v) == nullTag && !members.any (·.1.sameKey key)) then
        members := Datum.put members key value
  modify fun d => { d with merged := fields }
  match mergeValue with
  | none => return (true, .map textKeys members)
  | some m => return (true, .map textKeys (← merge fuel n m textKeys members))

/-- Applies a merge key of the mapping `parent` whose value is the node at `m`. -/
def merge (fuel : Nat) (parent : Node) (m : Nat) (textKeys : Bool) (start : List (Datum × Datum)) :
    Decode (List (Datum × Datum)) := do
  let saved := (← get).merged
  if saved.isNone then
    modify fun d => { d with merged := some [] }
    for (k, _) in pairsOf parent.content do
      let (ok, key) ← decodeNode fuel k .any
      if ok then modify fun d => { d with merged := d.merged.map (· ++ [key]) }
  let d ← get
  let source := d.node m
  let isMapping (i : Nat) : Bool :=
    let n := d.node i
    n.kind == .mapping || (n.kind == .alias && (n.target.map fun t => (d.node t).kind == .mapping).getD true)
  let targets ← match source.kind with
    | .mapping => pure [m]
    | .alias => if isMapping m then pure [m] else throw mergeFault
    | .sequence => if source.content.all isMapping then pure source.content else throw mergeFault
    | _ => throw mergeFault
  let mut members := start
  for t in targets do
    let (_, v) ← decodeNode fuel t (.into textKeys members)
    match v with
    | .map _ ms => members := ms
    | _ => pure ()
  if saved.isNone then modify fun d => { d with merged := none }
  return members

end

/-- Decodes a document into a map with text keys: its members, or the type faults found. -/
def decodeDocument (nodes : Array Node) (root : Nat) : Except String (List (Datum × Datum)) := do
  let fuel := (nodes.size + 1) * (nodes.size + 1) + 16
  let ((_, value), d) ← (decodeNode fuel root (.into true [])).run { nodes }
  if !d.faults.isEmpty then
    throw ("yaml: unmarshal errors:\n  " ++ "\n  ".intercalate d.faults.toList)
  match value with
  | .map _ members => return members
  | _ => return []

end FlashArb.Yaml
