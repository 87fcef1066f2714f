import FlashArb.Engine.Checkpoint
import FlashArb.Json.Fields

/-! A fresh directory as a file tree kept in state, with scripted faults. -/
namespace FlashArb.Scripted

def treeDisk : Disk (StateM FileTree) := FileTree.disk get set

def stamp : String := "1970-01-01T00:00:00Z"

def tmpPath (rel : String) : FilePath :=
  "<tmp>" :: (rel.splitOn "/").filter (fun c => !c.isEmpty && c != ".")

/-- The tree with plain empty files at the given relative paths, directories made as needed. -/
def withFiles (t : FileTree) (rels : List String) : FileTree :=
  rels.foldl (fun t rel =>
    let p := tmpPath rel
    match t.mkdirAll p.dropLast with
    | .ok t' => t'.put p (.file "")
    | .error _ => t) t

/-- The tree holding files of the given texts at relative paths, directories made as needed. -/
def withContents (t : FileTree) (files : List (String × String)) : FileTree :=
  files.foldl (fun t (rel, text) =>
    let p := tmpPath rel
    match t.mkdirAll p.dropLast with
    | .ok t' => t'.put p (.file text)
    | .error _ => t) t

def fileText (t : FileTree) (rel : String) : Json :=
  match t.readFile (tmpPath rel) with
  | .ok text => .str text
  | .error _ => .null

def checkpointPath : FilePath := ["<tmp>", "cp", "sub", "checkpoint.json"]

/-- What a checkpoint file says when read back: its block, `unparsed` when it holds none, or
`null` when it cannot be read. -/
def checkpointFileJson (t : FileTree) (path : FilePath) : Json :=
  match t.readFile path with
  | .error _ => .null
  | .ok text =>
    match Checkpoint.parse text, Json.parseStrict text with
    | .ok cp, .ok (.obj ms) =>
      if ms.any (fun (k, v) => Json.nameMatches k "last_processed_block" && !v.isNull) then
        .str (toString cp.lastProcessed)
      else .str "unparsed"
    | _, _ => .str "unparsed"

/-- The file tree a checkpoint script starts from. -/
def checkpointTree (j : Json) : Decode FileTree := do
  let path := checkpointPath
  let t : FileTree := {}
  let t := if ← Field.bool j "parent_is_file" then (t.put ["<tmp>", "cp"] .dir).put path.dropLast (.file "")
    else t
  let t := match ← Field.optString j "initial" with
    | some text => match t.mkdirAll path.dropLast with
      | .ok t' => t'.put path (.file text)
      | .error _ => t
    | none => t
  let t := if ← Field.bool j "path_is_dir" then (t.mkdirAll path).toOption.getD t else t
  let t := if ← Field.bool j "tmp_is_dir" then
      (t.mkdirAll (path.dropLast ++ ["checkpoint.json.tmp"])).toOption.getD t
    else t
  return t

end FlashArb.Scripted
