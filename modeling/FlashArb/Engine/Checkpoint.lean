import FlashArb.Files.Disk
import FlashArb.Json.Strict
import FlashArb.Json.Bind

/-! The last block whose logs were fully handled is kept in a small JSON file, so a restart resumes
scanning after it. -/
namespace FlashArb

/-- The content of a checkpoint file. -/
structure Checkpoint where
  lastProcessed : UInt64 := 0
  updatedAt : String := ""
deriving Inhabited

namespace Checkpoint

/-- Binds the members of a checkpoint object, keeping the first type error. -/
def bind (members : List (String × Json)) : Checkpoint × Option String :=
  members.foldl (fun (cp, err) (k, v) =>
    let keep (e : String) : Option String := err <|> some e
    let mismatch (value type field : String) : Option String :=
      keep (Json.fieldTypeError value "Checkpoint" field type)
    if Json.nameMatches k "last_processed_block" then
      match v with
      | .null => (cp, err)
      | .num t =>
        match Json.word64? t with
        | some n => ({ cp with lastProcessed := n.toUInt64 }, err)
        | none => (cp, mismatch ("number " ++ t) "uint64" "last_processed_block")
      | other => (cp, mismatch (Json.kindWord other) "uint64" "last_processed_block")
    else if Json.nameMatches k "updated_at" then
      match v with
      | .null => (cp, err)
      | .str s => ({ cp with updatedAt := s }, err)
      | other => (cp, mismatch (Json.kindWord other) "string" "updated_at")
    else (cp, err)) ({}, none)

/-- Reads a checkpoint file. A `null` document is an empty checkpoint. -/
def parse (text : String) : Except String Checkpoint := do
  match ← Json.parseStrict text with
  | .null => return {}
  | .obj ms =>
    match bind ms with
    | (cp, none) => return cp
    | (_, some e) => throw e
  | other => throw (Json.valueTypeError (Json.kindWord other) "bot.Checkpoint")

/-- The file text of a checkpoint. -/
def render (cp : Checkpoint) : String :=
  "\x7b\"last_processed_block\":" ++ toString cp.lastProcessed ++ ",\"updated_at\":\"" ++
    cp.updatedAt ++ "\"\x7d"

end Checkpoint

/-- Where checkpoints are kept, and the last block saved or loaded. -/
structure CheckpointStore where
  path : FilePath
  enabled : Bool
  saved : Option UInt64 := none
deriving Inhabited

namespace CheckpointStore

variable {m : Type → Type} [Monad m]

/-- Loads the checkpoint, if there is one. -/
def load (s : CheckpointStore) (disk : Disk m) :
    m (Outcome (Option Checkpoint) × CheckpointStore) := do
  if !s.enabled then return (.ok none, s)
  match ← disk.stat s.path with
  | .error .noEntry => return (.ok none, s)
  | .error e => return (.error ((pathFailure "stat" s.path e).wrap "stat checkpoint"), s)
  | .ok .dir => return (.error (Failure.plain "checkpoint path is a directory"), s)
  | .ok (.file _) =>
    match ← disk.readFile s.path with
    | .error e => return (.error (e.wrap "read checkpoint"), s)
    | .ok text =>
      match Checkpoint.parse text with
      | .error e => return (.error (Failure.plain ("parse checkpoint: " ++ e)), s)
      | .ok cp => return (.ok (some cp), { s with saved := some cp.lastProcessed })

/-- Writes a checkpoint for `block`: into a file beside the path, then renamed over it. -/
def write (s : CheckpointStore) (disk : Disk m) (block : UInt64) (stamp : String) :
    m (Outcome Unit) := do
  if s.path.length > 1 then
    if let .error e := ← disk.mkdirAll s.path.dropLast then
      return .error (e.wrap "create checkpoint dir")
  let tmp := s.path.dropLast ++ [s.path.getLastD "" ++ ".tmp"]
  if let .error e := ← disk.writeFile tmp (Checkpoint.render ⟨block, stamp⟩) then
    return .error (e.wrap "write checkpoint tmp")
  if let .error e := ← disk.rename tmp s.path then
    return .error (e.wrap "rename checkpoint")
  return .ok ()

/-- Saves `block` if it is past the last block saved. -/
def advance (s : CheckpointStore) (disk : Disk m) (block : UInt64) (stamp : String) :
    m (Outcome Unit × CheckpointStore) := do
  if !s.enabled then return (.ok (), s)
  if let some saved := s.saved then
    if block ≤ saved then return (.ok (), s)
  match ← s.write disk block stamp with
  | .error e => return (.error e, s)
  | .ok () => return (.ok (), { s with saved := some block })

end CheckpointStore

end FlashArb
