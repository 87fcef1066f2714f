import FlashArb.App.Commands
import FlashArb.Scripted.Wiring
import FlashArb.Json.Reader
import FlashArb.Json.Writer

/-! Command lines of the bot run on the recorded host. -/
namespace FlashArb.Scripted

/-- How many subscriptions a run follows at most; the scripted node serves far fewer. -/
def followRounds : Nat := 1000

/-- The members of an object that are texts. -/
def textPairs (j : Json) : Decode (List (String × String)) :=
  match j with
  | .obj ms => ms.mapM fun (k, v) => match v with
    | .str s => .ok (k, s)
    | _ => .error ("member " ++ k ++ " is not text")
  | _ => .ok []

def textItems (j : Json) : Decode (List String) :=
  j.items.mapM fun v => match v with
    | .str s => .ok s
    | _ => .error "list holds a non-string"

/-- A member's value with what changes from run to run masked. -/
def maskMember (k : String) (v : Json) : Json :=
  if k == "id" || k == "opportunity_id" then
    match v with
    | .str s => if s.isEmpty then v else .str "<id>"
    | _ => v
  else if ["detected_at", "submitted_at", "finished_at", "updated_at"].contains k then .str "<time>"
  else v

def masked (j : Json) : Json := Json.mapMembers maskMember j

def entryLine (e : LogEntry) : Json :=
  .obj ([("level", .str e.level.name), ("msg", .str e.message)] ++ e.fields)

def sortedLogs (w : World) : Json :=
  let lines := w.logs.map fun e => masked (entryLine e)
  let keyed := lines.map fun j => (Json.render (Json.sortKeys j), j)
  .arr ((keyed.mergeSort fun a b => decide (a.1 ≤ b.1)).map (·.2))

/-- What a file of the working directory holds after a run. -/
def fileJson (w : World) (rel : String) : Json :=
  match w.files.readFile (FilePath.ofRelative rel) with
  | .error _ => .null
  | .ok text =>
    if rel.endsWith ".jsonl" then
      .arr (((text.splitOn "\n").filter (· != "")).map fun line =>
        match Json.parse line with
        | .ok j => masked j
        | .error _ => .str line)
    else match Json.parse text with
      | .ok j => masked j
      | .error _ => .str text

def filesJson (w : World) (read : List String) : Json :=
  .obj (read.map fun rel => (rel, fileJson w rel))

/-- The world a request sets up: the node's script and the working files. -/
structure Setup where
  world : World
  services : App.Services ScriptM
  env : List (String × String)

/-- Reads the scripted node, the environment and the working files of a request. -/
def setupOf (j : Json) : Decode Setup := do
  let script ← if j.has "node" then RpcScript.ofJson (j.field "node") else pure {}
  let files ← textPairs (j.field "files")
  let tree := workingFiles files
  return { world := { node := { script }, files := tree }, services := hostServices homeDir tree,
           env := ← textPairs (j.field "env") }

def keepLevel (l : Level) : ScriptM Unit := modify fun w => { w with threshold := l }

/-- The parts of an answer that tell what a run left behind. -/
def leftBehind (j : Json) (w : World) : Decode (List (String × Json)) := do
  let read ← textItems (j.field "read")
  let logs := match j.field "logs" with
    | .bool false => []
    | _ => [("logs", sortedLogs w)]
  let counted ← textItems (j.field "count")
  let counts := if j.has "count" then [("node_counts", nodeCounts w.node counted)] else []
  let stream := match j.field "stream" with
    | .str name => [("stream", streamJson (j.field "redis") name)]
    | _ => []
  return logs ++ [("files", filesJson w read)] ++ counts ++ stream

def errorLines (err : String) : Json :=
  .arr (((err.splitOn "\n").filter (· != "")).map .str)

/-- Runs a command line of the bot as its own process would. -/
def runCli (j : Json) : Decode Json := do
  let j := j.mapText fillPlaceholders
  let setup ← setupOf j
  let args ← textItems (j.field "args")
  let (exit, w) := (App.runCommandLine setup.services setup.env keepLevel followRounds args).run setup.world
  let answer : Json := .obj ([("exit_code", Json.ofNat exit.status), ("stdout", .str exit.out),
    ("stderr", errorLines exit.err)] ++ (← leftBehind j w))
  return answer.mapText showPlaceholders

def directFlags : List Cli.FlagSpec := App.rootFlags ++ App.commonFlags

/-- Runs the program's entry point, or one of its tasks directly with its flags. -/
def runCliDirect (j : Json) : Decode Json := do
  let j := j.mapText fillPlaceholders
  let args ← textItems (j.field "args")
  let setup ← setupOf j
  match ← Field.string j "command" with
  | "main" =>
    let (exit, _) := (App.runCommandLine setup.services setup.env keepLevel followRounds args).run setup.world
    return (Json.obj [("stdout", .str exit.out)]).mapText showPlaceholders
  | name =>
    let task ← match name with
      | "scan" => pure App.Task.scan
      | "run" => pure App.Task.run
      | other => throw ("unknown command " ++ other)
    match Cli.readArgs (directFlags.map Cli.FlagSpec.fresh) args with
    | .error e => return .obj [("flag_error", .str e.text)]
    | .ok (flags, _) =>
      let (result, w) := (App.perform setup.services setup.env keepLevel followRounds task flags).run
        setup.world
      let error : Json := match result with
        | .ok () => .null
        | .error f => f.toJson
      return (Json.obj ([("error", error)] ++ (← leftBehind j w))).mapText showPlaceholders

end FlashArb.Scripted
