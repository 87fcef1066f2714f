import FlashArb.Store.Json
import FlashArb.Files.Disk

/-! Record files of JSON lines, and sinks fanning records out. -/
namespace FlashArb

variable {m : Type → Type} [Monad m]

/-- Appends one record line to the file at `path`. -/
def appendRecord (disk : Disk m) (path : FilePath) (kind : String) (record : Except String Json) :
    m (Outcome Unit) := do
  match record with
  | .error e => return .error (Failure.plain ("marshal " ++ kind ++ " record: " ++ e))
  | .ok r =>
    if path.length > 1 then
      if let .error e := ← disk.mkdirAll path.dropLast then
        return .error (e.wrap "create output dir")
    match ← disk.appendFile path (envelope kind r ++ "\n") with
    | .error e => return .error (e.wrap "open output file")
    | .ok () => return .ok ()

def jsonlStorage (disk : Disk m) (path : FilePath) : Storage m :=
  { putOpportunity := fun o => appendRecord disk path "opportunity" o.toJson
    putSubmission := fun s => appendRecord disk path "submission" (.ok s.toJson)
    close := return .ok () }

def allOf (rs : List (Outcome Unit)) : Outcome Unit :=
  match rs.filterMap fun r => match r with | .error e => some e | .ok () => none with
  | [] => .ok ()
  | fs => .error (Failure.combine fs)

def Storage.multi (sinks : List (Storage m)) : Storage m :=
  { putOpportunity := fun o => do return allOf (← sinks.mapM (·.putOpportunity o))
    putSubmission := fun s => do return allOf (← sinks.mapM (·.putSubmission s))
    close := do return allOf (← sinks.mapM (·.close)) }

end FlashArb
