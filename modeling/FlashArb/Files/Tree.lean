import FlashArb.Failure

/-! A small model of a POSIX file tree. -/
namespace FlashArb

/-- A path: its components, the first being the tree's root directory. -/
abbrev FilePath := List String

/-- The text of a path, components joined by `/`. -/
def FilePath.render : FilePath → String
  | "" :: rest => "/".intercalate rest
  | p => "/".intercalate p

def FilePath.ofRelative (s : String) : FilePath := "" :: s.splitOn "/"

/-- The path a path names: empty and `.` components are dropped and `..` steps back to the
directory above, never past the first component. -/
def FilePath.resolve : FilePath → FilePath
  | [] => []
  | root :: rest => root :: rest.foldl (fun acc c =>
      if c == "" || c == "." then acc else if c == ".." then acc.dropLast else acc ++ [c]) []

/-- What a path names. -/
inductive Entry where
  | dir
  | file (content : String)
deriving DecidableEq, Inhabited

/-- Why a file operation failed. -/
inductive Errno where
  | noEntry
  | notDir
  | isDir
  | exists
deriving DecidableEq, Inhabited

def Errno.text : Errno → String
  | .noEntry => "no such file or directory"
  | .notDir => "not a directory"
  | .isDir => "is a directory"
  | .exists => "file exists"

def pathFailure (op : String) (path : FilePath) (e : Errno) : Failure :=
  Failure.plain (op ++ " " ++ path.render ++ ": " ++ e.text)

/-- A file tree: the entries other than the root, by path. -/
structure FileTree where
  entries : List (FilePath × Entry) := []

namespace FileTree

def entry? (t : FileTree) (p : FilePath) : Option Entry :=
  let p := p.resolve
  if p.length ≤ 1 then some .dir else t.entries.lookup p

/-- Resolves the directories above a path: every proper prefix longer than the root must be a
directory. -/
def checkParents (t : FileTree) (p : FilePath) : Except Errno Unit :=
  ((List.range (p.length - 1)).map fun i => p.take (i + 1)).foldlM (fun _ q =>
    match t.entry? q with
    | some .dir => .ok ()
    | some (.file _) => .error .notDir
    | none => .error .noEntry) ()

/-- What a path names, after resolving the directories above it. -/
def stat (t : FileTree) (p : FilePath) : Except Errno Entry := do
  t.checkParents p
  match t.entry? p with
  | some e => return e
  | none => throw .noEntry

def put (t : FileTree) (p : FilePath) (e : Entry) : FileTree :=
  let p := p.resolve
  { entries := (p, e) :: t.entries.filter (·.1 != p) }

def remove (t : FileTree) (p : FilePath) : FileTree :=
  let p := p.resolve
  { entries := t.entries.filter fun (q, _) => !p.isPrefixOf q }

/-- Creates a directory and the directories above it that are missing. -/
def mkdirAll (t : FileTree) (p : FilePath) : Outcome FileTree :=
  ((List.range p.length).map fun i => p.take (i + 1)).foldlM (fun t q =>
    match t.entry? q with
    | some .dir => .ok t
    | some (.file _) => .error (pathFailure "mkdir" q .notDir)
    | none => .ok (t.put q .dir)) t

/-- Creates or truncates a file and writes `content` to it. -/
def writeFile (t : FileTree) (p : FilePath) (content : String) : Outcome FileTree :=
  match t.checkParents p with
  | .error e => .error (pathFailure "open" p e)
  | .ok () =>
    match t.entry? p with
    | some .dir => .error (pathFailure "open" p .isDir)
    | _ => .ok (t.put p (.file content))

/-- Appends `content` to a file, creating it when missing. -/
def appendFile (t : FileTree) (p : FilePath) (content : String) : Outcome FileTree :=
  match t.checkParents p with
  | .error e => .error (pathFailure "open" p e)
  | .ok () =>
    match t.entry? p with
    | some .dir => .error (pathFailure "open" p .isDir)
    | some (.file old) => .ok (t.put p (.file (old ++ content)))
    | none => .ok (t.put p (.file content))

/-- The content of a file. -/
def readFile (t : FileTree) (p : FilePath) : Outcome String :=
  match t.stat p with
  | .error e => .error (pathFailure "open" p e)
  | .ok .dir => .error (pathFailure "read" p .isDir)
  | .ok (.file c) => .ok c

/-- Moves a file over another path. A directory at the target is never replaced. -/
def rename (t : FileTree) (old new : FilePath) : Outcome FileTree :=
  let fail (e : Errno) : Failure :=
    Failure.plain ("rename " ++ old.render ++ " " ++ new.render ++ ": " ++ e.text)
  match t.stat old with
  | .error e => .error (fail e)
  | .ok src =>
    match t.stat new with
    | .ok .dir => .error (fail .exists)
    | .ok (.file _) =>
      if src == .dir then .error (fail .notDir) else .ok ((t.remove old).put new src)
    | .error .notDir => .error (fail .notDir)
    | .error _ =>
      match t.checkParents new with
      | .error e => .error (fail e)
      | .ok () => .ok ((t.remove old).put new src)

end FileTree

end FlashArb
