import FlashArb.App.Services
import FlashArb.Scripted.World
import FlashArb.Scripted.Network
import FlashArb.Scripted.Database

/-! The machine a bot runs on in the recorded runs. -/
namespace FlashArb.Scripted

def socketName : String := "node.ipc"

/-- What the names of a host's file system are, for a working directory at the absolute components
`home` holding the files of `tree`. -/
def hostPlace (home : List String) (tree : FileTree) : List String → Option Place :=
  let inside (rel : List String) : Option Place :=
    if rel == [socketName] then some .socket
    else match tree.entry? ("" :: rel) with
      | some .dir => some .dir
      | some (.file _) => some .file
      | none => none
  fun comps => match comps with
    | "/" :: rest =>
      if rest.length ≤ home.length && rest.isPrefixOf home then some .dir
      else if home.isPrefixOf rest then inside (rest.drop home.length)
      else none
    | rel => inside rel

/-- The host of a working directory at `home` holding the files of `tree`. -/
def hostServices (home : List String) (tree : FileTree) : App.Services ScriptM :=
  { network := scriptedNetwork (hostPlace home tree) (do return (← get).node)
      fun n => modify fun w => { w with node := n }
    disk := worldDisk
    path := FilePath.ofRelative
    database := offlineDatabase
    redis := redisAt
    clock := do return (← get).clock
    sleepUntil := fun t => modify fun w => { w with clock := max w.clock t }
    salt := pure 0
    nonces := do return (← get).nonces
    keepNonces := fun mgr => modify fun w => { w with nonces := some mgr } }

/-- The tree holding files of the given texts at paths relative to the working directory,
directories made as needed. -/
def workingFiles (files : List (String × String)) : FileTree :=
  files.foldl (fun t (rel, text) =>
    let p := FilePath.ofRelative rel
    match t.mkdirAll p.dropLast with
    | .ok t' => t'.put p (.file text)
    | .error _ => t) {}

end FlashArb.Scripted
