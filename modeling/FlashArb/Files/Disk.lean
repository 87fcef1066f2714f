import FlashArb.Files.Tree

/-! The file operations a component needs, and a disk kept in state. -/
namespace FlashArb

/-- File operations. -/
structure Disk (m : Type → Type) where
  stat : FilePath → m (Except Errno Entry)
  readFile : FilePath → m (Outcome String)
  mkdirAll : FilePath → m (Outcome Unit)
  writeFile : FilePath → String → m (Outcome Unit)
  appendFile : FilePath → String → m (Outcome Unit)
  rename : FilePath → FilePath → m (Outcome Unit)

namespace FileTree

/-- The disk of a file tree read with `load` and replaced with `store`. -/
def disk {m : Type → Type} [Monad m] (load : m FileTree) (store : FileTree → m Unit) : Disk m :=
  let update (f : FileTree → Outcome FileTree) : m (Outcome Unit) := do
    match f (← load) with
    | .ok t => store t; return .ok ()
    | .error e => return .error e
  { stat := fun p => do return (← load).stat p
    readFile := fun p => do return (← load).readFile p
    mkdirAll := fun p => update (·.mkdirAll p)
    writeFile := fun p c => update (·.writeFile p c)
    appendFile := fun p c => update (·.appendFile p c)
    rename := fun a b => update (·.rename a b) }

end FileTree

end FlashArb
