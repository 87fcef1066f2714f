import FlashArb.Cli.Request

/-! How a command line ends, from the command it names. -/
namespace FlashArb.Cli

/-- How a command line ends: what was printed and the exit status, or a task of the program to
run with its flags and positional arguments. -/
inductive Verdict (α : Type) where
  | finished (out err : String) (status : Nat)
  | perform (task : α) (flags : List Flag) (args : List String)

def errorText (message : String) : String := "Error: " ++ message ++ "\n"

/-- Runs a built-in or names the task of a command, once its flags and arguments are read. -/
def runAction {α : Type} (root : Command α) (p : Place α) (flags : List Flag)
    (positional : List String) : Action α → Verdict α
  | .task t => .perform t flags positional
  | .help =>
    match locate root positional with
    | (q, _, none) => .finished q.help "" 0
    | (_, _, some _) =>
      .finished "" ("Unknown help topic " ++ showTopic positional ++ "\n" ++
        Place.usage { command := root } false) 0
  | .completion shell =>
    let descriptions := match valueOf flags "no-descriptions" with
      | some (.bool true) => false
      | _ => true
    .finished (completionScript shell root.name descriptions) "" 0
  | .complete =>
    let (out, err) := (completionsFor root positional).render (p.calledAs != "__completeNoDesc")
    .finished out err 0

/-- Runs a command line against a program's command tree, its built-ins included. -/
def execute {α : Type} (root : Command α) (args : List String) : Verdict α :=
  let (p, rest, fault) := locate root args
  match fault with
  | some e => .finished "" (errorText e ++ "Run '" ++ p.path ++ " --help' for usage.\n") 1
  | none =>
    let read := if p.command.info.rawArgs then .ok (p.running.map FlagSpec.fresh, rest)
      else readArgs (p.running.map FlagSpec.fresh) rest
    match read with
    | .error .help => .finished p.help "" 0
    | .error (.message m) => .finished "" (errorText m) 1
    | .ok (flags, positional) =>
      let asked := match valueOf flags "help" with
        | some (.bool true) => true
        | _ => false
      match asked, p.command.action with
      | true, _ => .finished p.help "" 0
      | false, none => .finished p.help "" 0
      | false, some act =>
        match p.command.info.args, positional with
        | .none, a :: _ =>
          .finished "" (errorText ("unknown command " ++ Text.quote a ++ " for " ++ Text.quote p.path)) 1
        | .atLeast n, _ =>
          if positional.length < n then
            .finished "" (errorText ("requires at least " ++ toString n ++ " arg(s), only received " ++
              toString positional.length)) 1
          else runAction root p flags positional act
        | _, _ => runAction root p flags positional act

end FlashArb.Cli
