import FlashArb.Cli.Flag
import FlashArb.Cli.Completion

/-! A program is a tree of commands. -/
namespace FlashArb.Cli

/-- How a command treats positional arguments. -/
inductive ArgsRule where
  /-- Any arguments; at the top, one naming no command below is refused. -/
  | loose
  /-- No arguments at all. -/
  | none
  /-- At least this many arguments. -/
  | atLeast (n : Nat)
deriving DecidableEq

/-- What a command offers when the argument being typed is completed. -/
inductive ArgChoices where
  /-- Nothing of its own. -/
  | none
  /-- Nothing, and no file names either. -/
  | noFiles
  /-- The commands below the command its arguments name, as the help command offers. -/
  | commands
deriving DecidableEq

/-- What a command is, apart from its task and the commands below it. -/
structure CommandInfo where
  /-- The usage line: the name, then a sketch of the arguments. -/
  use : String
  short : String := ""
  long : String := ""
  flags : List FlagSpec := []
  /-- Flags passed down to every command below. -/
  persistent : List FlagSpec := []
  args : ArgsRule := .loose
  /-- Whether the usage line leaves out `[flags]`. -/
  plainUseLine : Bool := false
  /-- Whether the command is left out of listings and suggestions. -/
  hidden : Bool := false
  /-- Other names that reach the command. -/
  aliases : List String := []
  /-- Whether the command reads no flags: every argument is positional. -/
  rawArgs : Bool := false
  argChoices : ArgChoices := .none

def CommandInfo.name (c : CommandInfo) : String :=
  ((c.use.splitOn " ").head?).getD ""

/-- What running a command does: a task of the program, or a built-in. -/
inductive Action (α : Type) where
  | task (a : α)
  | help
  | completion (shell : Shell)
  /-- Answers a completion request of a shell. -/
  | complete

/-- A command, its action if it runs one, and the commands below it. -/
inductive Command (α : Type) where
  | node (info : CommandInfo) (action : Option (Action α)) (children : List (Command α))

namespace Command

variable {α : Type}

def info : Command α → CommandInfo
  | .node i _ _ => i

def action : Command α → Option (Action α)
  | .node _ a _ => a

def children : Command α → List (Command α)
  | .node _ _ cs => cs

def name (c : Command α) : String := c.info.name

def answersTo (c : Command α) (word : String) : Bool :=
  c.name == word || c.info.aliases.contains word

def runnable (c : Command α) : Bool := c.action.isSome

def isHelp (c : Command α) : Bool :=
  match c.action with
  | some .help => true
  | _ => false

def available : Nat → Command α → Bool
  | 0, c => !c.info.hidden && !c.isHelp && c.runnable
  | depth + 1, c => !c.info.hidden && !c.isHelp && (c.runnable || c.children.any (available depth))

def searchDepth : Nat := 8

def hasAvailableChildren (c : Command α) : Bool := c.children.any (available searchDepth)

end Command

def helpCommand {α : Type} (root : String) : Command α :=
  .node { use := "help [command]", short := "Help about any command",
          long := "Help provides help for any command in the application.\nSimply type " ++ root ++
            " help [path to command] for full details.", argChoices := .commands } (some .help) []

def noDescriptionsFlag : FlagSpec :=
  { name := "no-descriptions", usage := "disable completion descriptions", default := .bool false }

/-- The long description of a completion command. -/
def completionLong (root : String) : Shell → String
  | .bash =>
    "Generate the autocompletion script for the bash shell.\n\n" ++
    "This script depends on the 'bash-completion' package.\n" ++
    "If it is not installed already, you can install it via your OS's package manager.\n\n" ++
    "To load completions in your current shell session:\n\n" ++
    "\tsource <(" ++ root ++ " completion bash)\n\n" ++
    "To load completions for every new session, execute once:\n\n" ++
    "#### Linux:\n\n" ++
    "\t" ++ root ++ " completion bash > /etc/bash_completion.d/" ++ root ++ "\n\n" ++
    "#### macOS:\n\n" ++
    "\t" ++ root ++ " completion bash > $(brew --prefix)/etc/bash_completion.d/" ++ root ++ "\n\n" ++
    "You will need to start a new shell for this setup to take effect.\n"
  | .zsh =>
    "Generate the autocompletion script for the zsh shell.\n\n" ++
    "If shell completion is not already enabled in your environment you will need\n" ++
    "to enable it.  You can execute the following once:\n\n" ++
    "\techo \"autoload -U compinit; compinit\" >> ~/.zshrc\n\n" ++
    "To load completions in your current shell session:\n\n" ++
    "\tsource <(" ++ root ++ " completion zsh)\n\n" ++
    "To load completions for every new session, execute once:\n\n" ++
    "#### Linux:\n\n" ++
    "\t" ++ root ++ " completion zsh > \"$\x7bfpath[1]\x7d/_" ++ root ++ "\"\n\n" ++
    "#### macOS:\n\n" ++
    "\t" ++ root ++ " completion zsh > $(brew --prefix)/share/zsh/site-functions/_" ++ root ++ "\n\n" ++
    "You will need to start a new shell for this setup to take effect.\n"
  | .fish =>
    "Generate the autocompletion script for the fish shell.\n\n" ++
    "To load completions in your current shell session:\n\n" ++
    "\t" ++ root ++ " completion fish | source\n\n" ++
    "To load completions for every new session, execute once:\n\n" ++
    "\t" ++ root ++ " completion fish > ~/.config/fish/completions/" ++ root ++ ".fish\n\n" ++
    "You will need to start a new shell for this setup to take effect.\n"
  | .powershell =>
    "Generate the autocompletion script for powershell.\n\n" ++
    "To load completions in your current shell session:\n\n" ++
    "\t" ++ root ++ " completion powershell | Out-String | Invoke-Expression\n\n" ++
    "To load completions for every new session, add the output of the above command\n" ++
    "to your powershell profile.\n"

/-- The built-in completion command of a program named `root`, with one command per shell. -/
def completionCommand {α : Type} (root : String) : Command α :=
  let shell (s : Shell) : Command α :=
    .node { use := s.name, short := "Generate the autocompletion script for " ++ s.name,
            long := completionLong root s, flags := [noDescriptionsFlag], args := .none,
            plainUseLine := s == .bash, argChoices := .noFiles } (some (.completion s)) []
  .node { use := "completion", short := "Generate the autocompletion script for the specified shell",
          long := "Generate the autocompletion script for " ++ root ++ " for the specified shell.\n" ++
            "See each sub-command's help for details on how to use the generated script.\n",
          args := .none, argChoices := .noFiles }
    none [shell .bash, shell .zsh, shell .fish, shell .powershell]

/-- The hidden command that answers the completion requests of shell scripts: the arguments are a
command line whose last word is being typed. -/
def completeCommand {α : Type} : Command α :=
  .node { use := "__complete [command-line]", aliases := ["__completeNoDesc"],
          short := "Request shell completion choices for the specified command-line",
          long := "__complete is a special command that is used by the shell completion logic\n" ++
            "to request completion choices for the specified command-line.",
          hidden := true, rawArgs := true, args := .atLeast 1, plainUseLine := true }
    (some .complete) []

/-- A program's top command with the built-in help, completion and completion-request
commands added below it, when it has commands below it at all. -/
def withBuiltins {α : Type} (root : Command α) : Command α :=
  match root with
  | .node info action children =>
    if children.isEmpty then root
    else
      let children := children.filter (fun c => c.name != "help") ++ [helpCommand info.name]
      let children := if children.any (·.name == "completion") then children
        else children ++ [completionCommand info.name]
      .node info action (children ++ [completeCommand])

def distinctFlags (specs : List FlagSpec) : List FlagSpec :=
  specs.foldl (fun acc s => if acc.any (·.name == s.name) then acc else acc ++ [s]) []

/-- A command and the commands above it, nearest first, with the word that reached it. -/
structure Place (α : Type) where
  command : Command α
  above : List (Command α) := []
  calledAs : String := ""

namespace Place

variable {α : Type}

def path (p : Place α) : String :=
  " ".intercalate ((p.command :: p.above).reverse.map (·.name))

def inheritedAll (p : Place α) : List FlagSpec :=
  distinctFlags (p.above.flatMap (·.info.persistent))

def own (p : Place α) : List FlagSpec :=
  distinctFlags (p.command.info.flags ++ p.command.info.persistent)

def known (p : Place α) : List FlagSpec := distinctFlags (p.own ++ p.inheritedAll)

def helpFlag (p : Place α) : FlagSpec :=
  { name := "help", shorthand := "h", usage := "help for " ++ p.command.name, default := .bool false }

def localFlags (p : Place α) (withHelp : Bool) : List FlagSpec :=
  if withHelp && !(p.known.any (·.name == "help")) then p.own ++ [p.helpFlag] else p.own

def inherited (p : Place α) (withHelp : Bool) : List FlagSpec :=
  let mine := p.localFlags withHelp
  p.inheritedAll.filter fun s => !(mine.any (·.name == s.name))

def running (p : Place α) : List FlagSpec :=
  if p.known.any (·.name == "help") then p.known else p.known ++ [p.helpFlag]

end Place

def isSwitch (specs : List FlagSpec) (name : String) : Bool :=
  match specs.find? (·.name == name) with
  | some s => s.default.implicit.isSome
  | none => false

/-- Whether a shorthand named in an argument reads without a value. -/
def isShortSwitch (specs : List FlagSpec) (name : String) : Bool :=
  match name.toList.head? with
  | none => false
  | some c =>
    match specs.find? (·.shorthand == c.toString) with
    | some s => s.default.implicit.isSome
    | none => false

def takesNext (specs : List FlagSpec) (s : String) : Bool :=
  !s.contains '=' &&
    ((s.startsWith "--" && !isSwitch specs (s.drop 2).copy) ||
     (s.startsWith "-" && s.length == 2 && !isShortSwitch specs (s.drop 1).copy))

/-- The positional arguments as far as commands are looked for: flags are skipped with their
values, and a flag taking a value that stands last or next to last ends the search. -/
def stripFlags (specs : List FlagSpec) : List String → List String
  | [] => []
  | s :: rest =>
    if s == "--" then []
    else if takesNext specs s then
      match rest with
      | [] => []
      | [_] => []
      | _ :: rest' => stripFlags specs rest'
    else if s != "" && !s.startsWith "-" then s :: stripFlags specs rest
    else stripFlags specs rest

/-- The arguments without the first positional one equal to `x`, flag values skipped. -/
def withoutFirst (specs : List FlagSpec) (x : String) : List String → List String
  | [] => []
  | s :: rest =>
    if s == "--" then s :: rest
    else if takesNext specs s then
      match rest with
      | [] => [s]
      | v :: rest' => s :: v :: withoutFirst specs x rest'
    else if !s.startsWith "-" && s == x then rest
    else s :: withoutFirst specs x rest

/-- The edit distance of two byte strings: insertions, deletions and substitutions. -/
def editDistance (s t : List UInt8) : Nat :=
  let first := List.range (t.length + 1)
  let last := s.foldl (fun (prev : List Nat) (a : UInt8) =>
    let start := prev.headD 0 + 1
    let (_, row) := (t.zip (prev.zip prev.tail)).foldl (fun (left, row) (b, diag, up) =>
      let v := if a == b then diag else min (min up left) diag + 1
      (v, row ++ [v])) (start, [start])
    row) first
  last.getLastD 0

/-- The names of the offered commands below `c` that `typed` might have meant. -/
def suggestionsFor {α : Type} (c : Command α) (typed : String) : List String :=
  let lower := typed.toLower
  c.children.filterMap fun d =>
    if !(Command.available Command.searchDepth d) then none
    else
      let close := editDistance lower.toUTF8.toList d.name.toLower.toUTF8.toList ≤ 2
      if close || d.name.toLower.startsWith lower then some d.name else none

def suggestionText {α : Type} (c : Command α) (typed : String) : String :=
  match suggestionsFor c typed with
  | [] => ""
  | names => "\n\nDid you mean this?\n" ++ String.join (names.map fun n => "\t" ++ n ++ "\n")

/-- Follows the arguments down the tree for at most `fuel` levels. -/
def descend {α : Type} : Nat → Place α → List String → Place α × List String
  | 0, p, args => (p, args)
  | fuel + 1, p, args =>
    match stripFlags p.known args with
    | [] => (p, args)
    | next :: _ =>
      match p.command.children.find? (·.answersTo next) with
      | some c =>
        descend fuel { command := c, above := p.command :: p.above, calledAs := next }
          (withoutFirst p.known next args)
      | none => (p, args)

/-- The command the arguments name, the arguments left for it, and the fault of an unknown
command at the top. -/
def locate {α : Type} (root : Command α) (args : List String) : Place α × List String × Option String :=
  let (p, rest) := descend (args.length + 1) { command := root } args
  let fault :=
    if p.command.info.args != .loose || p.command.children.isEmpty || !p.above.isEmpty then none
    else match stripFlags p.known rest with
      | [] => none
      | a :: _ =>
        some ("unknown command " ++ Text.quote a ++ " for " ++ Text.quote p.path ++
          suggestionText p.command a)
  (p, rest, fault)

def trimEnd (s : String) : String := (s.dropEndWhile Char.isWhitespace).copy

def rpad (s : String) (width : Nat) : String := padRight s width

/-- The usage line of a command. -/
def Place.useLine {α : Type} (p : Place α) (withHelp : Bool) : String :=
  let line := match p.above with
    | [] => p.command.info.use
    | parent :: rest => Place.path { command := parent, above := rest } ++ " " ++ p.command.info.use
  let hasFlags := !(p.localFlags withHelp).isEmpty || !(p.inherited withHelp).isEmpty
  if p.command.info.plainUseLine || !hasFlags || (line.splitOn "[flags]").length > 1 then line
  else line ++ " [flags]"

/-- The usage of a command: usage lines, commands below, flags, inherited flags and a pointer
to the help of the commands below. -/
def Place.usage {α : Type} (p : Place α) (withHelp : Bool) : String :=
  let c := p.command
  let subs := c.hasAvailableChildren
  let width := c.children.foldl (fun w d => max w d.name.length) 11
  let listed := (c.children.mergeSort fun a b => decide (a.name ≤ b.name)).filter fun d =>
    Command.available Command.searchDepth d || d.name == "help"
  let localFlags := p.localFlags withHelp
  let inherited := p.inherited withHelp
  "Usage:" ++
  (if c.runnable then "\n  " ++ p.useLine withHelp else "") ++
  (if subs then "\n  " ++ p.path ++ " [command]" else "") ++
  (if subs then
      "\n\nAvailable Commands:" ++
        String.join (listed.map fun d => "\n  " ++ rpad d.name width ++ " " ++ d.info.short)
    else "") ++
  (if localFlags.isEmpty then "" else "\n\nFlags:\n" ++ trimEnd (usageLines localFlags)) ++
  (if inherited.isEmpty then "" else "\n\nGlobal Flags:\n" ++ trimEnd (usageLines inherited)) ++
  (if subs then "\n\nUse \"" ++ p.path ++ " [command] --help\" for more information about a command."
    else "") ++
  "\n"

/-- The help of a command: its description, then its usage. -/
def Place.help {α : Type} (p : Place α) : String :=
  let info := p.command.info
  let header := trimEnd (if info.long.isEmpty then info.short else info.long)
  (if header.isEmpty then "" else header ++ "\n\n") ++
  (if p.command.runnable || !p.command.children.isEmpty then p.usage true else "")

def backQuotable (s : String) : Bool :=
  s.all fun c => c.toNat != 96 && c.toNat != 0xFEFF && c.toNat != 0x7F && (c == '\t' || c.toNat ≥ 0x20)

def showTopic (args : List String) : String :=
  let tick := Char.ofNat 96
  "[" ++ " ".intercalate (args.map fun a =>
    if backQuotable a then String.ofList (tick :: a.toList ++ [tick]) else Text.quote a) ++ "]"

end FlashArb.Cli
