import FlashArb.Cli.Command

/-! Shell completion requests: what may follow the words typed so far. -/
namespace FlashArb.Cli

def directiveBits : List (Nat × String) :=
  [(1, "ShellCompDirectiveError"), (2, "ShellCompDirectiveNoSpace"),
   (4, "ShellCompDirectiveNoFileComp"), (8, "ShellCompDirectiveFilterFileExt"),
   (16, "ShellCompDirectiveFilterDirs"), (32, "ShellCompDirectiveKeepOrder")]

/-- The name of a directive: the names of its bits joined by commas. -/
def directiveName (d : Nat) : String :=
  if d ≥ 64 then "ERROR: unexpected ShellCompDirective value: " ++ toString d
  else
    match (directiveBits.filter fun (b, _) => d / b % 2 == 1).map (·.2) with
    | [] => "ShellCompDirectiveDefault"
    | names => ", ".intercalate names

/-- The answer to a completion request: the choices, the directive and the fault met, if any. -/
structure Completions where
  choices : List String := []
  directive : Nat := 0
  fault : Option String := none

def showWords (ws : List String) : String := "[" ++ " ".intercalate ws ++ "]"

def isFlagWord (w : String) : Bool :=
  (w.utf8ByteSize ≥ 3 && w.startsWith "--") ||
    (w.utf8ByteSize ≥ 2 && w.startsWith "-" && !w.startsWith "--")

def findFlag (specs : List FlagSpec) (name : String) : Option FlagSpec :=
  if name.length == 1 then specs.find? (·.shorthand == name)
  else specs.find? (·.name == name)

/-- The flag whose value is being typed, if any, with the words before the last left to read
as the command's, the word being typed, and the fault of an unknown flag. -/
def flagBeingTyped {α : Type} (p : Place α) (specs : List FlagSpec) (args : List String)
    (last : String) : Option FlagSpec × List String × String × Option String :=
  let cs := last.toList
  let found : Option (String × List String × Bool × String) :=
    if last.startsWith "-" then
      match cs.idxOf? '=' with
      | some i =>
        let name := if (String.ofList (cs.take i)).startsWith "--" then String.ofList ((cs.take i).drop 2)
          else String.ofList ((cs.take i).drop (i - 1))
        some (name, args, true, String.ofList (cs.drop (i + 1)))
      | none => none
    else
      match args.getLast? with
      | some prev =>
        if isFlagWord prev && !prev.contains '=' then
          let name := if prev.startsWith "--" then (prev.drop 2).copy
            else (prev.toList.getLast?.map Char.toString).getD ""
          some (name, args.dropLast, false, last)
        else some ("", args, false, last)
      | none => some ("", args, false, last)
  match found with
  | none => (none, args, last, none)
  | some (name, trimmed, withEqual, typed) =>
    if name.isEmpty then (none, trimmed, typed, none)
    else match findFlag specs name with
      | none =>
        (none, args, last, some ("Subcommand '" ++ p.command.name ++ "' does not support flag '" ++
          name ++ "'"))
      | some f =>
        if !withEqual && f.default.implicit.isSome then (none, args, typed, none)
        else (some f, trimmed, typed, none)

def flagNameChoices (typed : String) (s : FlagSpec) : List String :=
  (if ("--" ++ s.name).startsWith typed then ["--" ++ s.name ++ "\t" ++ s.usage] else []) ++
  (if !s.shorthand.isEmpty && ("-" ++ s.shorthand).startsWith typed then
    ["-" ++ s.shorthand ++ "\t" ++ s.usage] else [])

def commandChoices {α : Type} (c : Command α) (typed : String) : List String :=
  ((c.children.mergeSort fun a b => decide (a.name ≤ b.name)).filter fun d =>
    (Command.available Command.searchDepth d || d.isHelp) && d.name.startsWith typed).map fun d =>
      d.name ++ "\t" ++ d.info.short

def hasCommandChoices {α : Type} (c : Command α) : Bool :=
  c.children.any fun d => Command.available Command.searchDepth d || d.isHelp

def isGiven (flags : List Flag) (name : String) : Bool :=
  (flags.find? (·.spec.name == name)).any (·.given)

/-- The answer to a completion request for the words of a command line. -/
def completionsFor {α : Type} (root : Command α) (words : List String) : Completions :=
  let last := words.getLastD ""
  let before := words.dropLast
  match locate root before with
  | (_, _, some _) => { fault := some ("unable to find a command for arguments: " ++ showWords before) }
  | (p, rest, none) =>
    let specs := p.running
    let raw := p.command.info.rawArgs
    let (flag, args, typed, flagFault) :=
      if raw then (none, rest, last, none) else flagBeingTyped p specs rest last
    let read := if raw then .ok (specs.map FlagSpec.fresh, args) else readArgs (specs.map FlagSpec.fresh) args
    match read with
    | .error e =>
      { fault := some ("Error while parsing flags from args " ++ showWords args ++ ": " ++ e.text) }
    | .ok (flags, positional) =>
      let ended := match readArgs (specs.map FlagSpec.fresh) (args ++ ["--"]) with
        | .ok (_, more) => !raw && more.length > positional.length
        | .error _ => false
      let flagCompletion := !ended
      match flagFault with
      | some f =>
        if flagCompletion then { fault := some f } else choicesAfterFlags p root flags positional flag typed flagCompletion raw
      | none => choicesAfterFlags p root flags positional flag typed flagCompletion raw
where
  /-- The choices once the flags are read. -/
  choicesAfterFlags (p : Place α) (root : Command α) (flags : List Flag) (positional : List String)
      (flag : Option FlagSpec) (typed : String) (flagCompletion raw : Bool) : Completions :=
    if !raw && isGiven flags "help" then { directive := 4 }
    else if flag.isNone && typed.startsWith "-" && !typed.contains '=' && flagCompletion then
      let offered (s : FlagSpec) : Bool := !isGiven flags s.name || s.default.kind == "stringSlice"
      let specs := sortByName (p.inherited true) ++ sortByName (p.localFlags true)
      let choices := (specs.filter offered).flatMap (flagNameChoices typed)
      let single := choices.length == 1 && (choices.headD "").endsWith "="
      { choices, directive := if single then 2 else 4 }
    else
      let ownGiven := p.command.info.flags.any fun s => isGiven flags s.name
      let (choices, directive) :=
        if flag.isNone && positional.isEmpty && !ownGiven then
          (commandChoices p.command typed, if hasCommandChoices p.command then 4 else 0)
        else ([], 0)
      if flag.isSome && flagCompletion then { choices, directive }
      else match p.command.info.argChoices with
        | .none => { choices, directive }
        | .noFiles => { choices, directive := 4 }
        | .commands =>
          let more := match locate root positional with
            | (q, _, none) => commandChoices q.command typed
            | (_, _, some _) => []
          { choices := choices ++ more, directive := 4 }

/-- The standard output and standard error of a completion request: its choices and directive, then
its fault. -/
def Completions.render (c : Completions) (descriptions : Bool) : String × String :=
  let lines := c.choices.map fun choice =>
    let choice := if descriptions then choice else (choice.splitOn "\t").headD ""
    Text.trimSpace ((choice.splitOn "\n").headD "") ++ "\n"
  (String.join lines ++ ":" ++ toString c.directive ++ "\n",
   (match c.fault with
    | some f => "[Debug] [Error] " ++ f ++ "\n"
    | none => "") ++ "Completion ended with directive: " ++ directiveName c.directive ++ "\n")

end FlashArb.Cli
