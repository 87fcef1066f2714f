import FlashArb.Cli.Csv
import FlashArb.Text.Number
import FlashArb.Text.Quoted
import FlashArb.Float.Text
import FlashArb.Time.Duration

/-! A flag has a long name, perhaps a one-letter shorthand, a line of usage and a typed default. -/
namespace FlashArb.Cli

/-- The value of a flag. -/
inductive FlagValue where
  | text (s : String)
  | int (n : Int)
  | uint (n : Nat)
  | float (x : Float)
  | bool (b : Bool)
  /-- A span in nanoseconds. -/
  | duration (ns : Int)
  | texts (items : List String)
deriving Inhabited

namespace FlagValue

/-- The name of the kind of value. -/
def kind : FlagValue → String
  | .text _ => "string"
  | .int _ => "int"
  | .uint _ => "uint64"
  | .float _ => "float64"
  | .bool _ => "bool"
  | .duration _ => "duration"
  | .texts _ => "stringSlice"

/-- How the kind of value is named in usage lines; booleans take none. -/
def placeholder : FlagValue → String
  | .text _ => "string"
  | .int _ => "int"
  | .uint _ => "uint"
  | .float _ => "float"
  | .bool _ => ""
  | .duration _ => "duration"
  | .texts _ => "strings"

/-- The text of a value. -/
def shown : FlagValue → String
  | .text s => s
  | .int n => toString n
  | .uint n => toString n
  | .float x => Binary64.format x
  | .bool b => if b then "true" else "false"
  | .duration ns => Time.formatDuration ns
  | .texts items => "[" ++ Csv.writeRecord items ++ "]"

/-- Whether a default is the zero value of its kind, and so left out of usage lines. -/
def isZeroText : FlagValue → String → Bool
  | .bool _, t => t == "false"
  | .duration _, t => t == "0" || t == "0s"
  | .text _, t => t == ""
  | .texts _, t => t == "[]"
  | _, t => t == "0"

def implicit : FlagValue → Option String
  | .bool _ => some "true"
  | _ => none

end FlagValue

def parseBool (s : String) : Except String Bool :=
  if ["1", "t", "T", "TRUE", "true", "True"].contains s then .ok true
  else if ["0", "f", "F", "FALSE", "false", "False"].contains s then .ok false
  else .error (Text.numberError "ParseBool" s "invalid syntax")

def parseDouble (s : String) : Except String Float := Binary64.parseChecked s

def parseList (s : String) : Except String (List String) :=
  if s.isEmpty then .ok [] else Csv.readRecord s

/-- A flag's value after reading `text` for it; a list flag given before keeps its items. -/
def FlagValue.set (old : FlagValue) (given : Bool) (text : String) : Except String FlagValue :=
  match old with
  | .text _ => .ok (.text text)
  | .int _ => .int <$> Text.parseInt text 0 64
  | .uint _ => .uint <$> Text.parseUint text 0 64
  | .float _ => .float <$> parseDouble text
  | .bool _ => .bool <$> parseBool text
  | .duration _ => .duration <$> Time.parseDuration text
  | .texts items => (fun more => .texts (if given then items ++ more else more)) <$> parseList text

/-- What a flag is. -/
structure FlagSpec where
  name : String
  /-- A one-letter name, or empty. -/
  shorthand : String := ""
  usage : String
  default : FlagValue

/-- A flag with its current value, and whether it was given. -/
structure Flag where
  spec : FlagSpec
  value : FlagValue
  given : Bool := false

def FlagSpec.fresh (s : FlagSpec) : Flag := { spec := s, value := s.default }

def FlagSpec.title (s : FlagSpec) : String :=
  if s.shorthand.isEmpty then "--" ++ s.name else "-" ++ s.shorthand ++ ", --" ++ s.name

/-- Why reading the arguments stopped. -/
inductive FlagFault where
  /-- `--help` or `-h` where no such flag is defined. -/
  | help
  | message (text : String)

def FlagFault.text : FlagFault → String
  | .help => "pflag: help requested"
  | .message t => t

/-- The flags, with the one named `name` set from `text`. -/
def setFlag (flags : List Flag) (name text : String) : Except FlagFault (List Flag) :=
  match flags.find? (·.spec.name == name) with
  | none => .error (.message ("no such flag -" ++ name))
  | some f =>
    match f.value.set f.given text with
    | .error why =>
      .error (.message ("invalid argument " ++ Text.quote text ++ " for " ++ Text.quote f.spec.title ++
        " flag: " ++ why))
    | .ok v => .ok (flags.map fun g => if g.spec.name == name then { g with value := v, given := true } else g)

def byShorthand (flags : List Flag) (c : UInt8) : Option Flag :=
  flags.find? fun f => f.spec.shorthand.toUTF8.toList == [c]

/-- Reads one long flag, `--` already taken off; gives the flags and the arguments left. -/
def readLong (flags : List Flag) (arg body : String) (rest : List String) :
    Except FlagFault (List Flag × List String) :=
  if body.isEmpty || body.startsWith "-" || body.startsWith "=" then
    .error (.message ("bad flag syntax: " ++ arg))
  else
    let (name, inline) := match body.splitOn "=" with
      | [n] => (n, none)
      | n :: vs => (n, some ("=".intercalate vs))
      | [] => (body, none)
    match flags.find? (·.spec.name == name) with
    | none =>
      if name == "help" then .error .help else .error (.message ("unknown flag: --" ++ name))
    | some f =>
      match inline, f.spec.default.implicit, rest with
      | some v, _, _ => (·, rest) <$> setFlag flags name v
      | none, some v, _ => (·, rest) <$> setFlag flags name v
      | none, none, v :: rest' => (·, rest') <$> setFlag flags name v
      | none, none, [] => .error (.message ("flag needs an argument: " ++ arg))

/-- Reads a run of shorthands after one dash; each gets the arguments after the run. -/
def readShorts (flags : List Flag) (rest : List String) :
    Nat → List UInt8 → List String → Except FlagFault (List Flag × List String)
  | 0, _, left => .ok (flags, left)
  | _ + 1, [], left => .ok (flags, left)
  | fuel + 1, c :: more, _ =>
    let run := Text.lossyString (c :: more)
    let named := Text.quoteChar (Char.ofNat c.toNat)
    if run.startsWith "test." then .ok (flags, rest)
    else match byShorthand flags c with
      | none =>
        if c == 104 then .error .help
        else .error (.message ("unknown shorthand flag: " ++ named ++ " in -" ++ run))
      | some f =>
        let name := f.spec.name
        match more, f.spec.default.implicit, rest with
        | 61 :: v@(_ :: _), _, _ =>
          (fun fs => (fs, rest)) <$> setFlag flags name (Text.lossyString v)
        | _, some v, _ => do
          let fs ← setFlag flags name v
          readShorts fs rest fuel more rest
        | _ :: _, none, _ => (fun fs => (fs, rest)) <$> setFlag flags name (Text.lossyString more)
        | [], none, v :: rest' => (fun fs => (fs, rest')) <$> setFlag flags name v
        | [], none, [] =>
          .error (.message ("flag needs an argument: " ++ named ++ " in -" ++ run))

/-- Reads the arguments: the flags as set, and the positional arguments in order. -/
def readArgs (flags : List Flag) (args : List String) : Except FlagFault (List Flag × List String) :=
  go (args.length + 1) flags args []
where
  go : Nat → List Flag → List String → List String → Except FlagFault (List Flag × List String)
    | 0, flags, _, positional => .ok (flags, positional)
    | _ + 1, flags, [], positional => .ok (flags, positional)
    | fuel + 1, flags, s :: rest, positional =>
      if s == "--" then .ok (flags, positional ++ rest)
      else if s.startsWith "--" then
        match readLong flags s (s.drop 2).copy rest with
        | .error e => .error e
        | .ok (flags, rest) => go fuel flags rest positional
      else if s.startsWith "-" && s.length > 1 then
        let body := (s.toUTF8.toList.drop 1)
        match readShorts flags rest (body.length + 1) body rest with
        | .error e => .error e
        | .ok (flags, rest) => go fuel flags rest positional
      else go fuel flags rest (positional ++ [s])

def valueOf (flags : List Flag) (name : String) : Option FlagValue :=
  (flags.find? (·.spec.name == name)).map (·.value)

def sortByName (specs : List FlagSpec) : List FlagSpec :=
  specs.mergeSort fun a b => decide (a.name ≤ b.name)

/-- The usage lines of flags: sorted by name, the usage texts aligned one column past the
longest head, each followed by its default unless that is the zero value. -/
def usageLines (specs : List FlagSpec) : String :=
  let specs := sortByName specs
  let head (s : FlagSpec) : String :=
    let start := if s.shorthand.isEmpty then "      --" ++ s.name else "  -" ++ s.shorthand ++ ", --" ++ s.name
    let kind := s.default.placeholder
    if kind.isEmpty then start else start ++ " " ++ kind
  let tail (s : FlagSpec) : String :=
    let shownDefault := s.default.shown
    if s.default.isZeroText shownDefault then s.usage
    else match s.default with
      | .text _ => s.usage ++ " (default " ++ Text.quote shownDefault ++ ")"
      | _ => s.usage ++ " (default " ++ shownDefault ++ ")"
  let width := specs.foldl (fun w s => max w ((head s).utf8ByteSize + 1)) 0
  String.join (specs.map fun s =>
    let h := head s
    let pad := String.ofList (List.replicate (width - h.utf8ByteSize) ' ')
    let usage := (tail s).replace "\n" ("\n" ++ String.ofList (List.replicate (width + 2) ' '))
    h ++ " " ++ pad ++ " " ++ usage ++ "\n")

end FlashArb.Cli
