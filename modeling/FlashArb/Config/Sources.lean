import FlashArb.Config.Value
import FlashArb.Text.Printable

/-! Where a setting comes from: a flag, the environment, the file or the default, first wins. -/
namespace FlashArb.Settings

/-- A command-line flag bound to the setting of its name: its value when given, and its default. -/
structure Flag where
  name : String
  given : Option Value := none
  default : Value

/-- The places a setting is looked up in. -/
structure Sources where
  flags : List Flag := []
  env : List (String × String) := []
  file : List (String × Value) := []
  defaults : List (String × Value) := []

mutual

def Value.lowerKeys : Value → Value
  | .list xs => .list (lowerItems xs)
  | .map ms => .map (lowerMembers ms)
  | v => v

def lowerItems : List Value → List Value
  | [] => []
  | x :: xs => x.lowerKeys :: lowerItems xs

def lowerMembers : List (String × Value) → List (String × Value)
  | [] => []
  | (k, v) :: ms => (Text.toLower k, v.lowerKeys) :: lowerMembers ms

end

def envName (key : String) : String :=
  "ARBBOT_" ++ String.ofList ((key.toList.map fun c => if c == '-' then '_' else c).map Char.toUpper)

def lookupLast {α : Type} (ms : List (String × α)) (k : String) : Option α :=
  (ms.reverse.find? (·.1 == k)).map (·.2)

/-- Sets `path` in a map, creating the maps on the way; a later value replaces an earlier. -/
def setPath : List (String × Value) → List String → Value → List (String × Value)
  | ms, [], _ => ms
  | ms, [k], v => ms.filter (·.1 != k) ++ [(k, v)]
  | ms, k :: rest, v =>
    let inner := match lookupLast ms k with
      | some (.map m) => m
      | _ => []
    ms.filter (·.1 != k) ++ [(k, .map (setPath inner rest v))]

/-- The value of a setting, if some place has it; `flagDefault` lets an unused flag's default
count. -/
def Sources.find (s : Sources) (key : String) (flagDefault : Bool) : Option Value :=
  let key := Text.toLower key
  let flag := s.flags.find? fun f => Text.toLower f.name == key
  match flag.bind (·.given) with
  | some v => some v
  | none =>
    match lookupLast s.env (envName key) with
    | some t => if t.isEmpty then fromFile flag else some (.text t)
    | none => fromFile flag
where
  /-- The value from the file, the defaults and an unused flag, in that order. -/
  fromFile (flag : Option Flag) : Option Value :=
    match lookupLast s.file key with
    | some .null | none =>
      match lookupLast s.defaults key with
      | some v => some v
      | none => if flagDefault then flag.map (·.default) else none
    | some v => some v

def Sources.isSet (s : Sources) (key : String) : Bool := (s.find key false).isSome

def Sources.get (s : Sources) (key : String) : Value := (s.find key true).getD .null

def Sources.text (s : Sources) (key : String) : String := (s.get key).toText
def Sources.int (s : Sources) (key : String) : Int := (s.get key).toInt
def Sources.uint64 (s : Sources) (key : String) : Nat := (s.get key).toUint64
def Sources.float (s : Sources) (key : String) : Float := (s.get key).toFloat
def Sources.bool (s : Sources) (key : String) : Bool := (s.get key).toBool
def Sources.duration (s : Sources) (key : String) : Int := (s.get key).toDuration

def cleanTexts (items : List String) : List String :=
  (items.map Text.trimSpace).filter (!·.isEmpty)

/-- Comma-separated `key=value` pairs, each trimmed; pairs without `=`, or with an empty key
or value, are skipped, and a later pair for a key replaces an earlier one. -/
def pairsOfText (text : String) : List (String × String) :=
  if (Text.trimSpace text).isEmpty then []
  else (text.splitOn ",").foldl (fun acc pair =>
    match pair.splitOn "=" with
    | k :: v :: more =>
      let key := Text.trimSpace k
      let value := Text.trimSpace ("=".intercalate (v :: more))
      if key.isEmpty || value.isEmpty then acc else acc.filter (·.1 != key) ++ [(key, value)]
    | _ => acc) []

/-- A list of text: absent when the setting is not set or is not a list or text; a text is
split at commas. -/
def Sources.textList (s : Sources) (key : String) : Option (List String) :=
  if !s.isSet key then none
  else match s.get key with
    | .texts xs => some (cleanTexts xs)
    | .text t => if t.isEmpty then none else some (cleanTexts (t.splitOn ","))
    | .list xs => some (cleanTexts (xs.map Value.shown))
    | _ => none

/-- A map of text, sorted by key; empty when the setting is not set or is not a map, a list or
a text. A list is read as its items joined by commas. -/
def Sources.textMap (s : Sources) (key : String) : List (String × String) :=
  let pairs :=
    if !s.isSet key then []
    else match s.get key with
      | .map ms => ms.foldl (fun acc (k, v) => acc.filter (·.1 != k) ++ [(k, v.shown)]) []
      | .text t => pairsOfText t
      | .texts xs => pairsOfText (",".intercalate xs)
      | _ => []
  pairs.mergeSort fun a b => decide (a.1 ≤ b.1)

end FlashArb.Settings
