import FlashArb.Time.Civil
import FlashArb.Float.Text
import FlashArb.Text.Quoted

/-! A decoded value is null, a boolean, a signed or unsigned integer, a float, text, a timestamp, a
list, or a map. -/
namespace FlashArb.Yaml

/-- A decoded value. -/
inductive Datum where
  | null
  | bool (b : Bool)
  | int (n : Int)
  | uint (n : Nat)
  | float (x : Float)
  | text (s : String)
  | time (r : Time.Reading)
  | list (items : List Datum)
  /-- A map with its members in the order they were first set; `textKeys` says whether its
  keys are all text. -/
  | map (textKeys : Bool) (members : List (Datum × Datum))
deriving Inhabited

/-- Whether two values are the same map key. -/
def Datum.sameKey : Datum → Datum → Bool
  | .null, .null => true
  | .bool a, .bool b => a == b
  | .int a, .int b => a == b
  | .uint a, .uint b => a == b
  | .float a, .float b => a == b
  | .text a, .text b => a == b
  | .time a, .time b => !a.zone.isEmpty && a.zone == b.zone && a.render == b.render
  | _, _ => false

def Datum.isCollection : Datum → Bool
  | .list _ | .map _ _ => true
  | _ => false

def Datum.put (members : List (Datum × Datum)) (k v : Datum) : List (Datum × Datum) :=
  if members.any (·.1.sameKey k) then members.map fun (k', v') => if k'.sameKey k then (k', v) else (k', v')
  else members ++ [(k, v)]

/-- A value as the text of a map key: empty for null and collections, floats written
positionally. -/
def Datum.castText : Datum → String
  | .null => ""
  | .bool b => if b then "true" else "false"
  | .int n => toString n
  | .uint n => toString n
  | .float x => Binary64.formatPositional x
  | .text s => s
  | .time r => r.render
  | _ => ""

def monthNames : List String :=
  ["January", "February", "March", "April", "May", "June", "July", "August", "September",
   "October", "November", "December"]

/-- A timestamp as the call that builds it. -/
def timeSpelled (r : Time.Reading) : String :=
  let zone := if r.zone == "UTC" then "time.UTC" else "time.Location(" ++ Text.quote r.zone ++ ")"
  "time.Date(" ++ toString r.year ++ ", time." ++ monthNames.getD (r.month - 1) "" ++ ", " ++
    toString r.day ++ ", " ++ toString r.hour ++ ", " ++ toString r.minute ++ ", " ++
    toString r.second ++ ", " ++ toString r.nanos ++ ", " ++ zone ++ ")"

def hexDigits (n : Nat) : String :=
  String.ofList (Nat.toDigits 16 n)

/-- The rank of a key's kind in the order of map keys: kinds first, then values. -/
def Datum.kindRank : Datum → Nat
  | .null => 0
  | .bool _ => 1
  | .int _ => 2
  | .uint _ => 3
  | .float _ => 4
  | .text _ => 5
  | .time _ => 6
  | .list _ => 7
  | .map _ _ => 8

/-- Whether key `a` comes before key `b` when a map is spelled: by kind, then numbers by value
(NaN first), texts by their bytes, and timestamps by their nanoseconds, then their instant. -/
def Datum.keyBefore (a b : Datum) : Bool :=
  match a, b with
  | .bool x, .bool y => !x && y
  | .int x, .int y => x < y
  | .uint x, .uint y => x < y
  | .float x, .float y => x < y || (x.isNaN && !y.isNaN)
  | .text x, .text y => x < y
  | .time x, .time y =>
    let instant (r : Time.Reading) : Int :=
      (Time.daysFromCivil r.year r.month r.day) * 86400 + r.hour * 3600 + r.minute * 60 + r.second - r.offset
    x.nanos < y.nanos || (x.nanos == y.nanos && instant x < instant y)
  | _, _ => a.kindRank < b.kindRank

mutual

/-- A value spelled as source code, inside a collection of values of any type. -/
def Datum.spelled : Datum → String
  | .null => "interface \x7b\x7d(nil)"
  | .bool b => if b then "true" else "false"
  | .int n => toString n
  | .uint n => "0x" ++ hexDigits n
  | .float x => Binary64.format x
  | .text s => Text.quote s
  | .time r => timeSpelled r
  | .list items => "[]interface \x7b\x7d\x7b" ++ itemsSpelled items ++ "\x7d"
  | .map textKeys members =>
    let pairs := (membersSpelled members).mergeSort fun a b => !(b.1.keyBefore a.1)
    (if textKeys then "map[string]interface \x7b\x7d\x7b" else "map[interface \x7b\x7d]interface \x7b\x7d\x7b") ++
      ", ".intercalate (pairs.map fun (_, k, v) => k ++ ":" ++ v) ++ "\x7d"

def itemsSpelled : List Datum → String
  | [] => ""
  | [x] => x.spelled
  | x :: xs => x.spelled ++ ", " ++ itemsSpelled xs

def membersSpelled : List (Datum × Datum) → List (Datum × String × String)
  | [] => []
  | (k, v) :: rest => (k, k.spelled, v.spelled) :: membersSpelled rest

end

end FlashArb.Yaml
