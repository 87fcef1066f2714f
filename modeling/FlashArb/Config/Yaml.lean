import FlashArb.Config.Value
import FlashArb.Yaml.Decode

/-! YAML settings files, read in four stages. -/
namespace FlashArb.Settings.Yaml

mutual

/-- A decoded value as a setting's value. -/
def valueOf : FlashArb.Yaml.Datum → Value
  | .null => .null
  | .bool b => .bool b
  | .int n => .int n
  | .uint n => .uint64 n
  | .float x => .float x
  | .text s => .text s
  | .time r => .date r.render
  | .list items => .list (valuesOf items)
  | .map _ members => .map (membersOf members)

def valuesOf : List FlashArb.Yaml.Datum → List Value
  | [] => []
  | x :: xs => valueOf x :: valuesOf xs

def membersOf : List (FlashArb.Yaml.Datum × FlashArb.Yaml.Datum) → List (String × Value)
  | [] => []
  | (k, v) :: rest => (k.castText, valueOf v) :: membersOf rest

end

def parse (text : String) : Except String (List (String × Value)) := do
  match ← FlashArb.Yaml.compose text with
  | none => return []
  | some (nodes, root) => return membersOf (← FlashArb.Yaml.decodeDocument nodes root)

end FlashArb.Settings.Yaml
