import FlashArb.Config.Yaml
import FlashArb.Config.Toml
import FlashArb.Config.Assignments
import FlashArb.Config.Ini
import FlashArb.Config.Properties
import FlashArb.Config.Hcl.Json
import FlashArb.Json.Strict
import FlashArb.Config.Sources

/-! A configuration file's format is named by its extension. -/
namespace FlashArb.Settings

def configExtensions : List String :=
  ["json", "toml", "yaml", "yml", "properties", "props", "prop", "hcl", "tfvars", "dotenv", "env", "ini"]

mutual

/-- The value of a JSON value: numbers as floats. -/
def valueOfJson : Json → Except String Value
  | .null => .ok .null
  | .bool b => .ok (.bool b)
  | .num t =>
    match parseFloat? t with
    | some x => .ok (.float x)
    | none => .error ("json: cannot unmarshal number " ++ t ++ " into Go value of type float64")
  | .str s => .ok (.text s)
  | .arr xs => .list <$> valuesOfJson xs
  | .obj ms => .map <$> membersOfJson ms

def valuesOfJson : List Json → Except String (List Value)
  | [] => .ok []
  | x :: xs => do
    let v ← valueOfJson x
    let vs ← valuesOfJson xs
    return v :: vs

/-- Members of an object; a later member of a name replaces an earlier one. -/
def membersOfJson : List (String × Json) → Except String (List (String × Value))
  | [] => .ok []
  | (k, x) :: ms => do
    let v ← valueOfJson x
    let vs ← membersOfJson ms
    return (k, v) :: vs.filter (·.1 != k)

end

/-- The kind of a JSON value, as a failed decode into a map names it. -/
def jsonKind : Json → String
  | .null => "null"
  | .bool _ => "bool"
  | .num _ => "number"
  | .str _ => "string"
  | .arr _ => "array"
  | .obj _ => "object"

/-- Reads a JSON document that must be an object. -/
def parseJsonMap (text : String) : Except String (List (String × Value)) :=
  match Json.parseStrict text with
  | .error e => .error e
  | .ok (.obj ms) => membersOfJson ms
  | .ok .null => .ok []
  | .ok j => .error ("json: cannot unmarshal " ++ jsonKind j ++
      " into Go value of type map[string]interface \x7b\x7d")

/-- Reads a configuration file of the format its extension names. -/
def parseConfigText (ext : String) (env : List (String × String)) (text : String) :
    Except String (List (String × Value)) :=
  match ext.map Char.toLower with
  | "json" => parseJsonMap text
  | "yaml" | "yml" => Yaml.parse text
  | "toml" => Toml.parse text
  | "hcl" | "tfvars" => Hcl.read text
  | "properties" | "props" | "prop" => Properties.parse env text
  | "ini" => Ini.parse text
  | "dotenv" | "env" => (fun ps => ps.reverse.map fun (k, v) => (k, Value.text v)) <$> parseAssignments env text
  | _ => .ok []

end FlashArb.Settings
