import FlashArb.Json.Value

/-! Reading a JSON object into a record field by field, as a strict binder does. -/
namespace FlashArb.Json

/-- The kind of a value as a type error names it. -/
def kindWord : Json → String
  | .null => "null"
  | .bool _ => "bool"
  | .num _ => "number"
  | .str _ => "string"
  | .arr _ => "array"
  | .obj _ => "object"

def foldChar (c : Char) : Char :=
  if c.toNat == 0x212A then 'k'
  else if c.toNat == 0x17F then 's'
  else c.toLower

def nameMatches (key field : String) : Bool :=
  key.toList.map foldChar == field.toList.map foldChar

def fieldTypeError (value record field type : String) : String :=
  "json: cannot unmarshal " ++ value ++ " into Go struct field " ++ record ++ "." ++ field ++
    " of type " ++ type

def valueTypeError (value type : String) : String :=
  "json: cannot unmarshal " ++ value ++ " into Go value of type " ++ type

/-- A decimal literal that fits in 64 unsigned bits. -/
def word64? (text : String) : Option Nat :=
  if !text.isEmpty && text.toList.all Char.isDigit then
    let n := text.toNat!
    if n < 2 ^ 64 then some n else none
  else none

end FlashArb.Json
