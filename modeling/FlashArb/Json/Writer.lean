import FlashArb.Json.Value
import FlashArb.Text.Quoted

/-!
Writing JSON text compactly. Strings are escaped so that the text is safe inside HTML:
quote, backslash, control characters, `<`, `>`, `&`, U+2028 and U+2029 are escaped.
-/
namespace FlashArb.Json

/-- How one character of a string is written. -/
def escapeChar (c : Char) : List Char :=
  match c.toNat with
  | 0x22 => ['\\', '"']
  | 0x5C => ['\\', '\\']
  | 0x0A => ['\\', 'n']
  | 0x0D => ['\\', 'r']
  | 0x09 => ['\\', 't']
  | 0x08 => ['\\', 'b']
  | 0x0C => ['\\', 'f']
  | n =>
    if n < 0x20 || n == 0x3C || n == 0x3E || n == 0x26 || n == 0x2028 || n == 0x2029 then
      ['\\', 'u'] ++ Text.hexFixed 4 n
    else [c]

def quoteString (s : String) : String :=
  String.ofList ('"' :: s.toList.flatMap escapeChar ++ ['"'])

mutual

/-- The compact text of a value. -/
def render : Json → String
  | .null => "null"
  | .bool true => "true"
  | .bool false => "false"
  | .num t => t
  | .str s => quoteString s
  | .arr xs => "[" ++ renderItems xs ++ "]"
  | .obj ms => "\x7b" ++ renderMembers ms ++ "\x7d"

def renderItems : List Json → String
  | [] => ""
  | [x] => render x
  | x :: xs => render x ++ "," ++ renderItems xs

def renderMembers : List (String × Json) → String
  | [] => ""
  | [(k, v)] => quoteString k ++ ":" ++ render v
  | (k, v) :: ms => quoteString k ++ ":" ++ render v ++ "," ++ renderMembers ms

end

end FlashArb.Json
