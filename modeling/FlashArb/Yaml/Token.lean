import FlashArb.Instances

/-! YAML tokens, the first stage of reading YAML. -/
namespace FlashArb.Yaml

/-- A position in the text: characters read, and line and column, all from zero. -/
structure Mark where
  index : Nat := 0
  line : Nat := 0
  column : Nat := 0
deriving Inhabited

/-- The kinds of tokens. -/
inductive TokenKind where
  | streamStart
  | streamEnd
  | versionDirective
  | tagDirective
  | documentStart
  | documentEnd
  | blockSequenceStart
  | blockMappingStart
  | blockEnd
  | flowSequenceStart
  | flowSequenceEnd
  | flowMappingStart
  | flowMappingEnd
  | blockEntry
  | flowEntry
  | key
  | value
  | alias
  | anchor
  | tag
  | scalar
deriving DecidableEq, Inhabited

/-- How a scalar is written. -/
inductive ScalarStyle where
  | plain
  | singleQuoted
  | doubleQuoted
  | literal
  | folded
deriving DecidableEq, Inhabited

/-- A token with where it starts and stops. -/
structure Token where
  kind : TokenKind
  start : Mark := {}
  stop : Mark := {}
  /-- A scalar's text, an anchor's or alias's name, or the handle of a tag or tag directive. -/
  value : String := ""
  /-- A tag's suffix, or a tag directive's prefix. -/
  suffix : String := ""
  style : ScalarStyle := .plain
  /-- The version a version directive names. -/
  major : Nat := 0
  minor : Nat := 0
deriving Inhabited

/-- The stage that found a fault. -/
inductive Stage where
  /-- Decoding the characters of the input. -/
  | reading
  /-- Splitting into tokens. -/
  | scanning
  /-- Building events from tokens. -/
  | parsing
deriving DecidableEq

/-- A fault in the text: its problem, where it was found, and where the construct being read
began. -/
structure Fault where
  stage : Stage
  problem : String
  problemMark : Mark := {}
  contextMark : Mark := {}

def Fault.line (f : Fault) : Nat :=
  let l := if f.contextMark.line != 0 then f.contextMark.line else f.problemMark.line
  if l == 0 then 0 else if f.stage == .scanning then l + 1 else l

def Fault.message (f : Fault) : String :=
  "yaml: " ++ (if f.line == 0 then "" else "line " ++ toString f.line ++ ": ") ++ f.problem

def isBreak (c : Char) : Bool :=
  c == '\r' || c == '\n' || c == '\u0085' || c == '\u2028' || c == '\u2029'

def isBlank (c : Char) : Bool := c == ' ' || c == '\t'

def isBreakz (c : Char) : Bool := isBreak c || c == '\x00'

def isBlankz (c : Char) : Bool := isBlank c || isBreakz c

def isWordChar (c : Char) : Bool :=
  ('0' ≤ c && c ≤ '9') || ('A' ≤ c && c ≤ 'Z') || ('a' ≤ c && c ≤ 'z') || c == '_' || c == '-'

def isHexDigit (c : Char) : Bool :=
  ('0' ≤ c && c ≤ '9') || ('A' ≤ c && c ≤ 'F') || ('a' ≤ c && c ≤ 'f')

def hexValue (c : Char) : Nat :=
  if c ≤ '9' then c.toNat - '0'.toNat
  else if c ≤ 'F' then c.toNat - 'A'.toNat + 10
  else c.toNat - 'a'.toNat + 10

def isAllowed (c : Char) : Bool :=
  let n := c.toNat
  n == 0x09 || n == 0x0A || n == 0x0D || (0x20 ≤ n && n ≤ 0x7E) || n == 0x85 ||
    (0xA0 ≤ n && n ≤ 0xD7FF) || (0xE000 ≤ n && n ≤ 0xFFFD) || (0x10000 ≤ n && n ≤ 0x10FFFF)

end FlashArb.Yaml
