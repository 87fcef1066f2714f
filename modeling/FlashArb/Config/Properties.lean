import FlashArb.Config.Sources
import FlashArb.Text.Quoted

/-! Properties files of `key = value` lines. -/
namespace FlashArb.Settings.Properties

/-- The kinds of items. -/
inductive ItemKind where
  | comment
  | key
  | value
  | ending
  | fault
deriving DecidableEq

/-- An item: its kind, where it starts and its text. -/
structure Item where
  kind : ItemKind
  pos : Nat
  text : String

def isBlank (c : Char) : Bool := c == ' ' || c == '\x0c' || c == '\t'

def isBreak (c : Char) : Bool := c == '\n' || c == '\r'

def endsKey (c : Char) : Bool := isBlank c || isBreak c || c == ':' || c == '='

/-- The character an escape stands for, or the fault of a bad one; returns it and the rest. -/
def escape (cs : List Char) : Except String (Char × List Char) :=
  match cs with
  | [] => .error "premature EOF"
  | 'u' :: rest =>
    let ds := rest.take 4
    let hex (c : Char) : Bool := c.isDigit || ('a' ≤ c && c ≤ 'f') || ('A' ≤ c && c ≤ 'F')
    if ds.length == 4 && ds.all hex then
      let r := ds.foldl (fun n d => n * 16 + Text.digitOf d) 0
      .ok (if 0xD800 ≤ r && r < 0xE000 then '\uFFFD' else Char.ofNat r, rest.drop 4)
    else .error "invalid unicode literal"
  | c :: rest =>
    .ok (match c with
      | 'f' => '\x0c'
      | 'n' => '\n'
      | 'r' => '\r'
      | 't' => '\t'
      | _ => c, rest)

/-- The states of the splitting step. -/
inductive Mode where
  | beforeKey
  | comment
  | key
  | value

/-- Splits a text into items; `pos` is the position of `cs`, `start` that of the item read and `acc`
its text, reversed. -/
def items : Nat → Mode → List Char → Nat → Nat → List Char → List Item
  | 0, _, _, pos, _, _ => [⟨.ending, pos, ""⟩]
  | fuel + 1, .beforeKey, cs, pos, _, _ =>
    match cs with
    | [] => [⟨.ending, pos, ""⟩]
    | c :: rest =>
      if isBreak c || isBlank c then items fuel .beforeKey rest (pos + 1) (pos + 1) []
      else if c == '#' || c == '!' then
        let blanks := (rest.takeWhile isBlank).length
        items fuel .comment (rest.drop blanks) (pos + 1 + blanks) (pos + 1 + blanks) []
      else items fuel .key cs pos pos []
  | fuel + 1, .comment, cs, pos, start, acc =>
    match cs with
    | [] => [⟨.ending, pos, ""⟩]
    | c :: rest =>
      if isBreak c then ⟨.comment, start, String.ofList acc.reverse⟩ :: items fuel .beforeKey rest (pos + 1) (pos + 1) []
      else items fuel .comment rest (pos + 1) start (c :: acc)
  | fuel + 1, .key, cs, pos, start, acc =>
    let emitKey : List Item := if acc.isEmpty then [] else [⟨.key, start, String.ofList acc.reverse⟩]
    match cs with
    | [] => emitKey ++ [⟨.ending, pos, ""⟩]
    | '\\' :: rest =>
      match escape rest with
      | .error e => [⟨.fault, start, e⟩]
      | .ok (c, more) => items fuel .key more (pos + 1 + (rest.length - more.length)) start (c :: acc)
    | c :: rest =>
      if endsKey c then
        let b1 := (cs.takeWhile isBlank).length
        let cs := cs.drop b1
        let (b2, cs) := match cs with
          | ':' :: r | '=' :: r => (1, r)
          | r => (0, r)
        let b3 := (cs.takeWhile isBlank).length
        let next := pos + b1 + b2 + b3
        emitKey ++ items fuel .value (cs.drop b3) next next []
      else items fuel .key rest (pos + 1) start (c :: acc)
  | fuel + 1, .value, cs, pos, start, acc =>
    match cs with
    | [] => [⟨.value, start, String.ofList acc.reverse⟩, ⟨.ending, pos, ""⟩]
    | '\\' :: rest =>
      match rest with
      | b :: more =>
        if isBreak b then
          let blanks := (more.takeWhile isBlank).length
          items fuel .value (more.drop blanks) (pos + 2 + blanks) start acc
        else
          match escape rest with
          | .error e => [⟨.fault, start, e⟩]
          | .ok (c, more) => items fuel .value more (pos + 1 + (rest.length - more.length)) start (c :: acc)
      | [] => [⟨.fault, start, "premature EOF"⟩]
    | c :: rest =>
      if isBreak c then ⟨.value, start, String.ofList acc.reverse⟩ :: items fuel .beforeKey cs pos pos []
      else items fuel .value rest (pos + 1) start (c :: acc)

/-- Text as a format without arguments writes it, within `fuel` steps (one more than the text's
length suffices): `%%` is a percent sign, and any other verb reports its missing argument. -/
def formatBare : Nat → List Char → List Char
  | 0, cs => cs
  | _ + 1, [] => []
  | fuel + 1, '%' :: rest =>
    let flags := rest.takeWhile fun c => c == '+' || c == '-' || c == '#' || c == ' ' || c == '0' ||
      c.isDigit || c == '.'
    match rest.drop flags.length with
    | [] => "%!(NOVERB)".toList
    | '%' :: more => '%' :: formatBare fuel more
    | v :: more => "%!".toList ++ [v] ++ "(MISSING)".toList ++ formatBare fuel more
  | fuel + 1, c :: rest => c :: formatBare fuel rest

def formatted (s : String) : String := String.ofList (formatBare (s.length + 1) s.toList)

/-- An item as a fault names it: a value quoted, cut to ten characters when long. -/
def Item.shown (i : Item) : String :=
  match i.kind with
  | .ending => "EOF"
  | .fault => i.text
  | _ =>
    if i.text.utf8ByteSize > 10 then Text.quote (String.ofList (i.text.toList.take 10)) ++ "..."
    else Text.quote i.text

/-- Pairs the keys with their values, in order, or reports the first misplaced item with its
line. -/
def entries (text : List Char) : List Item → Except String (List (String × String))
  | [] => .ok []
  | i :: rest =>
    match i.kind with
    | .ending => .ok []
    | .comment => entries text rest
    | .key =>
      match rest with
      | v :: more =>
        match v.kind with
        | .ending => .ok [(i.text, "")]
        | .value => ((i.text, v.text) :: ·) <$> entries text more
        | _ => .error (misplaced text v)
      | [] => .ok [(i.text, "")]
    | _ => .error (misplaced text i)
where
  /-- The fault for an item where it does not belong. -/
  misplaced (text : List Char) (i : Item) : String :=
    let line := 1 + ((text.take i.pos).filter (· == '\n')).length
    formatted ("properties: Line " ++ toString line ++ ": " ++ i.shown)

def indexOf (cs pat : List Char) : Option Nat :=
  (List.range (cs.length + 1)).find? fun i => (cs.drop i).take pat.length == pat && i + pat.length ≤ cs.length

/-- Expands the references in `s`, within `fuel` steps, the keys in `keys` being expanded
already; a key is looked up in `values`, then in `env`. -/
def expand (values env : List (String × String)) : Nat → List Char → List String → Except String (List Char)
  | 0, s, _ => .ok s
  | fuel + 1, s, keys =>
    if keys.length > 64 then .error "expansion too deep"
    else match indexOf s ['$', '\x7b'] with
      | none => .ok s
      | some start =>
        let after := s.drop (start + 2)
        match indexOf after ['\x7d'] with
        | none => .error "malformed expression"
        | some len =>
          let key := String.ofList (after.take len)
          if keys.contains key then
            .error (formatted ("circular reference in:\n" ++ String.join (keys.map fun k =>
              k ++ "=" ++ ((values.lookup k).getD "") ++ "\n")))
          else do
            let val := match values.lookup key with
              | some v => v
              | none => (env.lookup key).getD ""
            let expanded ← expand values env fuel val.toList (keys ++ [key])
            expand values env fuel (s.take start ++ expanded ++ after.drop (len + 1)) keys

def latest (es : List (String × String)) : List (String × String) :=
  es.foldl (fun acc (k, v) =>
    if acc.any (·.1 == k) then acc.map fun (k', v') => if k' == k then (k', v) else (k', v')
    else acc ++ [(k, v)]) []

/-- Reads a properties file into settings; `env` holds the environment variables references
may name. -/
def parse (env : List (String × String)) (text : String) : Except String (List (String × Value)) := do
  let cs := text.toList
  let values := latest (← entries cs (items (4 * cs.length + 8) .beforeKey cs 0 0 []))
  let fuel := 4096 + 4 * (cs.length + (String.join (env.map (·.2))).length)
  let expanded ← values.mapM fun (k, v) => (fun e => (k, String.ofList e)) <$> expand values env fuel v.toList [k]
  return expanded.foldl (fun acc (k, v) =>
    let path := k.splitOn "."
    setPath acc (path.dropLast ++ [Text.toLower (path.getLastD "")]) (.text v)) []

end FlashArb.Settings.Properties
