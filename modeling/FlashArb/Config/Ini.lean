import FlashArb.Config.Sources
import FlashArb.Text.Quoted

/-! INI files, read line by line. -/
namespace FlashArb.Settings.Ini

def readLines (text : String) : List (List Char) :=
  match (text.splitOn "\n").map String.toList |>.reverse with
  | [] => []
  | last :: earlier => (earlier.map (· ++ ['\n'])).reverse ++ [last]

def lastIndexOf (cs q : List Char) : Option Nat :=
  (List.range (cs.length + 1)).reverse.find? fun i => i + q.length ≤ cs.length && (cs.drop i).take q.length == q

def indexAny (cs : List Char) (set : List Char) : Option Nat := cs.findIdx? set.contains

def trim (cs : List Char) : List Char :=
  ((cs.dropWhile Text.isSpace).reverse.dropWhile Text.isSpace).reverse

def surroundedBy (cs : List Char) (q : Char) : Bool :=
  cs.length ≥ 2 && cs.head? == some q && cs.getLast? == some q && (cs.drop 1).idxOf q == cs.length - 2

/-- A section: its name and its keys with their raw values, in the order they were first given. -/
structure Section where
  name : String
  keys : List (String × String)

def Section.set (s : Section) (k v : String) : Section :=
  if s.keys.any (·.1 == k) then { s with keys := s.keys.map fun (k', v') => if k' == k then (k', v) else (k', v') }
  else { s with keys := s.keys ++ [(k, v)] }

/-- Reads the lines after a value opened by `quote` up to the first that holds the quote,
taking the text before the quote's last occurrence there. -/
def multilineValue (first : List Char) (quote : List Char) :
    List Char → List (List Char) → Except String (List Char × List (List Char))
  | _, [] => .error ("missing closing key quote from " ++ Text.quote (String.ofList first) ++ " to " ++
      Text.quote "")
  | val, next :: rest =>
    match lastIndexOf next quote with
    | some pos => .ok (val ++ next.take pos, rest)
    | none =>
      if rest.isEmpty then
        .error ("missing closing key quote from " ++ Text.quote (String.ofList first) ++ " to " ++
          Text.quote (String.ofList next))
      else multilineValue first quote (val ++ next) rest

/-- Reads the lines continuing a value that ended in a backslash: each trimmed, up to an empty
one or one that does not end in a backslash. -/
def continuedValue : List Char → List (List Char) → List Char × List (List Char)
  | val, [] => (val, [])
  | val, next :: rest =>
    let next := trim next
    if next.isEmpty then (val, rest)
    else
      let val := val ++ next
      if val.getLast? != some '\\' then (val, rest) else continuedValue val.dropLast rest

/-- Reads a value from the text after its key's delimiter, with the lines after it. -/
def readValue (input : List Char) (rest : List (List Char)) :
    Except String (String × List (List Char)) :=
  let line := input.dropWhile Text.isSpace
  if line.isEmpty then .ok ("", rest)
  else
    let quote : List Char :=
      if line.length > 3 && line.take 3 == ['"', '"', '"'] then ['"', '"', '"']
      else if line.head? == some '\x60' then ['\x60']
      else []
    if !quote.isEmpty then
      let body := line.drop quote.length
      match lastIndexOf body quote with
      | some pos => .ok (String.ofList (body.take pos), rest)
      | none => (fun (v, r) => (String.ofList v, r)) <$> multilineValue line quote body rest
    else
      let line := trim line
      if line.getLast? == some '\\' then
        let (v, r) := continuedValue line.dropLast rest
        .ok (String.ofList v, r)
      else
        let line := match indexAny line ['#', ';'] with
          | some i => line.take i
          | none => line
        let line := if surroundedBy line '\'' || surroundedBy line '"' then (line.drop 1).dropLast else line
        .ok (String.ofList line, rest)

/-- The name of a key and the index right after its delimiter. -/
def readKeyName (line : List Char) : Except String (String × Nat) :=
  let quote : List Char :=
    if line.head? == some '"' then
      if line.length > 6 && line.take 3 == ['"', '"', '"'] then ['"', '"', '"'] else ['"']
    else if line.head? == some '\x60' then ['\x60']
    else []
  let start := quote.length
  if start > 0 then
    let body := line.drop start
    match (List.range body.length).find? (fun i => (body.drop i).take start == quote) with
    | none => .error ("missing closing key quote: " ++ String.ofList line)
    | some p =>
      let pos := p + start
      match indexAny (line.drop (pos + start)) ['=', ':'] with
      | none => .error ("key-value delimiter not found: " ++ String.ofList line)
      | some i => .ok (String.ofList (trim ((line.drop start).take (pos - start))), pos + i + start + 1)
  else
    match indexAny line ['=', ':'] with
    | none => .error ("key-value delimiter not found: " ++ String.ofList line)
    | some 0 => .error ("empty key name: " ++ String.ofList line)
    | some i => .ok (String.ofList (trim (line.take i)), i + 1)

def setKey (sections : List Section) (name k v : String) : List Section :=
  sections.map fun s => if s.name == name then s.set k v else s

/-- Reads the sections of a file's lines, `current` being the open section and `count` numbering the
keys named `-`. -/
def readSections (sections : List Section) (current : String) (count : Nat) :
    Nat → List (List Char) → Except String (List Section)
  | 0, _ => .ok sections
  | _ + 1, [] => .ok sections
  | fuel + 1, raw :: rest =>
    let line := raw.dropWhile Text.isSpace
    match line with
    | [] => readSections sections current count fuel rest
    | c :: _ =>
      if c == '#' || c == ';' then readSections sections current count fuel rest
      else if c == '[' then
        match lastIndexOf line [']'] with
        | none => .error ("unclosed section: " ++ String.ofList line)
        | some close =>
          let name := String.ofList ((line.drop 1).take (close - 1))
          if name.isEmpty then .error "empty section name"
          else
            let sections := if sections.any (·.name == name) then sections else sections ++ [⟨name, []⟩]
            readSections sections name 1 fuel rest
      else do
        let (k, offset) ← readKeyName line
        let (k, count) := if k == "-" then ("#" ++ toString count, count + 1) else (k, count)
        let (v, remaining) ← readValue (line.drop offset) rest
        if k.isEmpty then .error "error creating new key: empty key name"
        else readSections (setKey sections current k v) current count fuel remaining

/-- The first reference `%(name)s` in a value: where it starts, the name and its length. -/
def referenceIn (cs : List Char) : Option (Nat × List Char × Nat) :=
  (List.range cs.length).findSome? fun i =>
    match cs.drop i with
    | '%' :: '(' :: more =>
      let name := more.takeWhile (· != ')')
      match more.drop name.length with
      | ')' :: 's' :: _ => if name.isEmpty then none else some (i, name, name.length + 4)
      | _ => none
    | _ => none

/-- Replaces every occurrence of `pat` (not empty) in `cs` by `r`, left to right. -/
def replaceAll (pat r : List Char) : Nat → List Char → List Char
  | 0, cs => cs
  | _ + 1, [] => []
  | fuel + 1, c :: cs =>
    if (c :: cs).take pat.length == pat then r ++ replaceAll pat r fuel ((c :: cs).drop pat.length)
    else c :: replaceAll pat r fuel cs

def sectionNamed (sections : List Section) (name : String) : Option Section :=
  sections.find? (·.name == name)

/-- Looks a key up in a section, then in the sections its dotted name lies under, nearest
first: its section's name and its raw value. -/
def findKey (sections : List Section) (name key : String) : Option (String × String) :=
  let parents := ((List.range (name.length + 1)).reverse.filterMap fun i =>
    if (name.toList.drop i).head? == some '.' then some (String.ofList (name.toList.take i)) else none)
  (name :: parents).findSome? fun n =>
    (sectionNamed sections n).bind fun s => (s.keys.lookup key).map fun v => (n, v)

/-- The value of a key as settings read it: each `%(name)s` replaced, at most 99 times. -/
def expandValue (sections : List Section) (sec key : String) : Nat → List Char → List Char
  | 0, v => v
  | fuel + 1, v =>
    match referenceIn v with
    | none => v
    | some (i, name, len) =>
      let found := match findKey sections sec (String.ofList name) with
        | some (n, raw) => if n == sec && String.ofList name == key then none else some raw
        | none => none
      let found := found <|> ((sectionNamed sections "DEFAULT").bind fun s => s.keys.lookup (String.ofList name))
      match found with
      | none => v
      | some raw =>
        let pat := (v.drop i).take len
        expandValue sections sec key fuel (replaceAll pat raw.toList (v.length + 1) v)

/-- Reads an INI file into settings. -/
def parse (text : String) : Except String (List (String × Value)) := do
  let text := if text.startsWith "\uFEFF" then (text.drop 1).toString else text
  let lines := readLines text
  let sections ← readSections [⟨"DEFAULT", []⟩] "DEFAULT" 1 (lines.length + 1) lines
  return sections.foldl (fun acc s =>
    s.keys.foldl (fun acc (k, v) =>
      let v := if v.contains '%' then String.ofList (expandValue sections s.name k 99 v.toList) else v
      setPath acc (s.name.splitOn "." ++ [k]) (.text v)) acc) []

end FlashArb.Settings.Ini
