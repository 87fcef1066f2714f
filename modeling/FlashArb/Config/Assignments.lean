import FlashArb.Text.Printable

/-! The `env` and `dotenv` formats of configuration files. -/
namespace FlashArb.Settings

def isShapeBlank (c : Char) : Bool :=
  c == ' ' || c == '\t' || c == '\n' || c == '\x0c' || c == '\r'

def isKeyChar (c : Char) : Bool :=
  (c.toNat < 128 && c.isAlphanum) || c == '_' || c == '.'

/-- Whether text may follow a value: blanks, then optionally a `#` comment that runs to the
end without a line break. -/
def endsAssignment (cs : List Char) : Bool :=
  match cs.dropWhile isShapeBlank with
  | [] => true
  | '#' :: rest => !rest.contains '\n'
  | _ => false

/-- The value at the start of `cs`, as the preferred fit of the shape takes it: quoted up to the
last closing quote that lets the line end, else the longest plain text that does, else nothing. -/
def valueAt (cs : List Char) : Option (List Char) :=
  let quoted (q : Char) : Option (List Char) :=
    match cs with
    | c :: rest =>
      if c != q then none
      else (List.range rest.length).reverse.findSome? fun j =>
        if rest[j]? == some q && endsAssignment (rest.drop (j + 1)) then some (cs.take (j + 2))
        else none
    | [] => none
  let plainLength := (cs.takeWhile fun c => c != '#' && c != '\n').length
  let plain := (List.range plainLength).reverse.findSome? fun k =>
    if endsAssignment (cs.drop (k + 1)) then some (cs.take (k + 1)) else none
  quoted '\'' <|> quoted '"' <|> plain <|> (if endsAssignment cs then some [] else none)

/-- The value after a key: `=` with the longest blanks around it first, else `:` with the
fewest blanks after it. -/
def valueAfterKey (cs : List Char) : Option (List Char) :=
  let blanks := (cs.takeWhile isShapeBlank).length
  let equals := match cs.drop blanks with
    | '=' :: rest =>
      let after := (rest.takeWhile isShapeBlank).length
      (List.range (after + 1)).reverse.findSome? fun m => valueAt (rest.drop m)
    | _ => none
  equals <|> match cs with
    | ':' :: rest =>
      let after := (rest.takeWhile isShapeBlank).length
      (List.range after).findSome? fun m => valueAt (rest.drop (m + 1))
    | _ => none

/-- The key and the raw value of an assignment line, or `none` when the line does not have
the shape. -/
def assignmentOf (line : List Char) : Option (String × List Char) :=
  let cs := line.dropWhile isShapeBlank
  let withKey (cs : List Char) : Option (String × List Char) :=
    let key := cs.takeWhile isKeyChar
    if key.isEmpty then none
    else (valueAfterKey (cs.drop key.length)).map fun v => (String.ofList key, v)
  let exported := match cs with
    | 'e' :: 'x' :: 'p' :: 'o' :: 'r' :: 't' :: rest =>
      let blanks := rest.takeWhile isShapeBlank
      if blanks.isEmpty then none else withKey (rest.drop blanks.length)
    | _ => none
  exported <|> withKey cs

def replacePair (a b r : Char) : List Char → List Char
  | c :: d :: rest =>
    if c == a && d == b then r :: replacePair a b r rest else c :: replacePair a b r (d :: rest)
  | cs => cs

def dropBackslashes : List Char → List Char
  | '\\' :: c :: rest => if c == '$' then '\\' :: '$' :: dropBackslashes rest else c :: dropBackslashes rest
  | c :: rest => c :: dropBackslashes rest
  | [] => []

/-- The name of a reference after its `$`: an optional `{`, capitals, digits and `_`, and an
optional `}`; returns the name, the text it spans and the rest. -/
def referenceAt (cs : List Char) : List Char × List Char × List Char :=
  let (opening, cs) := match cs with | '\x7b' :: r => (['\x7b'], r) | r => ([], r)
  let name := cs.takeWhile fun c => ('A' ≤ c && c ≤ 'Z') || c.isDigit || c == '_'
  let cs := cs.drop name.length
  let (closing, cs) := match cs with | '\x7d' :: r => (['\x7d'], r) | r => ([], r)
  (name, opening ++ name ++ closing, cs)

/-- Expands references within `fuel` steps (the text's length suffices): `\$` keeps the dollar sign
and what follows it, a name is looked up with `find`, and a dollar sign without a name stays. -/
def expandReferences (find : String → String) : Nat → List Char → List Char
  | 0, cs => cs
  | _ + 1, [] => []
  | fuel + 1, '\\' :: '$' :: rest =>
    let (_, body, after) := referenceAt rest
    '$' :: body ++ expandReferences find fuel after
  | fuel + 1, '$' :: rest =>
    let (name, body, after) := referenceAt rest
    (if name.isEmpty then '$' :: body else (find (String.ofList name)).toList) ++
      expandReferences find fuel after
  | fuel + 1, c :: rest => c :: expandReferences find fuel rest

/-- The value of an assignment from its raw text: trimmed, unquoted, unescaped and expanded. -/
def assignedValue (env earlier : List (String × String)) (raw : List Char) : String :=
  let v := (Text.trimSpace (String.ofList raw)).toList
  let double := v.length ≥ 2 && v.head? == some '"' && v.getLast? == some '"'
  let single := v.length ≥ 2 && v.head? == some '\'' && v.getLast? == some '\''
  let v := if double || single then (v.drop 1).dropLast else v
  let v := if double then dropBackslashes (replacePair '\\' 'r' '\r' (replacePair '\\' 'n' '\n' v))
    else v
  let find (name : String) : String :=
    match env.lookup name with
    | some x => x
    | none => (earlier.lookup name).getD ""
  String.ofList (if single then v else expandReferences find v.length v)

def fileLines (text : String) : List String :=
  ((text.replace "\r\n" "\n").replace "\r" "\n").splitOn "\n"

/-- The quote a line's value opens and does not close on the line, if any. -/
def openQuote (line : String) : Option Char :=
  let cs := line.toList
  let sep := match cs.idxOf? '=' with
    | some i => some i
    | none => cs.idxOf? ':'
  match sep with
  | some i =>
    if i > 0 && i + 1 < cs.length then
      let v := (Text.trimSpace (String.ofList (cs.drop (i + 1)))).toList
      match v with
      | q :: rest =>
        if q == '"' || q == '\'' then
          let inner := (Text.trimSpace (String.ofList rest)).toList
          match (List.range inner.length).reverse.find? (inner[·]? == some q) with
          | some j =>
            let pos := (String.ofList (inner.take j)).utf8ByteSize
            if (String.ofList v).toUTF8.toList[pos]? != some 0x5C then none else some q
          | none => some q
        else none
      | [] => none
    else none
  | none => none

/-- Whether a continuation line closes the open quote `q`: its last `q` does not follow a
backslash. -/
def closesQuote (q : Char) (l : String) : Bool :=
  let cs := l.toList
  match (List.range cs.length).reverse.find? (cs[·]? == some q) with
  | some j => !(j > 0 && cs[j - 1]? == some '\\')
  | none => false

/-- Why a line is not an assignment: an `export` of a key that is not assigned yet, or a line
of the wrong shape. -/
def lineFault (earlier : List (String × String)) (line : String) : String :=
  let st := Text.trimSpace line
  let unset := st.startsWith "export" && match st.splitOn " " with
    | _ :: rest@(_ :: _) => (earlier.lookup (" ".intercalate rest)).isNone
    | _ => false
  if unset then "line " ++ "\x60" ++ st ++ "\x60 has an unset variable"
  else "line \x60" ++ line ++ "\x60 doesn't match format"

/-- Gathers the lines after one whose value opened the quote `q`, up to the line that closes
it; `none` when no line does. -/
def gatherQuoted (q : Char) (line : String) : List String → Option String × List String
  | [] => (none, [])
  | l :: ls =>
    let line := line ++ "\n" ++ l
    if closesQuote q l then (some line, ls) else gatherQuoted q line ls

theorem gatherQuoted_rest_length (q : Char) (line : String) (ls : List String) :
    (gatherQuoted q line ls).2.length ≤ ls.length := by
  induction ls generalizing line with
  | nil => simp [gatherQuoted]
  | cons l ls ih =>
    simp only [gatherQuoted]
    split
    · simp
    · exact Nat.le_succ_of_le (ih _)

def statementOf (line : String) (ls : List String) : Option String × List String :=
  match openQuote line with
  | some q => gatherQuoted q line ls
  | none => (some line, ls)

theorem statementOf_rest_length (line : String) (ls : List String) :
    (statementOf line ls).2.length ≤ ls.length := by
  unfold statementOf
  split
  · exact gatherQuoted_rest_length _ _ _
  · exact Nat.le_refl _

/-- Reads the assignments of an assignment file, in order; a later assignment of a key replaces an
earlier one. -/
def parseAssignments (env : List (String × String)) (text : String) :
    Except String (List (String × String)) :=
  let text := if text.startsWith "\uFEFF" then (text.drop 1).toString else text
  let lines := fileLines text
  go lines.length lines []
where
  /-- Reads the assignments of `ls` within `fuel` steps after those in `acc`. -/
  go : Nat → List String → List (String × String) → Except String (List (String × String))
    | 0, _, acc => .ok acc
    | _ + 1, [], acc => .ok acc
    | fuel + 1, l :: ls, acc =>
      let line := Text.trimSpace l
      if line.isEmpty || line.startsWith "#" then go fuel ls acc
      else
        match statementOf line ls with
        | (none, _) => .error "missing quotes"
        | (some whole, rest) =>
          match assignmentOf whole.toList with
          | some (key, raw) =>
            go fuel rest ((key, assignedValue env acc raw) :: acc.filter (·.1 != key))
          | none =>
            let st := Text.trimSpace whole
            if st.isEmpty || st.startsWith "#" then go fuel rest acc
            else .error (lineFault acc whole)

end FlashArb.Settings
