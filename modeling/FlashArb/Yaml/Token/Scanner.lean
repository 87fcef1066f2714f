import FlashArb.Yaml.Token

/-! The scanner reads characters one at a time and keeps what it needs to place tokens. -/
namespace FlashArb.Yaml

/-- The rounds of decoding, up to the refused character that ends at `badEnd`. -/
def decodedBefore (ends : List Nat) (badEnd : Nat) : Nat → Nat → Nat → Nat
  | 0, done, _ => done
  | fuel + 1, done, last =>
    if badEnd ≤ last then done
    else
      let done' := ends.foldl (fun d e => if e ≤ last then max d e else d) done
      decodedBefore ends badEnd fuel done' (done' + 512)

/-- The count of characters that can be read before a refused character stops the reading, or
`none` when every character is allowed; `skipped` bytes of a byte-order mark precede them. -/
def readableChars (skipped : Nat) (cs : List Char) : Option Nat :=
  match cs.findIdx? (fun c => !isAllowed c) with
  | none => none
  | some i =>
    let ends := ((cs.take (i + 1)).foldl (fun (acc : List Nat × Nat) c =>
      let e := acc.2 + c.utf8Size
      (e :: acc.1, e)) ([], skipped)).1.reverse
    let good := ends.dropLast
    let done := decodedBefore good (ends.getLastD skipped) (cs.length + 2) skipped 512
    some (good.filter (· ≤ done)).length

/-- A place where a simple key may start. -/
structure SimpleKey where
  possible : Bool := false
  /-- Whether the indentation demands a key here. -/
  required : Bool := false
  /-- The number of the token the key would come before. -/
  tokenNumber : Nat := 0
  mark : Mark := {}
deriving Inhabited

/-- The state of the scanner. -/
structure Scanner where
  input : Array Char
  /-- How many characters can be read before a refused one; `none` when all can. -/
  limit : Option Nat := none
  mark : Mark := {}
  /-- Line breaks read since the last character that is not blank. -/
  newlines : Nat := 0
  /-- Every token queued so far; the first `taken` of them have been taken. -/
  tokens : Array Token := #[]
  taken : Nat := 0
  /-- Whether the token at the head of the queue is ready. -/
  available : Bool := false
  started : Bool := false
  ended : Bool := false
  indent : Int := -1
  /-- The indentation of the enclosing block collections, innermost first. -/
  indents : List Int := []
  keyAllowed : Bool := false
  /-- The possible simple key of each flow level, the outermost first. -/
  keys : Array SimpleKey := #[]
  /-- Token numbers of possible simple keys, with their flow levels. -/
  keysByToken : List (Nat × Nat) := []
  flowLevel : Nat := 0
  /-- A fault met while looking ahead, which surfaces once the current event is done. -/
  pending : Option Fault := none

/-- The scanner at the start of a text. -/
def Scanner.ofString (text : String) : Scanner :=
  let cs := if text.isEmpty then ['\n'] else text.toList
  let (skipped, cs) := match cs with
    | '\uFEFF' :: rest => (3, rest)
    | cs => (0, cs)
  { input := cs.toArray, limit := readableChars skipped cs }

def Scanner.empty : Scanner := { input := #[] }

/-- The scanner as a state over faults. -/
abbrev Scan := StateT Scanner (Except Fault)

def Scanner.peek (s : Scanner) (k : Nat := 0) : Char := s.input.getD (s.mark.index + k) '\x00'

/-- A bound on the steps of a loop that reads a character per step. -/
def Scanner.bound (s : Scanner) : Nat := s.input.size + 16

def refused : Fault := ⟨.reading, "control characters are not allowed", {}, {}⟩

def need (n : Nat) : Scan Unit := do
  let s ← get
  if let some l := s.limit then
    if s.mark.index + n > l then throw refused

/-- Asks for the next `n` characters while looking ahead: a refused one is kept as pending
instead of failing, and the answer says whether they can be read. -/
def needAhead (n : Nat) : Scan Bool := do
  let s ← get
  match s.limit with
  | some l =>
    if s.mark.index + n > l then
      set { s with pending := some refused }
      return false
    else return true
  | none => return true

def Scanner.fault (s : Scanner) (problem : String) (context : Mark) : Fault :=
  ⟨.scanning, problem, s.mark, context⟩

def failAt (problem : String) (context : Mark) : Scan α := do
  throw ((← get).fault problem context)

def skip : Scan Unit := modify fun s =>
  { s with mark := { s.mark with index := s.mark.index + 1, column := s.mark.column + 1 },
           newlines := if isBlank (s.peek) then s.newlines else 0 }

def read : Scan Char := do
  let c := (← get).peek
  skip
  return c

/-- Moves past a line break: a carriage return and line feed together count as one. -/
def skipLine : Scan Unit := modify fun s =>
  if s.peek == '\r' && s.peek 1 == '\n' then
    { s with mark := ⟨s.mark.index + 2, s.mark.line + 1, 0⟩, newlines := s.newlines + 1 }
  else if isBreak s.peek then
    { s with mark := ⟨s.mark.index + 1, s.mark.line + 1, 0⟩, newlines := s.newlines + 1 }
  else s

/-- Reads a line break as the text it stands for: a line feed, or the line or paragraph
separator itself. -/
def readLine : Scan String := do
  let s ← get
  let c := s.peek
  if c == '\u2028' || c == '\u2029' then
    skipLine
    return String.singleton c
  else if isBreak c then
    skipLine
    return "\n"
  else return ""

def enqueue (t : Token) (n : Option Nat := none) : Scan Unit := modify fun s =>
  match n with
  | none => { s with tokens := s.tokens.push t }
  | some n => { s with tokens := s.tokens.extract 0 n ++ #[t] ++ s.tokens.extract n s.tokens.size }

def Scanner.topKey (s : Scanner) : SimpleKey := s.keys.back?.getD {}

def keyFault (s : Scanner) (k : SimpleKey) : Fault := s.fault "could not find expected ':'" k.mark

/-- Whether the simple key of flow level `i` is still possible. -/
def keyIsValid (i : Nat) : Scan Bool := do
  let s ← get
  match s.keys[i]? with
  | none => return false
  | some k =>
    if !k.possible then return false
    if k.mark.line < s.mark.line || k.mark.index + 1024 < s.mark.index then
      if k.required then throw (keyFault s k)
      set { s with keys := s.keys.modify i fun k => { k with possible := false } }
      return false
    return true

/-- Drops the simple key of the innermost flow level; a demanded one is a fault. -/
def removeKey : Scan Unit := do
  let s ← get
  let k := s.topKey
  if k.possible then
    if k.required then throw (keyFault s k)
    set { s with keys := s.keys.modify (s.keys.size - 1) fun k => { k with possible := false },
                 keysByToken := s.keysByToken.filter (·.1 != k.tokenNumber) }

/-- Records that a simple key may start here, before the next token, if keys are allowed. -/
def saveKey : Scan Unit := do
  let s ← get
  if s.keyAllowed then
    let key : SimpleKey :=
      ⟨true, s.flowLevel == 0 && s.indent == s.mark.column, s.tokens.size, s.mark⟩
    removeKey
    modify fun s =>
      let top := s.keys.size - 1
      { s with keys := s.keys.modify top fun _ => key,
               keysByToken := (key.tokenNumber, top) :: s.keysByToken.filter (·.1 != key.tokenNumber) }

def enterFlow : Scan Unit := do
  modify fun s => { s with keys := s.keys.push { mark := s.mark }, flowLevel := s.flowLevel + 1 }
  let s ← get
  if s.flowLevel > 10000 then failAt "exceeded max depth of 10000" s.mark

/-- Leaves a flow collection. -/
def leaveFlow : Scan Unit := modify fun s =>
  if s.flowLevel > 0 then
    { s with flowLevel := s.flowLevel - 1, keys := s.keys.pop,
             keysByToken := s.keysByToken.filter (·.1 != s.topKey.tokenNumber) }
  else s

/-- Opens a block collection at `column` if it is deeper than the current indentation, with a token
of `kind` placed before token number `n` (or at the end). -/
def rollIndent (column : Nat) (n : Option Nat) (kind : TokenKind) (mark : Mark) : Scan Unit := do
  let s ← get
  if s.flowLevel == 0 && s.indent < (column : Int) then
    let depth := s.indents.length + 1
    let keyMark := s.topKey.mark
    modify fun s => { s with indents := s.indent :: s.indents, indent := column }
    if depth > 10000 then failAt "exceeded max depth of 10000" keyMark
    enqueue ⟨kind, mark, mark, "", "", .plain, 0, 0⟩ n

/-- Closes the block collections deeper than `column`, each with a block end placed just
before `mark`. -/
def unrollIndent (column : Int) (mark : Mark) : Scan Unit := do
  let at0 := { mark with index := mark.index - 1 }
  for _ in [0:(← get).indents.length + 1] do
    let s ← get
    if s.flowLevel > 0 || s.indent ≤ column then break
    enqueue ⟨.blockEnd, at0, at0, "", "", .plain, 0, 0⟩
    modify fun s => { s with indent := s.indents.headD (-1), indents := s.indents.tail }

/-- Moves past the characters of a comment, up to its line break. -/
def skipCommentText : Scan Unit := do
  for _ in [0:(← get).bound] do
    need 1
    if isBreakz (← get).peek then break
    skip

/-- Moves to the place `k` characters ahead over blanks and breaks, then past the comment that
starts there. -/
def skipToComment (k : Nat) : Scan Unit := do
  let seen := (← get).mark.index + k
  for _ in [0:(← get).bound] do
    need 1
    let s ← get
    if s.mark.index ≥ seen then break
    if isBreak s.peek then
      need 2
      skipLine
    else skip
  skipCommentText

/-- Moves past a comment, and past the comment lines that follow it within 512 characters over
blanks and line breaks. -/
def skipComments : Scan Unit := do
  skipCommentText
  let mut k := 1
  for _ in [0:(← get).bound] do
    if k ≥ 512 then break
    if !(← needAhead (k + 1)) then break
    let c := (← get).peek k
    if isBlank c || isBreak c then
      k := k + 1
    else if c == '#' then
      skipToComment k
      k := 1
    else break

/-- Moves past a comment that ends the line of the token just read, when only blanks stand
before it. -/
def skipLineComment : Scan Unit := do
  if (← get).newlines > 0 then return
  let mut k := 0
  for _ in [0:512] do
    if !(← needAhead (k + 1)) then break
    let c := (← get).peek k
    if isBlank c then
      k := k + 1
    else
      if c == '#' then skipToComment k
      break

/-- Moves past blanks, comments and line breaks to the next token. -/
def skipToToken : Scan Unit := do
  for _ in [0:(← get).bound] do
    need 1
    if (← get).mark.column == 0 && (← get).peek == '\uFEFF' then skip
    need 1
    for _ in [0:(← get).bound] do
      let s ← get
      if s.peek == ' ' || ((s.flowLevel > 0 || !s.keyAllowed) && s.peek == '\t') then
        skip
        need 1
      else break
    if (← get).peek == '#' then skipComments
    let s ← get
    if isBreak s.peek then
      need 2
      skipLine
      if s.flowLevel == 0 then modify fun s => { s with keyAllowed := true }
    else break

end FlashArb.Yaml
