import FlashArb.Json.Value
import FlashArb.Text.Quoted

/-!
Reading JSON text. The reader walks the text once from the left and reports the first
character that cannot continue a document, named by the place where it stands.
-/
namespace FlashArb.Json

/-- Why a text is not a JSON document. -/
inductive SyntaxError where
  | unexpectedEnd
  | invalidChar (c : Char) (place : String)
deriving Inhabited, BEq

/-- The byte a decoder reports for a character: the character itself when it is ASCII,
else the first byte of its UTF-8 form read as a code point. -/
def reportedChar (c : Char) : Char :=
  if c.toNat < 0x80 then c
  else
    let n := c.toNat
    if n < 0x800 then Char.ofNat (0xC0 + n / 64)
    else if n < 0x10000 then Char.ofNat (0xE0 + n / 4096)
    else Char.ofNat (0xF0 + n / 262144)

def SyntaxError.message : SyntaxError → String
  | .unexpectedEnd => "unexpected end of JSON input"
  | .invalidChar c place => "invalid character " ++ Text.quoteChar (reportedChar c) ++ " " ++ place

def isBlank (c : Char) : Bool := c == ' ' || c == '\t' || c == '\n' || c == '\r'

abbrev Read (α : Type) := Except SyntaxError (α × List Char)

private def bad {α : Type} (c : Char) (place : String) : Except SyntaxError α :=
  .error (.invalidChar c place)

/-- The rest of a literal after its first letter. -/
def readWord (word : String) : List Char → List Char → Except SyntaxError (List Char)
  | [], cs => .ok cs
  | _ :: _, [] => .error .unexpectedEnd
  | e :: es, c :: cs =>
    if c == e then readWord word es cs
    else bad c ("in literal " ++ word ++ " (expecting " ++ Text.quoteChar e ++ ")")

def spanDigits (cs : List Char) : List Char × List Char :=
  (cs.takeWhile Char.isDigit, cs.dropWhile Char.isDigit)

/-- The exponent of a number, after its letter `e`. -/
def readExponent (cs : List Char) : Read (List Char) :=
  let signed : Read (List Char) :=
    match cs with
    | [] => .error .unexpectedEnd
    | c :: rest =>
      if c == '+' || c == '-' then
        match rest with
        | [] => .error .unexpectedEnd
        | d :: _ => if d.isDigit then .ok ([c], rest) else bad d "in exponent of numeric literal"
      else if c.isDigit then .ok ([], cs)
      else bad c "in exponent of numeric literal"
  match signed with
  | .error e => .error e
  | .ok (sign, rest) =>
    let (ds, rest) := spanDigits rest
    .ok (sign ++ ds, rest)

/-- The fraction and exponent of a number after its integer part. -/
def readNumberTail (cs : List Char) : Read (List Char) :=
  let frac : Read (List Char) :=
    match cs with
    | '.' :: rest =>
      match rest with
      | [] => .error .unexpectedEnd
      | d :: _ =>
        if d.isDigit then
          let (ds, rest) := spanDigits rest
          .ok ('.' :: ds, rest)
        else bad d "after decimal point in numeric literal"
    | _ => .ok ([], cs)
  match frac with
  | .error e => .error e
  | .ok (f, rest) =>
    match rest with
    | c :: rest' =>
      if c == 'e' || c == 'E' then
        match readExponent rest' with
        | .error e => .error e
        | .ok (x, rest'') => .ok (f ++ c :: x, rest'')
      else .ok (f, rest)
    | [] => .ok (f, rest)

/-- A number literal, kept as text. -/
def readNumber (cs : List Char) : Read String :=
  let int : Read (List Char) :=
    match cs with
    | '-' :: rest =>
      match rest with
      | [] => .error .unexpectedEnd
      | '0' :: rest' => .ok (['-', '0'], rest')
      | d :: _ =>
        if d.isDigit then
          let (ds, rest') := spanDigits rest
          .ok ('-' :: ds, rest')
        else bad d "in numeric literal"
    | '0' :: rest => .ok (['0'], rest)
    | _ =>
      let (ds, rest) := spanDigits cs
      .ok (ds, rest)
  match int with
  | .error e => .error e
  | .ok (i, rest) =>
    match readNumberTail rest with
    | .error e => .error e
    | .ok (t, rest') => .ok (String.ofList (i ++ t), rest')

/-- The value of a hexadecimal digit. -/
def hexValue? (c : Char) : Option Nat :=
  if c.isDigit then some (c.toNat - 48)
  else if 'a' ≤ c && c ≤ 'f' then some (c.toNat - 87)
  else if 'A' ≤ c && c ≤ 'F' then some (c.toNat - 55)
  else none

/-- Four hexadecimal digits of a character escape. -/
def readHex4 (cs : List Char) : Read Nat :=
  let step (acc : Except SyntaxError (Nat × List Char)) : Except SyntaxError (Nat × List Char) :=
    match acc with
    | .error e => .error e
    | .ok (n, []) => let _ := n; .error .unexpectedEnd
    | .ok (n, c :: rest) =>
      match hexValue? c with
      | some v => .ok (n * 16 + v, rest)
      | none => bad c "in \\u hexadecimal character escape"
  step (step (step (step (.ok (0, cs)))))

def unitChar (u : Nat) : Char :=
  if 0xD800 ≤ u && u < 0xE000 then Char.ofNat 0xFFFD else Char.ofNat u

/-- The body of a string after its opening quote, up to and past the closing quote. -/
def readString : Nat → List Char → List Char → Read String
  | 0, _, _ => .error .unexpectedEnd
  | _ + 1, _, [] => .error .unexpectedEnd
  | fuel + 1, acc, c :: cs =>
    if c == '"' then .ok (String.ofList acc.reverse, cs)
    else if c == '\\' then
      match cs with
      | [] => .error .unexpectedEnd
      | e :: rest =>
        match e with
        | '"' => readString fuel ('"' :: acc) rest
        | '\\' => readString fuel ('\\' :: acc) rest
        | '/' => readString fuel ('/' :: acc) rest
        | 'b' => readString fuel (Char.ofNat 8 :: acc) rest
        | 'f' => readString fuel (Char.ofNat 12 :: acc) rest
        | 'n' => readString fuel ('\n' :: acc) rest
        | 'r' => readString fuel ('\r' :: acc) rest
        | 't' => readString fuel ('\t' :: acc) rest
        | 'u' =>
          match readHex4 rest with
          | .error err => .error err
          | .ok (u, rest') =>
            if 0xD800 ≤ u && u < 0xDC00 then
              -- a high surrogate joins a following low one, else it is replaced
              match rest' with
              | '\\' :: 'u' :: more =>
                match readHex4 more with
                | .ok (l, rest'') =>
                  if 0xDC00 ≤ l && l < 0xE000 then
                    readString fuel
                      (Char.ofNat (0x10000 + (u - 0xD800) * 1024 + (l - 0xDC00)) :: acc) rest''
                  else readString fuel (Char.ofNat 0xFFFD :: acc) rest'
                | .error _ => readString fuel (Char.ofNat 0xFFFD :: acc) rest'
              | _ => readString fuel (Char.ofNat 0xFFFD :: acc) rest'
            else readString fuel (unitChar u :: acc) rest'
        | _ => bad e "in string escape code"
    else if c.toNat < 0x20 then bad c "in string literal"
    else readString fuel (c :: acc) cs

mutual

/-- A value after optional blanks. -/
def readValue : Nat → List Char → Read Json
  | 0, _ => .error .unexpectedEnd
  | fuel + 1, cs =>
    match cs.dropWhile isBlank with
    | [] => .error .unexpectedEnd
    | c :: rest =>
      if c == '{' then readObject fuel rest
      else if c == '[' then readArray fuel rest
      else if c == '"' then
        match readString (rest.length + 1) [] rest with
        | .ok (s, r) => .ok (.str s, r)
        | .error e => .error e
      else if c == '-' || c.isDigit then
        match readNumber (c :: rest) with
        | .ok (t, r) => .ok (.num t, r)
        | .error e => .error e
      else if c == 't' then
        match readWord "true" ['r', 'u', 'e'] rest with
        | .ok r => .ok (.bool true, r)
        | .error e => .error e
      else if c == 'f' then
        match readWord "false" ['a', 'l', 's', 'e'] rest with
        | .ok r => .ok (.bool false, r)
        | .error e => .error e
      else if c == 'n' then
        match readWord "null" ['u', 'l', 'l'] rest with
        | .ok r => .ok (.null, r)
        | .error e => .error e
      else bad c "looking for beginning of value"

/-- An array after its opening bracket. -/
def readArray : Nat → List Char → Read Json
  | 0, _ => .error .unexpectedEnd
  | fuel + 1, cs =>
    match cs.dropWhile isBlank with
    | ']' :: rest => .ok (.arr [], rest)
    | cs' =>
      match readValue fuel cs' with
      | .error e => .error e
      | .ok (v, rest) => readArrayRest fuel [v] rest

/-- The elements of an array after its first one. -/
def readArrayRest : Nat → List Json → List Char → Read Json
  | 0, _, _ => .error .unexpectedEnd
  | fuel + 1, acc, cs =>
    match cs.dropWhile isBlank with
    | [] => .error .unexpectedEnd
    | ']' :: rest => .ok (.arr acc.reverse, rest)
    | ',' :: rest =>
      match readValue fuel rest with
      | .error e => .error e
      | .ok (v, rest') => readArrayRest fuel (v :: acc) rest'
    | c :: _ => bad c "after array element"

/-- An object after its opening brace. -/
def readObject : Nat → List Char → Read Json
  | 0, _ => .error .unexpectedEnd
  | fuel + 1, cs =>
    match cs.dropWhile isBlank with
    | [] => .error .unexpectedEnd
    | '}' :: rest => .ok (.obj [], rest)
    | '"' :: rest => readMembers fuel [] rest
    | c :: _ => bad c "looking for beginning of object key string"

/-- Members of an object, each starting after the quote that opens its key. -/
def readMembers : Nat → List (String × Json) → List Char → Read Json
  | 0, _, _ => .error .unexpectedEnd
  | fuel + 1, acc, cs =>
    match readString (cs.length + 1) [] cs with
    | .error e => .error e
    | .ok (key, rest) =>
      match rest.dropWhile isBlank with
      | [] => .error .unexpectedEnd
      | ':' :: rest' =>
        match readValue fuel rest' with
        | .error e => .error e
        | .ok (v, rest'') =>
          match rest''.dropWhile isBlank with
          | [] => .error .unexpectedEnd
          | '}' :: more => .ok (.obj ((key, v) :: acc).reverse, more)
          | ',' :: more =>
            match more.dropWhile isBlank with
            | [] => .error .unexpectedEnd
            | '"' :: more' => readMembers fuel ((key, v) :: acc) more'
            | c :: _ => bad c "looking for beginning of object key string"
          | c :: _ => bad c "after object key:value pair"
      | c :: _ => bad c "after object key"

end

/-- Reads a whole text as one JSON document. -/
def parse (s : String) : Except SyntaxError Json :=
  let cs := s.toList
  match readValue (2 * cs.length + 2) cs with
  | .error e => .error e
  | .ok (v, rest) =>
    match rest.dropWhile isBlank with
    | [] => .ok v
    | c :: _ => bad c "after top-level value"

end FlashArb.Json
