import FlashArb.Text.Utf8

/-! List-valued flags read as one comma-separated record. -/
namespace FlashArb.Cli.Csv

/-- What is wrong with a record. -/
inductive Problem where
  | bareQuote
  | quote
deriving DecidableEq

/-- A fault of a record: the line the record started on, and the line and column of the fault. -/
structure Fault where
  startLine : Nat
  line : Nat
  column : Nat
  problem : Problem

/-- A fault's message. -/
def Fault.message (f : Fault) : String :=
  let problem := match f.problem with
    | .bareQuote => "bare \" in non-quoted field"
    | .quote => "extraneous or missing \" in quoted-field"
  let place := "parse error on line " ++ toString f.line ++ ", column " ++ toString f.column ++ ": " ++ problem
  if f.startLine != f.line then "record on line " ++ toString f.startLine ++ "; " ++ place else place

/-- The lines of a text, each with its line feed when it has one; `\r\n` becomes `\n`, and a
`\r` ending the text is dropped. -/
def lines (bs : Bytes) : List Bytes :=
  let finish (line : Bytes) : Bytes :=
    match line.reverse with
    | 10 :: 13 :: r => (10 :: r).reverse
    | 13 :: r => r.reverse
    | _ => line
  let (done, current) := bs.foldl (fun (done, current) b =>
    if b == 10 then (done ++ [finish (current ++ [10])], []) else (done, current ++ [b])) ([], [])
  if current.isEmpty then done else done ++ [finish current]

def endLength (line : Bytes) : Nat := if line.getLast? == some 10 then 1 else 0

def indexOf (line : Bytes) (b : UInt8) : Option Nat := line.findIdx? (· == b)

mutual

/-- Reads the fields of a record from `line` on, the line numbered `lineNo`, at column `col`. -/
def fields (fuel : Nat) (line : Bytes) (rest : List Bytes) (startLine lineNo col : Nat)
    (acc : List Bytes) : Except Fault (List Bytes) :=
  match fuel with
  | 0 => .ok acc
  | fuel + 1 =>
    if line.head? == some 34 then
      quoted fuel (line.drop 1) rest startLine lineNo (col + 1) [] acc
    else
      let comma := indexOf line 44
      let field := match comma with
        | some i => line.take i
        | none => line.take (line.length - endLength line)
      match indexOf field 34 with
      | some j => .error ⟨startLine, lineNo, col + j, .bareQuote⟩
      | none =>
        match comma with
        | some i => fields fuel (line.drop (i + 1)) rest startLine lineNo (col + i + 1) (acc ++ [field])
        | none => .ok (acc ++ [field])

/-- Reads the rest of a quoted field into `buf`. -/
def quoted (fuel : Nat) (line : Bytes) (rest : List Bytes) (startLine lineNo col : Nat)
    (buf : Bytes) (acc : List Bytes) : Except Fault (List Bytes) :=
  match fuel with
  | 0 => .ok (acc ++ [buf])
  | fuel + 1 =>
    match indexOf line 34 with
    | some i =>
      let buf := buf ++ line.take i
      let after := line.drop (i + 1)
      let col := col + i + 1
      match after.head? with
      | some 34 => quoted fuel (after.drop 1) rest startLine lineNo (col + 1) (buf ++ [34]) acc
      | some 44 => fields fuel (after.drop 1) rest startLine lineNo (col + 1) (acc ++ [buf])
      | _ =>
        if endLength after == after.length then .ok (acc ++ [buf])
        else .error ⟨startLine, lineNo, col - 1, .quote⟩
    | none =>
      if line.isEmpty then .error ⟨startLine, lineNo, col, .quote⟩
      else
        let buf := buf ++ line
        match rest with
        | next :: rest => quoted fuel next rest startLine (lineNo + 1) 1 buf acc
        | [] => quoted fuel [] [] startLine lineNo (col + line.length) buf acc

end

/-- Reads the first record of a text: its fields, or the fault; `EOF` when it holds none. -/
def readRecord (text : String) : Except String (List String) :=
  let all := lines text.toUTF8.toList
  let numbered := all.zipIdx.map fun (l, i) => (l, i + 1)
  match numbered.dropWhile (fun (l, _) => endLength l == l.length) with
  | [] => .error "EOF"
  | (line, lineNo) :: rest =>
    let fuel := text.utf8ByteSize + all.length + 2
    match fields fuel line (rest.map (·.1)) lineNo lineNo 1 [] with
    | .ok fs => .ok (fs.map Text.lossyString)
    | .error f => .error f.message

/-- Whether a field must be quoted when written. -/
def needsQuotes (field : String) : Bool :=
  if field.isEmpty then false
  else if field == "\\." then true
  else field.any (fun c => c == '\n' || c == '\r' || c == '"' || c == ',') ||
    (field.toList.head?.map Char.isWhitespace).getD false

def writeRecord (fields : List String) : String :=
  ",".intercalate (fields.map fun f =>
    if needsQuotes f then "\"" ++ f.replace "\"" "\"\"" ++ "\"" else f)

end FlashArb.Cli.Csv
