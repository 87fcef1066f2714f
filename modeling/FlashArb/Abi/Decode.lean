import FlashArb.Abi.Value
import FlashArb.Text.Utf8

/-! Decoding contract ABI data: heads, offsets into the tail, and the first violation met. -/
namespace FlashArb.Abi

def wordAt (data : Bytes) (i : Nat) : Nat := Bytes.toNat (data.slice i 32)

def checkedWidth (bits : Nat) : Bool := bits == 8 || bits == 16 || bits == 32 || bits == 64

def signed (w : Nat) : Int := if w ≥ 2 ^ 255 then (w : Int) - 2 ^ 256 else w

def readUint (bits w : Nat) : Except String Value :=
  if checkedWidth bits && w ≥ 2 ^ bits then
    .error ("abi: improperly encoded uint" ++ toString bits ++ " value")
  else .ok (.uint w)

/-- A signed integer word of the given width. -/
def readInt (bits w : Nat) : Except String Value :=
  let v := signed w
  if checkedWidth bits && (v < -(2 ^ (bits - 1) : Int) || v ≥ (2 ^ (bits - 1) : Int)) then
    .error ("abi: improperly encoded int" ++ toString bits ++ " value")
  else .ok (.int v)

def readBool (w : Nat) : Except String Value :=
  if w == 0 then .ok (.bool false)
  else if w == 1 then .ok (.bool true)
  else .error "abi: improperly encoded boolean value"

/-- Where the content of a length-prefixed value at head position `index` starts and how
long it is. -/
def lengthPrefix (index : Nat) (output : Bytes) : Except String (Nat × Nat) := do
  let offsetEnd := wordAt output index + 32
  if offsetEnd > output.length then
    throw ("abi: cannot marshal in to go slice: offset " ++ toString offsetEnd ++
      " would go over slice boundary (len=" ++ toString output.length ++ ")")
  let length := wordAt output (offsetEnd - 32)
  let total := offsetEnd + length
  if total ≥ 2 ^ 63 then throw ("abi: length larger than int64: " ++ toString total)
  if total > output.length then
    throw ("abi: cannot marshal in to go type: length insufficient " ++ toString output.length ++
      " require " ++ toString total)
  return (offsetEnd, length)

/-- Where a dynamic tuple at head position `index` starts. -/
def tupleStart (index : Nat) (output : Bytes) : Except String Nat := do
  let offset := wordAt output index
  if offset > output.length then
    throw ("abi: cannot marshal in to go slice: offset " ++ toString offset ++
      " would go over slice boundary (len=" ++ toString output.length ++ ")")
  return offset

mutual

/-- The value of type `t` whose head is at `index`. -/
def decodeAt (t : Ty) (index : Nat) (output : Bytes) : Except String Value :=
  if index + 32 > output.length then
    .error ("abi: cannot marshal in to go type: length insufficient " ++ toString output.length ++
      " require " ++ toString (index + 32))
  else
    match t with
    | .tuple ts =>
      if anyDynamic ts then do
        let start ← tupleStart index output
        return .tuple (← decodeItems ts 0 (output.drop start))
      else do return .tuple (← decodeItems ts 0 (output.drop index))
    | .array elem => do
      let (start, size) ← lengthPrefix index output
      let content := output.drop start
      if 32 * size > content.length then
        throw ("abi: cannot marshal in to go array: offset " ++ toString content.length ++
          " would go over slice boundary (len=" ++ toString (32 * size) ++ ")")
      return .array (← decodeRepeated elem size 0 content)
    | .string => do
      let (start, size) ← lengthPrefix index output
      return .string (output.slice start size)
    | .bytes => do
      let (start, size) ← lengthPrefix index output
      return .bytes (output.slice start size)
    | .uint bits => readUint bits (wordAt output index)
    | .int bits => readInt bits (wordAt output index)
    | .bool => readBool (wordAt output index)
    | .address => .ok (.address (Address.ofNat (wordAt output index)))
    | .fixedBytes n => .ok (.fixedBytes (output.slice index (min n 32)))

/-- The items of a list of types, the first head at `offset`. -/
def decodeItems : List Ty → Nat → Bytes → Except String (List Value)
  | [], _, _ => .ok []
  | t :: ts, offset, output => do
    let v ← decodeAt t offset output
    let vs ← decodeItems ts (offset + t.headSize) output
    return v :: vs

/-- `count` items of one type, packed from `offset`. -/
def decodeRepeated (t : Ty) : Nat → Nat → Bytes → Except String (List Value)
  | 0, _, _ => .ok []
  | count + 1, offset, output => do
    let v ← decodeAt t offset output
    let vs ← decodeRepeated t count (offset + t.headSize) output
    return v :: vs

end

/-- Decodes an argument list, as event data is read: nothing is expected of its length
beyond holding the arguments. -/
def decodeArgs (ts : List Ty) (data : Bytes) : Except String (List Value) :=
  if data.isEmpty then
    if ts.isEmpty then .ok []
    else .error "abi: attempting to unmarshal an empty string while arguments are expected"
  else decodeItems ts 0 data

/-- Bytes as Go prints a byte slice: decimal values in brackets. -/
def bytesListText (bs : Bytes) : String :=
  "[" ++ " ".intercalate (bs.map fun b => toString b.toNat) ++ "]"

/-- Decodes the outputs of a call, which must be whole words. -/
def decodeOutputs (ts : List Ty) (data : Bytes) : Except String (List Value) :=
  if data.length % 32 != 0 then
    .error ("abi: improperly formatted output: " ++ Text.quoteBytes data ++ " - Bytes: " ++
      bytesListText data)
  else decodeArgs ts data

end FlashArb.Abi
