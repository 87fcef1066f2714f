import FlashArb.Chain.Address
import FlashArb.Json.Bind

/-! Numbers, byte strings, hashes and addresses as a node writes them. -/
namespace FlashArb.Wire

/-- Why hexadecimal text does not read. -/
inductive HexFault where
  | malformed
  | missingPrefix
  | oddLength
  | emptyNumber
  | leadingZero
  | tooLong (bits : Nat)
deriving DecidableEq

def HexFault.message : HexFault → String
  | .malformed => "invalid hex string"
  | .missingPrefix => "hex string without 0x prefix"
  | .oddLength => "hex string of odd length"
  | .emptyNumber => "hex string \"0x\""
  | .leadingZero => "hex number with leading zero digits"
  | .tooLong bits => "hex number > " ++ toString bits ++ " bits"

/-- Why a JSON value does not read as a chain value. -/
inductive Fault where
  | mismatch (found type : String) (field : Option (String × String)) (soft : Bool)
  | other (message : String)
deriving Inhabited

def Fault.message : Fault → String
  | .mismatch found type none _ => Json.valueTypeError found type
  | .mismatch found type (some (record, field)) _ => Json.fieldTypeError found record field type
  | .other m => m

def Fault.isSoft : Fault → Bool
  | .mismatch _ _ _ soft => soft
  | .other _ => false

def Fault.inField (record field : String) : Fault → Fault
  | .mismatch found type _ soft => .mismatch found type (some (record, field)) soft
  | f => f

def kindFault (j : Json) (type : String) : Fault := .mismatch (Json.kindWord j) type none true

/-- Reads `0x` and hexadecimal digits as a number of at most `bits` bits; empty text is zero. -/
def quantityText (bits : Nat) (s : String) : Except HexFault Nat :=
  match s.toList with
  | [] => .ok 0
  | '0' :: x :: digits =>
    if x != 'x' && x != 'X' then .error .missingPrefix
    else if digits.isEmpty then .error .emptyNumber
    else if digits.length > 1 && digits.head? == some '0' then .error .leadingZero
    else if digits.length > bits / 4 then .error (.tooLong bits)
    else match digits.mapM Bytes.hexValue? with
      | some ds => .ok (ds.foldl (fun n d => n * 16 + d) 0)
      | none => .error .malformed
  | _ => .error .missingPrefix

/-- Reads `0x` and pairs of hexadecimal digits; empty text is no bytes. -/
def dataText (s : String) : Except HexFault Bytes :=
  match s.toList with
  | [] => .ok []
  | cs =>
    let digits := match cs with
      | '0' :: x :: rest => if x == 'x' || x == 'X' then some rest else none
      | _ => none
    match digits with
    | none => .error .missingPrefix
    | some ds =>
      if ds.length % 2 != 0 then .error .oddLength
      else match Bytes.ofHexChars ds with
        | some bs => .ok bs
        | none => .error .malformed

/-- A quantity of at most `bits` bits, read as the type named `type`. -/
def quantity (type : String) (bits : Nat) : Json → Except Fault Nat
  | .str s =>
    match quantityText bits s with
    | .ok n => .ok n
    | .error e => .error (.mismatch e.message type none false)
  | _ => .error (.mismatch "non-string" type none false)

def word64 : Json → Except Fault Nat := quantity "hexutil.Uint64" 64

def word : Json → Except Fault Nat := quantity "hexutil.Uint" 64

def big : Json → Except Fault Nat := quantity "*hexutil.Big" 256

/-- A byte string. -/
def data : Json → Except Fault Bytes
  | .str s =>
    match dataText s with
    | .ok bs => .ok bs
    | .error e => .error (.mismatch e.message "hexutil.Bytes" none false)
  | _ => .error (.mismatch "non-string" "hexutil.Bytes" none false)

def lengthFault (digits width : Nat) (type : String) : String :=
  "hex string has length " ++ toString digits ++ ", want " ++ toString (2 * width) ++ " for " ++ type

/-- The digits of fixed-size text: `0x` is required, the length is checked before the digits. -/
def fixedText (width : Nat) (type : String) (s : String) : Except (Sum HexFault String) Bytes :=
  let digits := match s.toList with
    | [] => some []
    | '0' :: x :: rest => if x == 'x' || x == 'X' then some rest else none
    | _ => none
  match digits with
  | none => .error (.inl .missingPrefix)
  | some ds =>
    if ds.length % 2 != 0 then .error (.inl .oddLength)
    else if ds.length / 2 != width then .error (.inr (lengthFault ds.length width type))
    else match Bytes.ofHexChars ds with
      | some bs => .ok bs
      | none => .error (.inl .malformed)

/-- A value of `width` bytes, read as the type named `type`. -/
def fixed (width : Nat) (type : String) : Json → Except Fault Bytes
  | .str s =>
    match fixedText width type s with
    | .ok bs => .ok bs
    | .error (.inl e) => .error (.mismatch e.message type none false)
    | .error (.inr m) => .error (.other m)
  | _ => .error (.mismatch "non-string" type none false)

/-- A value of `width` bytes read from its text, whose faults are reported bare. -/
def fixedFromText (width : Nat) (name type : String) : Json → Except Fault Bytes
  | .str s =>
    match fixedText width name s with
    | .ok bs => .ok bs
    | .error (.inl e) => .error (.other e.message)
    | .error (.inr m) => .error (.other m)
  | j => .error (kindFault j type)

def hash (j : Json) : Except Fault Hash := Hash.ofBytes <$> fixed 32 "common.Hash" j

def address (j : Json) : Except Fault Address := Address.ofBytes <$> fixed 20 "common.Address" j

def bool : Json → Except Fault Bool
  | .bool b => .ok b
  | j => .error (kindFault j "bool")

/-- A list read item by item; the list as a whole must be an array. -/
def list {α : Type} (type : String) (item : Json → Except Fault α) : Json → Except Fault (List α)
  | .arr xs =>
    let rec go : List Json → Option Fault → List α → Except Fault (List α)
      | [], none, acc => .ok acc.reverse
      | [], some f, _ => .error f
      | x :: rest, soft, acc =>
        match item x with
        | .ok a => go rest soft (a :: acc)
        | .error f => if f.isSoft then go rest (soft.orElse fun _ => some f) acc else .error f
    go xs none []
  | j => .error (kindFault j type)

/-- Reads an object into a record: `field key` gives the reader of the field a member's name matches
(with the field's name) or nothing; `null` members leave their field alone. -/
def record {σ : Type} (name type : String) (init : σ)
    (field : String → Option (String × (σ → Json → Except Fault σ))) : Json → Except Fault σ
  | .null => .ok init
  | .obj ms =>
    let rec go : List (String × Json) → σ → Option Fault → Except Fault σ
      | [], s, none => .ok s
      | [], _, some f => .error f
      | (k, v) :: rest, s, soft =>
        match field k with
        | none => go rest s soft
        | some (fieldName, set) =>
          if v matches .null then go rest s soft
          else match set s v with
            | .ok s' => go rest s' soft
            | .error f =>
              let f := f.inField name fieldName
              if f.isSoft then go rest s (soft.orElse fun _ => some f) else .error f
    go ms init none
  | j => .error (kindFault j type)

def missing (field record : String) : Fault :=
  .other ("missing required field '" ++ field ++ "' for " ++ record)

def require {α : Type} (field record : String) : Option α → Except Fault α
  | some a => .ok a
  | none => .error (missing field record)

def matchName (names : List String) (key : String) : Option String :=
  match names.find? (· == key) with
  | some n => some n
  | none => names.find? (Json.nameMatches key ·)

def quantityJson (n : Nat) : Json :=
  .str ("0x" ++ String.ofList (Nat.toDigits 16 n))

def dataJson (bs : Bytes) : Json := .str (Bytes.toHex0x bs)

def hashJson (h : Hash) : Json := .str h.hex

def addressJson (a : Address) : Json := .str ("0x" ++ a.lowerHex)

end FlashArb.Wire
