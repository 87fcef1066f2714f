import FlashArb.Chain.Address
import FlashArb.Crypto.Keccak

/-! Values of the contract ABI and the standard encoding of an argument list. -/
namespace FlashArb.Abi

/-- ABI types. -/
inductive Ty where
  | uint (bits : Nat)
  | int (bits : Nat)
  | address
  | bool
  | fixedBytes (size : Nat)
  | bytes
  | string
  | array (elem : Ty)
  | tuple (elems : List Ty)

/-- ABI values. A string is held as its bytes. -/
inductive Value where
  | uint (n : Nat)
  | int (i : Int)
  | address (a : Address)
  | bool (b : Bool)
  | fixedBytes (bs : Bytes)
  | bytes (bs : Bytes)
  | string (bs : Bytes)
  | array (items : List Value)
  | tuple (items : List Value)
deriving Inhabited

mutual

/-- The canonical name of a type, as written in signatures. -/
def Ty.name : Ty → String
  | .uint bits => "uint" ++ toString bits
  | .int bits => "int" ++ toString bits
  | .address => "address"
  | .bool => "bool"
  | .fixedBytes n => "bytes" ++ toString n
  | .bytes => "bytes"
  | .string => "string"
  | .array elem => elem.name ++ "[]"
  | .tuple ts => "(" ++ tupleNames ts ++ ")"

def tupleNames : List Ty → String
  | [] => ""
  | [t] => t.name
  | t :: ts => t.name ++ "," ++ tupleNames ts

end

mutual

def Ty.isDynamic : Ty → Bool
  | .bytes | .string | .array _ => true
  | .tuple ts => anyDynamic ts
  | _ => false

def anyDynamic : List Ty → Bool
  | [] => false
  | t :: ts => t.isDynamic || anyDynamic ts

end

mutual

def Ty.headSize : Ty → Nat
  | .tuple ts => if anyDynamic ts then 32 else sumHeads ts
  | _ => 32

def sumHeads : List Ty → Nat
  | [] => 0
  | t :: ts => t.headSize + sumHeads ts

end

def word (n : Nat) : Bytes := Bytes.ofNat 32 n

def intWord (i : Int) : Bytes := word (i % 2 ^ 256).toNat

def padRight (bs : Bytes) : Bytes := bs ++ List.replicate ((32 - bs.length % 32) % 32) 0

/-- The heads, then the tails, of a list of encoded items each tagged dynamic or not. -/
def assemble (parts : List (Bool × Bytes)) : Bytes :=
  let headSize := parts.foldl (fun acc (d, e) => acc + if d then 32 else e.length) 0
  let (heads, tails, _) := parts.foldl (fun (h, t, off) (d, e) =>
    if d then (h ++ word off, t ++ e, off + e.length) else (h ++ e, t, off)) ([], [], headSize)
  heads ++ tails

mutual

def Value.isDynamic : Value → Bool
  | .bytes _ | .string _ | .array _ => true
  | .tuple items => anyDynamicValue items
  | _ => false

def anyDynamicValue : List Value → Bool
  | [] => false
  | v :: vs => v.isDynamic || anyDynamicValue vs

end

mutual

/-- The encoding of one value. -/
def Value.encode : Value → Bytes
  | .uint n => word n
  | .int i => intWord i
  | .address a => word a.toNat
  | .bool b => word (if b then 1 else 0)
  | .fixedBytes bs => padRight (bs.take 32)
  | .bytes bs => word bs.length ++ padRight bs
  | .string bs => word bs.length ++ padRight bs
  | .array items => word items.length ++ assemble (encodeParts items)
  | .tuple items => assemble (encodeParts items)

def encodeParts : List Value → List (Bool × Bytes)
  | [] => []
  | v :: vs => (v.isDynamic, v.encode) :: encodeParts vs

end

def encodeArgs (args : List Value) : Bytes := assemble (encodeParts args)

def selector (signature : String) : Bytes :=
  (Keccak.hash (signature.toUTF8.toList)).take 4

def callData (signature : String) (args : List Value) : Bytes :=
  selector signature ++ encodeArgs args

end FlashArb.Abi
