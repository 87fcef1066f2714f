import FlashArb.Crypto.Keccak

/-! Account addresses: 160-bit numbers, read from hex and written with the mixed-case checksum. -/
namespace FlashArb

/-- A 20-byte account address. -/
structure Address where
  toNat : Nat
  isLt : toNat < 2 ^ 160
deriving DecidableEq

namespace Address

def ofNat (n : Nat) : Address := ⟨n % 2 ^ 160, Nat.mod_lt _ (Nat.two_pow_pos 160)⟩

def zero : Address := ofNat 0

instance : Inhabited Address := ⟨zero⟩

instance : Ord Address := ⟨fun a b => compare a.toNat b.toNat⟩

instance : LT Address := ⟨fun a b => a.toNat < b.toNat⟩

instance (a b : Address) : Decidable (a < b) := inferInstanceAs (Decidable (a.toNat < b.toNat))

def bytes (a : Address) : Bytes := Bytes.ofNat 20 a.toNat

def ofBytes (bs : Bytes) : Address := ofNat (Bytes.toNat (Bytes.padLeft 20 bs))

def lowerHex (a : Address) : String := Bytes.toHex a.bytes

/-- The checksummed text with `0x`. -/
def checksum (a : Address) : String :=
  let low := a.lowerHex.toList
  let digest := Keccak.hash (low.map fun c => UInt8.ofNat c.toNat)
  let nibble (i : Nat) : Nat :=
    let b := (digest.getD (i / 2) 0).toNat
    if i % 2 == 0 then b / 16 else b % 16
  let chars := (List.range 40).zip low |>.map fun (i, c) =>
    if 'a' ≤ c && c ≤ 'f' && nibble i ≥ 8 then c.toUpper else c
  "0x" ++ String.ofList chars

instance : ToString Address := ⟨checksum⟩

def isHex (s : String) : Bool :=
  let cs := Bytes.dropHexPrefix s
  cs.length == 40 && cs.all fun c => (Bytes.hexValue? c).isSome

def ofHex? (s : String) : Option Address :=
  if isHex s then (Bytes.ofHex? s).map ofBytes else none

end Address

/-- A 32-byte hash or log topic. -/
structure Hash where
  toNat : Nat
  isLt : toNat < 2 ^ 256
deriving DecidableEq

namespace Hash

def ofNat (n : Nat) : Hash := ⟨n % 2 ^ 256, Nat.mod_lt _ (Nat.two_pow_pos 256)⟩

def zero : Hash := ofNat 0

instance : Inhabited Hash := ⟨zero⟩

def bytes (h : Hash) : Bytes := Bytes.ofNat 32 h.toNat

def ofBytes (bs : Bytes) : Hash := ofNat (Bytes.toNat (Bytes.padLeft 32 bs))

def hex (h : Hash) : String := Bytes.toHex0x h.bytes

instance : ToString Hash := ⟨hex⟩

def keccak (bs : Bytes) : Hash := ofBytes (Keccak.hash bs)

end Hash

end FlashArb
