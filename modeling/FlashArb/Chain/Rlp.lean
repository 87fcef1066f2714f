import FlashArb.Bytes

/-! The serialisation of nested byte strings used by transactions. -/
namespace FlashArb

/-- Byte strings and lists of items. -/
inductive Rlp where
  | str (bs : Bytes)
  | list (items : List Rlp)

namespace Rlp

def natBytes (v : Nat) : Bytes := Bytes.ofNat ((v.log2 + 8) / 8) v |>.dropWhile (· == 0)

def num (v : Nat) : Rlp := .str (natBytes v)

/-- The prefix of a payload of `len` bytes; `base` is `0x80` for strings, `0xc0` for lists. -/
def header (base : Nat) (len : Nat) : Bytes :=
  if len ≤ 55 then [UInt8.ofNat (base + len)]
  else
    let lb := natBytes len
    UInt8.ofNat (base + 55 + lb.length) :: lb

mutual

/-- The serialisation of an item. -/
def encode : Rlp → Bytes
  | .str [b] => if b.toNat < 0x80 then [b] else header 0x80 1 ++ [b]
  | .str bs => header 0x80 bs.length ++ bs
  | .list items =>
    let payload := encodeAll items
    header 0xc0 payload.length ++ payload

def encodeAll : List Rlp → Bytes
  | [] => []
  | i :: is => encode i ++ encodeAll is

end

end Rlp

end FlashArb
