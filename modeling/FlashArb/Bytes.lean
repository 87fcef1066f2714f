import FlashArb.Text.Quoted

/-!
Byte strings: big-endian numbers of a fixed width and lower-case hexadecimal text.
-/
namespace FlashArb

/-- A byte string. -/
abbrev Bytes := List UInt8

namespace Bytes

def toNat (bs : Bytes) : Nat := bs.foldl (fun n b => n * 256 + b.toNat) 0

def ofNat : Nat → Nat → Bytes
  | 0, _ => []
  | w + 1, n => ofNat w (n / 256) ++ [UInt8.ofNat (n % 256)]

def ofNatMinimal (n : Nat) : Bytes := (ofNat ((n.log2 + 8) / 8) n).dropWhile (· == 0)

def toHex (bs : Bytes) : String :=
  String.ofList (bs.flatMap fun b => Text.hexFixed 2 b.toNat)

def toHex0x (bs : Bytes) : String := "0x" ++ toHex bs

/-- The value of a hexadecimal digit. -/
def hexValue? (c : Char) : Option Nat :=
  if c.isDigit then some (c.toNat - 48)
  else if 'a' ≤ c && c ≤ 'f' then some (c.toNat - 87)
  else if 'A' ≤ c && c ≤ 'F' then some (c.toNat - 55)
  else none

/-- Pairs of hexadecimal digits as bytes; `none` on an odd count or a non-digit. -/
def ofHexChars : List Char → Option Bytes
  | [] => some []
  | [_] => none
  | a :: b :: rest =>
    match hexValue? a, hexValue? b, ofHexChars rest with
    | some x, some y, some r => some (UInt8.ofNat (16 * x + y) :: r)
    | _, _, _ => none

def dropHexPrefix (s : String) : List Char :=
  match s.toList with
  | '0' :: x :: rest => if x == 'x' || x == 'X' then rest else s.toList
  | cs => cs

def ofHex? (s : String) : Option Bytes := ofHexChars (dropHexPrefix s)

def slice (bs : Bytes) (i n : Nat) : Bytes := (bs.drop i).take n

def padLeft (width : Nat) (bs : Bytes) : Bytes :=
  if bs.length ≥ width then bs.drop (bs.length - width)
  else List.replicate (width - bs.length) 0 ++ bs

end Bytes

end FlashArb
