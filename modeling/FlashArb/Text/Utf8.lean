import FlashArb.Text.Quoted
import FlashArb.Bytes

/-! Reading characters from bytes that may not be valid UTF-8. -/
namespace FlashArb.Text

def isCont (b : UInt8) : Bool := 0x80 ≤ b.toNat && b.toNat ≤ 0xBF

/-- The character at the front of the bytes and its width, or `none` when the first byte does
not start a valid sequence. -/
def decodeRune : Bytes → Option (Char × Nat)
  | [] => none
  | b0 :: rest =>
    let x := b0.toNat
    if x < 0x80 then some (Char.ofNat x, 1)
    else if 0xC2 ≤ x && x ≤ 0xDF then
      match rest with
      | b1 :: _ => if isCont b1 then some (Char.ofNat ((x % 32) * 64 + b1.toNat % 64), 2) else none
      | _ => none
    else if 0xE0 ≤ x && x ≤ 0xEF then
      match rest with
      | b1 :: b2 :: _ =>
        let lo := if x == 0xE0 then 0xA0 else 0x80
        let hi := if x == 0xED then 0x9F else 0xBF
        if lo ≤ b1.toNat && b1.toNat ≤ hi && isCont b2 then
          some (Char.ofNat ((x % 16) * 4096 + (b1.toNat % 64) * 64 + b2.toNat % 64), 3)
        else none
      | _ => none
    else if 0xF0 ≤ x && x ≤ 0xF4 then
      match rest with
      | b1 :: b2 :: b3 :: _ =>
        let lo := if x == 0xF0 then 0x90 else 0x80
        let hi := if x == 0xF4 then 0x8F else 0xBF
        if lo ≤ b1.toNat && b1.toNat ≤ hi && isCont b2 && isCont b3 then
          some (Char.ofNat ((x % 8) * 262144 + (b1.toNat % 64) * 4096 + (b2.toNat % 64) * 64
            + b3.toNat % 64), 4)
        else none
      | _ => none
    else none

/-- The bytes read as characters, an invalid byte standing for itself. -/
def runes (bs : Bytes) : List (Char ⊕ UInt8) :=
  go bs.length bs
where
  go : Nat → Bytes → List (Char ⊕ UInt8)
    | 0, _ => []
    | _, [] => []
    | fuel + 1, b :: rest =>
      match decodeRune (b :: rest) with
      | some (c, w) => .inl c :: go fuel ((b :: rest).drop w)
      | none => .inr b :: go fuel rest

def lossyString (bs : Bytes) : String :=
  String.ofList ((runes bs).map fun
    | .inl c => c
    | .inr _ => Char.ofNat 0xFFFD)

def quoteBytes (bs : Bytes) : String :=
  String.ofList ('"' :: (runes bs).flatMap (fun
    | .inl c => escapeChar '"' c
    | .inr b => ['\\', 'x'] ++ hexFixed 2 b.toNat) ++ ['"'])

end FlashArb.Text
