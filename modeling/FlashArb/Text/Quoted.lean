import FlashArb.Text.Printable

/-! Double-quoted string literals. -/
namespace FlashArb.Text

def hexDigit (n : Nat) : Char :=
  if n < 10 then Char.ofNat (48 + n) else Char.ofNat (87 + n)

def hexFixed : Nat → Nat → List Char
  | 0, _ => []
  | w + 1, n => hexFixed w (n / 16) ++ [hexDigit (n % 16)]

/-- How one character is written between quotes of kind `q`. -/
def escapeChar (q : Char) (c : Char) : List Char :=
  if c == q || c == '\\' then ['\\', c]
  else if isPrintable c then [c]
  else match c.toNat with
    | 0x07 => ['\\', 'a']
    | 0x08 => ['\\', 'b']
    | 0x0C => ['\\', 'f']
    | 0x0A => ['\\', 'n']
    | 0x0D => ['\\', 'r']
    | 0x09 => ['\\', 't']
    | 0x0B => ['\\', 'v']
    | n =>
      if n < 0x20 || n == 0x7F then ['\\', 'x'] ++ hexFixed 2 n
      else if n < 0x10000 then ['\\', 'u'] ++ hexFixed 4 n
      else ['\\', 'U'] ++ hexFixed 8 n

def quote (s : String) : String :=
  String.ofList ('"' :: (s.toList.flatMap (escapeChar '"')) ++ ['"'])

def quoteChar (c : Char) : String :=
  let a := Char.ofNat 39
  String.ofList (a :: escapeChar a c ++ [a])

end FlashArb.Text
