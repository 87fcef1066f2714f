import FlashArb.Instances

/-! Whether one text occurs inside another, by comparing it with a prefix of every suffix. -/
namespace FlashArb.Text

def occursIn (pattern : List Char) : List Char → Bool
  | [] => pattern.isEmpty
  | c :: cs => pattern.isPrefixOf (c :: cs) || occursIn pattern cs

def containsText (s pattern : String) : Bool := occursIn pattern.toList s.toList

end FlashArb.Text
