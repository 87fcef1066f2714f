import FlashArb.Instances

/-! JSON documents as written: members in source order and numbers kept as their literal text. -/
namespace FlashArb

/-- A JSON value. -/
inductive Json where
  | null
  | bool (b : Bool)
  | num (text : String)
  | str (s : String)
  | arr (items : List Json)
  | obj (members : List (String × Json))
deriving Inhabited

namespace Json

def get? : Json → String → Option Json
  | .obj ms, k => (ms.reverse.find? (·.1 == k)).map (·.2)
  | _, _ => none

def field (j : Json) (k : String) : Json := (j.get? k).getD .null

def has (j : Json) (k : String) : Bool := (j.get? k).isSome

def isNull : Json → Bool
  | .null => true
  | _ => false

def toOption : Json → Option Json
  | .null => none
  | j => some j

def getStr? : Json → Option String
  | .str s => some s
  | _ => none

def getBool? : Json → Option Bool
  | .bool b => some b
  | _ => none

def getArr? : Json → Option (List Json)
  | .arr xs => some xs
  | _ => none

def getObj? : Json → Option (List (String × Json))
  | .obj ms => some ms
  | _ => none

def members : Json → List (String × Json)
  | .obj ms => ms
  | _ => []

def items : Json → List Json
  | .arr xs => xs
  | _ => []

def ofNat (n : Nat) : Json := .num (toString n)

def ofInt (n : Int) : Json := .num (toString n)

def opt {α : Type} (f : α → Json) : Option α → Json
  | some a => f a
  | none => .null

def mk (ms : List (String × Json)) : Json := .obj ms

def push : Json → String → Json → Json
  | .obj ms, k, v => .obj (ms ++ [(k, v)])
  | j, _, _ => j

def merge : Json → Json → Json
  | .obj ms, .obj ns => .obj (ms ++ ns)
  | j, _ => j

mutual

/-- The document with every string value rewritten by `f`; member names stay. -/
def mapText (f : String → String) : Json → Json
  | .str s => .str (f s)
  | .arr xs => .arr (mapTextItems f xs)
  | .obj ms => .obj (mapTextMembers f ms)
  | j => j

def mapTextItems (f : String → String) : List Json → List Json
  | [] => []
  | x :: xs => mapText f x :: mapTextItems f xs

def mapTextMembers (f : String → String) : List (String × Json) → List (String × Json)
  | [] => []
  | (k, v) :: ms => (k, mapText f v) :: mapTextMembers f ms

end

mutual

def mapMembers (f : String → Json → Json) : Json → Json
  | .arr xs => .arr (mapMembersItems f xs)
  | .obj ms => .obj (mapMembersOf f ms)
  | j => j

def mapMembersItems (f : String → Json → Json) : List Json → List Json
  | [] => []
  | x :: xs => mapMembers f x :: mapMembersItems f xs

def mapMembersOf (f : String → Json → Json) : List (String × Json) → List (String × Json)
  | [] => []
  | (k, v) :: ms => (k, f k (mapMembers f v)) :: mapMembersOf f ms

end

mutual

def sortKeys : Json → Json
  | .arr xs => .arr (sortKeysItems xs)
  | .obj ms => .obj ((sortKeysMembers ms).mergeSort fun a b => decide (a.1 ≤ b.1))
  | j => j

def sortKeysItems : List Json → List Json
  | [] => []
  | x :: xs => sortKeys x :: sortKeysItems xs

def sortKeysMembers : List (String × Json) → List (String × Json)
  | [] => []
  | (k, v) :: ms => (k, sortKeys v) :: sortKeysMembers ms

end

end Json

end FlashArb
