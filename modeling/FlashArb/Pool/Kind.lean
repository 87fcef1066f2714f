import FlashArb.Text.Quoted
import FlashArb.Failure

/-! Kinds of pools by how they price. -/
namespace FlashArb

/-- How a pool prices its pair. -/
inductive DexKind where
  | unknown
  | concentrated
  | volatile
  | stable
deriving DecidableEq, Inhabited

namespace DexKind

/-- The kind of a numeric code: 1, 2 and 3 name the known kinds, every other code is unknown. -/
def ofCode (n : Nat) : DexKind :=
  match n with
  | 1 => .concentrated
  | 2 => .volatile
  | 3 => .stable
  | _ => .unknown

def code : DexKind → Nat
  | .unknown => 0
  | .concentrated => 1
  | .volatile => 2
  | .stable => 3

/-- The canonical name. -/
def name : DexKind → String
  | .unknown => "unknown"
  | .concentrated => "univ3"
  | .volatile => "volatile"
  | .stable => "stable"

instance : ToString DexKind := ⟨name⟩

def isConstantProduct : DexKind → Bool
  | .volatile | .stable => true
  | _ => false

/-- The kind named by a normalised alias. -/
def ofAlias? : String → Option DexKind
  | "univ3" | "uniswapv3" | "v3" | "cl" => some .concentrated
  | "velo" | "velodrome" | "aero" | "aerodrome" | "volatile" | "cp" => some .volatile
  | "stable" => some .stable
  | _ => none

def parse (name : String) : Outcome DexKind :=
  match ofAlias? (Text.toLower (Text.trimSpace name)) with
  | some k => .ok k
  | none => .error (.plain ("unknown dex kind: " ++ Text.quote name))

end DexKind

end FlashArb
