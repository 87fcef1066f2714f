import FlashArb.Instances

/-!
Failures: a message that reads from the outermost context inwards, and the marks of the
kinds of failure it carries, which a caller can test for whatever the wording.
-/
namespace FlashArb

/-- The kinds of failure a caller can test for. -/
inductive Mark where
  | timeout
  | allRoutesFailed
  | quote
  | conversion
  | zeroReserve
  | poolNotFound
  | unsupportedDex
  | pairMismatch
  | insufficientLiquidity
  | invalidConfig
  | deadlineExceeded
  /-- A call returned no data where outputs were expected; never listed. -/
  | emptyReturn
  /-- A lookup found nothing yet; never listed. -/
  | notFound
deriving DecidableEq, Inhabited

/-- The position of a mark in the order in which marks are listed. -/
def Mark.rank : Mark → Nat
  | .timeout => 0
  | .allRoutesFailed => 1
  | .quote => 2
  | .conversion => 3
  | .zeroReserve => 4
  | .poolNotFound => 5
  | .unsupportedDex => 6
  | .pairMismatch => 7
  | .insufficientLiquidity => 8
  | .invalidConfig => 9
  | .deadlineExceeded => 10
  | .emptyReturn => 11
  | .notFound => 12

/-- A failure: its full message and the marks it carries. -/
structure Failure where
  message : String
  marks : List Mark := []
deriving Inhabited

namespace Failure

def plain (message : String) : Failure := ⟨message, []⟩

def marked (m : Mark) (message : String) : Failure := ⟨message, [m]⟩

def wrap (context : String) (f : Failure) : Failure :=
  ⟨context ++ ": " ++ f.message, f.marks⟩

def addMark (m : Mark) (f : Failure) : Failure := ⟨f.message, m :: f.marks⟩

def combine (fs : List Failure) : Failure :=
  ⟨"; ".intercalate (fs.map (·.message)), fs.flatMap (·.marks)⟩

def has (f : Failure) (m : Mark) : Bool := f.marks.contains m

def markList (f : Failure) : List Mark :=
  [Mark.timeout, .allRoutesFailed, .quote, .conversion, .zeroReserve, .poolNotFound,
    .unsupportedDex, .pairMismatch, .insufficientLiquidity, .invalidConfig,
    .deadlineExceeded].filter f.has

end Failure

/-- A computation that may fail. -/
abbrev Outcome (α : Type) := Except Failure α

end FlashArb
