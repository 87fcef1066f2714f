import FlashArb.Instances

/-! Answers replayed from a list, the last one repeated. -/
namespace FlashArb.Scripted

/-- A list of answers and how many have been given. -/
structure Replay (α : Type) where
  answers : List α := []
  given : Nat := 0

namespace Replay

variable {α : Type}

def next (r : Replay α) : Option α × Replay α :=
  match r.answers[r.given]? with
  | some a => (some a, { r with given := r.given + 1 })
  | none => (r.answers.getLast?, r)

end Replay

end FlashArb.Scripted
