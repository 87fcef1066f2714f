import FlashArb.Failure

/-! Inclusive ranges of 64-bit block numbers and their split into batches. -/
namespace FlashArb

/-- The blocks from `first` to `last`, both included. -/
structure BlockRange where
  first : UInt64
  last : UInt64
deriving DecidableEq, Inhabited

def BlockRange.len (r : BlockRange) : UInt64 := r.last - r.first + 1

/-- Batches from `start` to `last`, at most `count` of them. -/
def batches (start last size : UInt64) : Nat → List BlockRange
  | 0 => []
  | count + 1 =>
    let stop := if last - start ≥ size then start + size - 1 else last
    ⟨start, stop⟩ :: (if stop == last then [] else batches (stop + 1) last size count)

def splitRange (first last size : UInt64) : Outcome (List BlockRange) :=
  if size == 0 then .error (Failure.plain "batch size must be greater than zero")
  else if last < first then .error (Failure.plain "to block must be >= from block")
  else .ok (batches first last size (((last - first) / size).toNat + 1))

end FlashArb
