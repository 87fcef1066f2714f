import FlashArb.Log

/-! Retrying a failing call with doubling waits. -/
namespace FlashArb

/-- How often and after what first wait a failing call is retried. -/
structure RetryPolicy where
  maxRetries : Int := 0
  backoffNs : Nat := 0
deriving Inhabited

namespace RetryPolicy

def firstDelay (p : RetryPolicy) : Nat := if p.backoffNs == 0 then 100000000 else p.backoffNs

variable {m : Type → Type} [Monad m] [LogSink m] {α : Type}

/-- Tries `attempt`, then again up to `left` times, numbering the retries from `n`. -/
def go (op : String) (attempt : m (Outcome α)) : Nat → Nat → Nat → m (Outcome α)
  | 0, _, _ => attempt
  | left + 1, n, delay => do
    match ← attempt with
    | .ok a => return .ok a
    | .error e =>
      Log.warn ("retrying " ++ op) [Log.nat "attempt" (n + 1), Log.duration "backoff" delay, Log.failure e]
      go op attempt left (n + 1) (2 * delay)

def run (p : RetryPolicy) (op : String) (attempt : m (Outcome α)) : m (Outcome α) :=
  go op attempt p.maxRetries.toNat 0 p.firstDelay

end RetryPolicy

end FlashArb
