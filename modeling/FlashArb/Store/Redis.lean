import FlashArb.Store.Json

/-! Records published to a Redis stream. -/
namespace FlashArb

/-- The commands the publisher sends. -/
structure RedisClient (m : Type → Type) where
  ping : m (Outcome Unit)
  /-- Appends an entry to a stream trimmed to about `maxLen` entries. -/
  xadd : String → Nat → List (String × String) → m (Outcome Unit)
  close : m (Outcome Unit)

/-- A publisher: a client and the stream it appends to. -/
structure Publisher (m : Type → Type) where
  client : RedisClient m
  stream : String

namespace Publisher

def maxLen : Nat := 10000

variable {m : Type → Type} [Monad m]

/-- Appends a record of `kind` for the opportunity `id`. -/
def publish (p : Publisher m) (kind id : String) (record : Except String Json) : m (Outcome Unit) := do
  match record with
  | .error e => return .error (Failure.plain ("marshal " ++ kind ++ ": " ++ e))
  | .ok r =>
    match ← p.client.xadd p.stream maxLen [("kind", kind), ("id", id), ("payload", Json.render r)] with
    | .error f => return .error (f.wrap ("xadd " ++ p.stream ++ " " ++ kind))
    | .ok () => return .ok ()

def storage (p : Publisher m) : Storage m :=
  { putOpportunity := fun o => p.publish "opportunity" o.id o.toJson
    putSubmission := fun s => p.publish "submission" s.opportunityId (.ok s.toJson)
    close := p.client.close }

end Publisher

end FlashArb
