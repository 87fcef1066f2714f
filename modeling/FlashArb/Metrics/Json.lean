import FlashArb.Metrics.Endpoint
import FlashArb.Json.Fields

/-!
JSON forms for the monitoring collectors: updates named by `op` with their arguments, and
endpoint requests and responses.
-/
namespace FlashArb.Metrics

/-- Reads one collector update. -/
def updateOfJson (j : Json) : Decode (Collectors → Collectors) := do
  match ← Field.string j "op" with
  | "quote" =>
    let kind ← Field.dexKind j "kind"
    let ns ← Field.int j "elapsed_ns"
    let failed := (← Field.optString j "error").isSome
    return fun c => c.observeQuote kind ns failed
  | "sample" => let r ← Field.string j "result"; return (·.observeSample r)
  | "candidates" => let n ← Field.int j "n"; return (·.observeCandidates n.toNat)
  | "evaluation" => return (·.observeEvaluation)
  | "submission" => let o ← Field.string j "outcome"; return (·.observeSubmission o)
  | "event" => let k ← Field.string j "kind"; return (·.observeEvent k)
  | "best_profit" => let v ← Field.float j "value"; return (·.setBestProfit v)
  | "cached_pools" => let n ← Field.int j "n"; return (·.setCachedPools n)
  | other => throw ("unknown metrics op " ++ other)

def Request.ofJson (j : Json) : Decode Request := do
  return ⟨← Field.string j "path", ← Field.string j "accept"⟩

def Response.toJson (r : Response) : Json :=
  .obj [("status", Json.ofNat r.status), ("content_type", .str r.contentType), ("body", .str r.body)]

end FlashArb.Metrics
