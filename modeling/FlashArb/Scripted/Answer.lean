import FlashArb.Json.Fields

/-! Scripted answers of a service to a request. -/
namespace FlashArb.Scripted

/-- The answer scripted in `j`. -/
def valueAnswer (j : Json) : Decode (Outcome Int) := do
  match j with
  | .null => return .error (Failure.plain "unavailable")
  | _ =>
    match ← Field.optString j "error" with
    | some msg => return .error (Failure.plain msg)
    | none => return .ok (← Field.int j "value")

def wordAnswer (j : Json) : Decode (Outcome Nat) := do
  match ← valueAnswer j with
  | .error f => return .error f
  | .ok v => if 0 ≤ v && v < 2 ^ 64 then return .ok v.toNat else throw "value out of range"

end FlashArb.Scripted
