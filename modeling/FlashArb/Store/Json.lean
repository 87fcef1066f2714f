import FlashArb.Store.Record
import FlashArb.Json.Writer
import FlashArb.Json.Fields

/-! The JSON text of stored records. -/
namespace FlashArb

def floatMember (x : Float) : Except String Json :=
  match Binary64.formatDocument? x with
  | some t => .ok (.num t)
  | none => .error ("json: unsupported value: " ++ Binary64.format x)

namespace Opportunity

def toJson (o : Opportunity) : Except String Json := do
  return .obj [("id", .str o.id), ("detected_at", .str o.detectedAt), ("block", Json.ofNat o.block),
    ("buy_pool", .str o.buyPool), ("sell_pool", .str o.sellPool), ("buy_kind", .str o.buyKind),
    ("sell_kind", .str o.sellKind), ("buy_price", ← floatMember o.buyPrice),
    ("sell_price", ← floatMember o.sellPrice), ("loan_amount", .str o.loanAmount),
    ("loan_human", .str o.loanHuman), ("net_profit", .str o.netProfit),
    ("gas_price", .str o.gasPrice), ("dry_run", .bool o.dryRun)]

def ofJson (j : Json) : Decode Opportunity := do
  return { id := ← Field.string j "id", detectedAt := ← Field.string j "detected_at",
           block := ← Field.u64 j "block", buyPool := ← Field.string j "buy_pool",
           sellPool := ← Field.string j "sell_pool", buyKind := ← Field.string j "buy_kind",
           sellKind := ← Field.string j "sell_kind", buyPrice := ← Field.float j "buy_price",
           sellPrice := ← Field.float j "sell_price", loanAmount := ← Field.string j "loan_amount",
           loanHuman := ← Field.string j "loan_human", netProfit := ← Field.string j "net_profit",
           gasPrice := ← Field.string j "gas_price", dryRun := ← Field.bool j "dry_run" }

end Opportunity

namespace SubmissionRecord

def toJson (s : SubmissionRecord) : Json :=
  let omitEmpty (k v : String) : List (String × Json) := if v.isEmpty then [] else [(k, .str v)]
  let omitZero (k : String) (n : Nat) : List (String × Json) := if n == 0 then [] else [(k, Json.ofNat n)]
  .obj ([("opportunity_id", .str s.opportunityId)] ++ omitEmpty "tx_hash" s.txHash ++
    [("nonce", Json.ofNat s.nonce), ("outcome", .str s.outcome)] ++ omitEmpty "via" s.via ++
    omitZero "block" s.block ++ omitZero "gas_used" s.gasUsed ++
    [("states", Json.opt (fun xs => .arr (xs.map .str)) s.states)] ++ omitEmpty "error" s.error ++
    [("submitted_at", .str s.submittedAt), ("finished_at", .str s.finishedAt)])

def ofJson (j : Json) : Decode SubmissionRecord := do
  -- an empty list is read as no list at all
  let states ← match j.field "states" with
    | .arr [] => pure none
    | .null => pure none
    | v => some <$> v.items.mapM fun x => match x with
      | .str s => pure s
      | _ => throw "field states holds a non-string"
  return { opportunityId := ← Field.string j "opportunity_id", txHash := ← Field.string j "tx_hash",
           nonce := ← Field.u64 j "nonce", outcome := ← Field.string j "outcome",
           via := ← Field.string j "via", block := ← Field.u64 j "block",
           gasUsed := ← Field.u64 j "gas_used", states, error := ← Field.string j "error",
           submittedAt := ← Field.string j "submitted_at", finishedAt := ← Field.string j "finished_at" }

end SubmissionRecord

def envelope (kind : String) (record : Json) : String :=
  Json.render (.obj [("kind", .str kind), ("record", record)])

end FlashArb
