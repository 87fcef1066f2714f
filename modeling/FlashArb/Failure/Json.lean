import FlashArb.Failure
import FlashArb.Json.Value

/-!
The JSON form of a failure: the label of its first listed mark (or `error`), the labels of
all listed marks, and the message.
-/
namespace FlashArb

def Mark.label : Mark → String
  | .timeout => "timeout"
  | .allRoutesFailed => "all_routes_failed"
  | .quote => "quote"
  | .conversion => "conversion"
  | .zeroReserve => "zero_reserve"
  | .poolNotFound => "pool_not_found"
  | .unsupportedDex => "unsupported_dex"
  | .pairMismatch => "pair_mismatch"
  | .insufficientLiquidity => "insufficient_liquidity"
  | .invalidConfig => "invalid_config"
  | .deadlineExceeded => "deadline_exceeded"
  | .emptyReturn => "empty_return"
  | .notFound => "not_found"

def Failure.toJson (f : Failure) : Json :=
  let ls := f.markList.map Mark.label
  .obj [("error", .str (ls.headD "error")), ("is", .arr (ls.map .str)), ("message", .str f.message)]

def Outcome.toJson {α : Type} (k : String) (enc : α → Json) : Outcome α → Json
  | .ok a => .obj [(k, enc a)]
  | .error f => f.toJson

end FlashArb
