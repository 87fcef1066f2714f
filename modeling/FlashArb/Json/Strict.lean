import FlashArb.Json.Scan
import FlashArb.Json.Reader

/-! Reading JSON text strictly: checked whole first, then read into a value. -/
namespace FlashArb.Json

/-- The value of a JSON text, or the message of the first fault in it. -/
def parseStrict (s : String) : Except String Json := do
  Scan.check s.toUTF8.toList
  match parse s with
  | .ok v => return v
  | .error e => throw e.message

end FlashArb.Json
