import FlashArb.Chain.AddressMap
import FlashArb.Pool.Kind
import FlashArb.Text.Printable

/-! Addresses and address maps read from configuration text. -/
namespace FlashArb

/-- The address written in `input`, white space around it ignored. -/
def parseAddress (input : String) : Outcome Address :=
  let s := Text.trimSpace input
  match Address.ofHex? s with
  | some a => .ok a
  | none => .error (Failure.plain ("invalid address: " ++ s))

def parseAddresses (inputs : List String) : Outcome (List Address) :=
  (inputs.filter fun s => !(Text.trimSpace s).isEmpty).mapM parseAddress

/-- The configured pools with their kinds. -/
def parsePools (inputs : List (String × String)) : Outcome (AddressMap DexKind) :=
  inputs.foldlM (fun m (rawAddr, rawKind) => do
    let a ← match parseAddress rawAddr with
      | .ok a => pure a
      | .error f => throw (f.wrap "pool")
    let k ← match DexKind.parse rawKind with
      | .ok k => pure k
      | .error f => throw (f.wrap ("pool " ++ a.checksum))
    return m.insert a k) AddressMap.empty

/-- The configured router of each factory. -/
def parseRouters (inputs : List (String × String)) : Outcome (AddressMap Address) :=
  inputs.foldlM (fun m (rawFactory, rawRouter) => do
    let f ← match parseAddress rawFactory with
      | .ok a => pure a
      | .error e => throw (e.wrap "routers key")
    let r ← match parseAddress rawRouter with
      | .ok a => pure a
      | .error e => throw (e.wrap "routers value")
    return m.insert f r) AddressMap.empty

end FlashArb
