import FlashArb.Chain.CallMsg
import FlashArb.Abi.Decode

/-! A view method is called by encoding its arguments after its selector, running the call and
decoding the outputs. -/
namespace FlashArb

/-- A contract method: its name, argument types and output types. -/
structure Method where
  name : String
  inputs : List Abi.Ty := []
  outputs : List Abi.Ty

namespace Method

def signature (m : Method) : String := m.name ++ "(" ++ Abi.tupleNames m.inputs ++ ")"

def callData (m : Method) (args : List Abi.Value) : Bytes := Abi.callData m.signature args

end Method

/-- The outputs of a method read off the chain's answer to its call. -/
def Method.readOutputs (method : Method) : Outcome Bytes → Outcome (List Abi.Value)
  | .error f => .error (f.wrap ("call " ++ method.name))
  | .ok resp =>
    if resp.isEmpty && !method.outputs.isEmpty then
      .error ⟨"call " ++ method.name ++ ": empty return data", [.emptyReturn]⟩
    else
      match Abi.decodeOutputs method.outputs resp with
      | .error e => .error (Failure.plain ("unpack " ++ method.name ++ ": " ++ e))
      | .ok [] => .error (Failure.plain ("unpack " ++ method.name ++ ": no values"))
      | .ok vs => .ok vs

/-- The outputs of a view call to `target` at `block`, the latest when none. -/
def callMethod {m : Type → Type} [Monad m] (reader : Option (ChainReader m)) (target : Address)
    (method : Method) (block : Option Nat) (args : List Abi.Value) : m (Outcome (List Abi.Value)) := do
  match reader with
  | none => return .error (Failure.plain "chain caller is nil")
  | some r => method.readOutputs <$> r.call { target := some target, data := method.callData args } block

end FlashArb
