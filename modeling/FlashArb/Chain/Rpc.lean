import FlashArb.Json.Value
import FlashArb.Failure

/-! Talking to a node: requests, answers and subscriptions. -/
namespace FlashArb.Rpc

/-- Why a request did not give a result. -/
inductive Failure where
  /-- The node answered with an error. -/
  | answered (code : Int) (message : String) (data : Option Json)
  /-- The request did not reach the node or no answer came back. -/
  | unreachable (message : String)
deriving Inhabited

def Failure.message : Failure → String
  | .answered code m _ => if m.isEmpty then "json-rpc error " ++ toString code else m
  | .unreachable m => m

def Failure.toFailure (f : Failure) : FlashArb.Failure := .plain f.message

/-- A connection to a node. -/
structure Transport (m : Type → Type) where
  /-- Sends a request and returns the result. -/
  request : String → List Json → m (Except Failure Json)
  /-- Opens a subscription with the given parameters: the payloads the node pushes. -/
  subscribe : List Json → m (Except Failure (List Json))
  /-- Whether each exchange is a request of its own, without a lasting connection. -/
  perRequest : Bool := false

def notificationsUnsupported : Failure := .unreachable "notifications not supported"

def closedFailure : Failure := .unreachable "client is closed"

end FlashArb.Rpc
