import Mathlib
import FlashArb.Scripted.CommandLine
import FlashArb.Proofs.ReadOnlyCalls

/-! The recorded host transacts only when asked. -/
namespace FlashArb.Scripted

open Std.Do

set_option mvcgen.warning false

/-- No request the node of a world has received names a transacting method. -/
def World.Untransacted (w : World) : Prop :=
  ∀ r ∈ w.node.received, ∀ m ∈ transacting, r.field "method" ≠ .str m

namespace RpcNode

theorem answerCall_received (n : RpcNode) (params : List Json) :
    (n.answerCall params).2.received = n.received := by
  unfold answerCall
  dsimp only
  split
  · rfl
  · split <;> rfl

theorem serve_received (n : RpcNode) (method : String) (params : List Json) :
    (n.serve method params).2.received =
      .obj [("method", .str method), ("params", .arr params)] :: n.received := by
  unfold serve
  dsimp only
  split
  · rfl
  · split
    · exact answerCall_received _ params
    · split <;> rfl

theorem subscribe_received (n : RpcNode) (params : List Json) :
    (n.subscribe params).2.received =
      .obj [("method", .str "eth_subscribe"), ("params", .arr params)] :: n.received := by
  unfold subscribe
  dsimp only
  split
  · rfl
  · split
    · split <;>
      · rename_i taken
        exact (congrArg (fun p => p.2.received) taken).symm
    · rfl

end RpcNode

theorem request_method (method : String) (params : List Json) :
    (Json.obj [("method", .str method), ("params", .arr params)]).field "method" = .str method := by
  simp [Json.field, Json.get?]

namespace World

theorem untransacted_record {w : World} {n : RpcNode} {method : String} {params : List Json}
    (h : w.Untransacted) (allowed : method ∉ transacting)
    (recorded : n.received = .obj [("method", .str method), ("params", .arr params)] :: w.node.received) :
    Untransacted { w with node := n } := by
  intro r received m transacts
  rw [recorded] at received
  rcases List.mem_cons.mp received with rfl | earlier
  · rw [request_method]
    rintro ⟨⟩
    exact allowed transacts
  · exact h r earlier m transacts

end World

/-- The node's socket of the recorded host, kept in the world. -/
abbrev nodeTransport : Rpc.Transport ScriptM :=
  RpcNode.transport (do return (← get).node) fun n => modify fun w => { w with node := n }

theorem nodeTransport_honest : nodeTransport.Honest World.Untransacted where
  request method params allowed := by
    simp only [nodeTransport, RpcNode.transport]
    mvcgen
    rename_i q clean _
    exact World.untransacted_record clean allowed (RpcNode.serve_received _ method params)
  subscribe params := by
    simp only [nodeTransport, RpcNode.transport]
    mvcgen
    rename_i q clean _
    exact World.untransacted_record clean (by simp [transacting])
      (RpcNode.subscribe_received _ params)

section Host

variable (home : List String) (tree : FileTree)

theorem hostNetwork_honest : (hostServices home tree).network.Honest World.Untransacted where
  unix path := by
    simp only [hostServices, scriptedNetwork]
    split
    · mvcgen
      rename_i q clean
      exact ⟨clean, by rintro t ⟨⟩; exact nodeTransport_honest⟩
    · mvcgen
      rename_i q clean
      exact ⟨clean, by rintro _ ⟨⟩⟩
  tcp address := by
    simp only [hostServices, scriptedNetwork]
    mvcgen
    rename_i q clean
    exact ⟨clean, by rintro _ ⟨⟩⟩

theorem worldDisk_clean : worldDisk.Clean World.Untransacted := by
  constructor <;> intros <;> simp only [worldDisk, FileTree.disk] <;> mvcgen

theorem redisAt_clean (address : String) : (redisAt address).Clean World.Untransacted := by
  constructor <;> intros <;> simp only [redisAt] <;> mvcgen

theorem offlineDatabase_clean : (offlineDatabase (m := ScriptM)).Clean World.Untransacted := by
  constructor <;> intros <;> simp only [offlineDatabase] <;> mvcgen

end Host

theorem keepLevel_keeps (l : Level) : Keeps World.Untransacted (keepLevel l) := by
  unfold keepLevel
  mvcgen

theorem World.untransacted_of_node {w w' : World} (same : w'.node = w.node) :
    w'.Untransacted = w.Untransacted := by
  unfold World.Untransacted
  rw [same]

theorem world_quiet : Quiet World.Untransacted where
  emit e q := World.untransacted_of_node <| by
    show (if _ then _ else _ : World).node = _
    split <;> rfl
  record _ _ := rfl

end FlashArb.Scripted
