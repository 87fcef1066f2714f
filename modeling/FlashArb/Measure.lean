import FlashArb.Pool.Kind

/-! What the components report for monitoring. -/
namespace FlashArb

/-- How one loan-size sample turned out. -/
inductive SampleOutcome where
  | profitable
  | unprofitable
  | failed
deriving DecidableEq, Inhabited

def SampleOutcome.name : SampleOutcome → String
  | .profitable => "profitable"
  | .unprofitable => "unprofitable"
  | .failed => "failed"

/-- One measurement. -/
inductive Measure where
  /-- A swap quote on a pool of `kind`, taking `elapsedNs`, that failed or not. -/
  | quote (kind : DexKind) (elapsedNs : Int) (failed : Bool)
  | sample (outcome : SampleOutcome)
  | candidates (n : Nat)
  | evaluation
  | submission (outcome : String)
  | event (kind : String)
  | bestProfit (value : Float)
  | cachedPools (n : Int)

/-- A place where computations report measurements. -/
class Recorder (m : Type → Type) where
  record : Measure → m Unit

instance : Recorder Id := ⟨fun _ => ()⟩

instance {σ : Type} {m : Type → Type} [Monad m] [Recorder m] : Recorder (StateT σ m) :=
  ⟨fun x => StateT.lift (Recorder.record x)⟩

end FlashArb
