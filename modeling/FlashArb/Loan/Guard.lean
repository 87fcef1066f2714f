import FlashArb.Instances

/-! The executor contract reverts unless the trade realises at least a guard amount. -/
namespace FlashArb

/-- The least profit the executor must realise for a route simulated at `profit`. -/
def minProfitGuard (profit : Option Int) (bps : Nat) (absWei : Option Int) : Int :=
  match profit with
  | none => 1
  | some p =>
    if p ≤ 0 then 1
    else
      let share := (p * bps).tdiv 10000
      let buffer := match absWei with
        | some a => if a > share then a else share
        | none => share
      let buffer := if buffer > p - 1 then p - 1 else buffer
      let guard := p - buffer
      if guard ≤ 0 then 1 else guard

end FlashArb
