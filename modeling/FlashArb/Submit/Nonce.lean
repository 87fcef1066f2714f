import FlashArb.Chain.Address
import FlashArb.Failure

/-! The nonces of one signing account. -/
namespace FlashArb

/-- The nonce state of one account: the last nonce handed out, if any. -/
structure NonceManager where
  account : Address
  last : Option Nat := none
deriving DecidableEq, Inhabited

namespace NonceManager

/-- The next nonce, seeding from `pending` when nothing was handed out. -/
def next {m : Type → Type} [Monad m] (mgr : NonceManager) (pending : Address → m (Outcome Nat)) :
    m (Outcome Nat × NonceManager) := do
  match mgr.last with
  | some l => return (.ok ((l + 1) % 2 ^ 64), { mgr with last := some ((l + 1) % 2 ^ 64) })
  | none =>
    match ← pending mgr.account with
    | .error e => return (.error (e.wrap ("seed nonce for " ++ mgr.account.checksum)), mgr)
    | .ok seed => return (.ok seed, { mgr with last := some seed })

/-- Gives back `nonce` if it is the last one handed out, telling whether it was. -/
def release (mgr : NonceManager) (nonce : Nat) : Bool × NonceManager :=
  match mgr.last with
  | some l =>
    if l != nonce then (false, mgr)
    else if nonce == 0 then (true, { mgr with last := none })
    else (true, { mgr with last := some (nonce - 1) })
  | none => (false, mgr)

def reset (mgr : NonceManager) : NonceManager := { mgr with last := none }

end NonceManager

end FlashArb
