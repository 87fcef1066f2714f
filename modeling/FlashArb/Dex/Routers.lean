import FlashArb.Chain.Address

/-! The router of a constant-product pool, chosen by its factory. -/
namespace FlashArb

/-- The router of each listed factory and a default router. -/
structure RouterTable where
  defaultRouter : Address := Address.zero
  routers : List (Address × Address) := []

def RouterTable.routerFor (t : RouterTable) (factory : Address) : Address :=
  (t.routers.lookup factory).getD t.defaultRouter

end FlashArb
