import Mathlib
import FlashArb.Dex.Quoter
import FlashArb.Loan.Call

/-! The router a route is quoted through, leg by leg, and the single router its flash-loan call
names. -/
namespace FlashArb

namespace Quoter

variable {m : Type → Type} [Monad m] [LawfulMonad m]

theorem quote_constantProduct (q : Quoter m) {reader : ChainReader m} (wired : q.reader = some reader)
    {leg : Leg} (product : leg.kind.isConstantProduct = true) {amount : Int} (positive : 0 < amount) :
    ∃ data read, q.quote leg (some amount) =
      read <$> reader.call { target := some (q.routers.routerFor leg.factory), data } none := by
  have notConcentrated : (leg.kind == .concentrated) = false := by
    cases h : leg.kind <;> simp_all [DexKind.isConstantProduct]
  refine ⟨getAmountsOut.callData (amountsOutArgs leg amount),
    fun answer => amountOut leg (getAmountsOut.readOutputs answer), ?_⟩
  simp [quote, Int.not_le.mpr positive, notConcentrated, product, quoteConstantProduct, callMethod,
    wired, Functor.map_map]

end Quoter

namespace Builder

theorem payload_router (b : Builder) (t : RouterTable) (wired : b.routers = some t) (r : Route)
    (minProfit : Option Int) (salt : Option Nat) :
    (b.payload r minProfit salt).router =
      if r.sellKind.isConstantProduct then t.routerFor r.sellFactory
      else if r.buyKind.isConstantProduct then t.routerFor r.buyFactory
      else t.routerFor Address.zero := by
  unfold payload routerOf
  rw [wired]
  rfl

end Builder

/-- Under one router table, a constant-product leg is quoted through its factory's router, the
payload names the first constant-product leg's router, and the second leg is executed through
that router. -/
theorem payload_router_serves_quoted_legs {m : Type → Type} [Monad m] [LawfulMonad m] (q : Quoter m)
    (b : Builder) (wired : b.routers = some q.routers) (r : Route) (minProfit : Option Int)
    (salt : Option Nat) :
    (∀ reader, q.reader = some reader → ∀ leg ∈ r.legs, leg.kind.isConstantProduct = true →
      ∀ amount, 0 < amount → ∃ data read, q.quote leg (some amount) =
        read <$> reader.call { target := some (q.routers.routerFor leg.factory), data } none) ∧
    (b.payload r minProfit salt).router =
      (if r.sellKind.isConstantProduct then q.routers.routerFor r.sellFactory
      else if r.buyKind.isConstantProduct then q.routers.routerFor r.buyFactory
      else q.routers.routerFor Address.zero) ∧
    (r.sellKind.isConstantProduct = true → r.buyKind.isConstantProduct = true →
      (b.payload r minProfit salt).router = q.routers.routerFor r.sellLeg.factory) ∧
    ((∀ leg ∈ r.legs, leg.kind.isConstantProduct = true →
        (b.payload r minProfit salt).router = q.routers.routerFor leg.factory) ↔
      (r.sellKind.isConstantProduct = true → r.buyKind.isConstantProduct = true →
        q.routers.routerFor r.sellFactory = q.routers.routerFor r.buyFactory)) := by
  have router := b.payload_router q.routers wired r minProfit salt
  refine ⟨fun reader linked leg _ product amount positive =>
    q.quote_constantProduct linked product positive, router, fun sell _ => ?_, ?_⟩
  · simp [router, sell, Route.sellLeg]
  rw [router]
  simp only [Route.legs, List.mem_cons, List.not_mem_nil, or_false, forall_eq_or_imp, forall_eq,
    Route.sellLeg, Route.buyLeg]
  cases hs : r.sellKind.isConstantProduct <;> cases hb : r.buyKind.isConstantProduct <;>
    simp [eq_comm]

/-- A bot's wiring: a quoter over a chain that answers nothing and a builder sharing its table,
for a route selling into a stable pool and buying back from a concentrated-liquidity one. -/
theorem quoted_legs_of_shared_table :
    let q : Quoter Id :=
      { reader := some { call := fun _ _ => .ok [], latestBlock := .ok 0 }, quoter := Address.zero,
        routers := { defaultRouter := Address.ofNat 9, routers := [(Address.ofNat 1, Address.ofNat 11)] } }
    let b : Builder := { vault := Address.zero, executor := Address.zero, routers := some q.routers }
    let r : Route :=
      { buyPool := Address.ofNat 3, sellPool := Address.ofNat 4, buyKind := .concentrated,
        sellKind := .stable, buyToken0IsLoan := true, sellToken0IsLoan := false,
        loanToken := Address.ofNat 5, quoteToken := Address.ofNat 6, sellFactory := Address.ofNat 1 }
    b.routers = some q.routers ∧
      (∀ reader, q.reader = some reader → ∀ leg ∈ r.legs, leg.kind.isConstantProduct = true →
        ∀ amount, 0 < amount → ∃ data read, q.quote leg (some amount) =
          read <$> reader.call { target := some (q.routers.routerFor leg.factory), data } none) ∧
      (b.payload r none none).router =
        (if r.sellKind.isConstantProduct then q.routers.routerFor r.sellFactory
        else if r.buyKind.isConstantProduct then q.routers.routerFor r.buyFactory
        else q.routers.routerFor Address.zero) ∧
      (r.sellKind.isConstantProduct = true → r.buyKind.isConstantProduct = true →
        (b.payload r none none).router = q.routers.routerFor r.sellLeg.factory) ∧
      ((∀ leg ∈ r.legs, leg.kind.isConstantProduct = true →
          (b.payload r none none).router = q.routers.routerFor leg.factory) ↔
        (r.sellKind.isConstantProduct = true → r.buyKind.isConstantProduct = true →
          q.routers.routerFor r.sellFactory = q.routers.routerFor r.buyFactory)) :=
  ⟨rfl, payload_router_serves_quoted_legs _ _ rfl _ none none⟩

/-- Two constant-product legs from factories with different routers: the payload names the first
leg's router, and the second leg is executed through a router that did not quote it. -/
theorem payload_router_misses_second_leg :
    let t : RouterTable :=
      { routers := [(Address.ofNat 1, Address.ofNat 11), (Address.ofNat 2, Address.ofNat 12)] }
    let b : Builder := { vault := Address.zero, executor := Address.zero, routers := some t }
    let r : Route :=
      { buyPool := Address.ofNat 3, sellPool := Address.ofNat 4, buyKind := .volatile,
        sellKind := .volatile, buyToken0IsLoan := true, sellToken0IsLoan := false,
        loanToken := Address.ofNat 5, quoteToken := Address.ofNat 6, buyFactory := Address.ofNat 2,
        sellFactory := Address.ofNat 1 }
    ¬ ∀ leg ∈ r.legs, leg.kind.isConstantProduct = true →
      (b.payload r none none).router = t.routerFor leg.factory := by
  intro t b r every
  have second := every r.buyLeg (by simp [Route.legs]) rfl
  revert second
  decide

end FlashArb
