import Mathlib
import FlashArb.Route.Finder
import FlashArb.Loan.Call
import FlashArb.Proofs.StripedCache

/-! Which pairs of cached pools the finder offers as routes. -/
namespace FlashArb

namespace Target

variable {t : Target} {c : PoolCache} {s buy sell : PoolState} {x : Float} {r : Route}

/-- A cached pool prices the loan token at `x`: it holds the target pair, it has a snapshot,
and its directional price there is `x`. -/
def PricesAt (t : Target) (c : PoolCache) (s : PoolState) (x : Float) : Prop :=
  s.hasPair t.loanToken t.quoteToken = true ∧
    ∃ p, c.getSnapshot? s.address = some p ∧ t.directionalPrice s p = .ok x

/-- The price of the loan token in a cached pool, when the pool has one. -/
def priceOf? (t : Target) (c : PoolCache) (s : PoolState) : Option Float :=
  if s.hasPair t.loanToken t.quoteToken then
    (c.getSnapshot? s.address).bind fun p => (t.directionalPrice s p).toOption
  else none

/-- The route buying in the first of two priced pools and selling in the second, when the two
are distinct and the sell price exceeds the buy price by more than the threshold. -/
def pairRoute? (t : Target) (buy sell : PoolState × Float) : Option Route :=
  if buy.1.address = sell.1.address ∨ sell.2 - buy.2 ≤ t.threshold then none
  else some (t.candidate buy sell)

/-- The route buying in `buy` and selling in `sell`, when both are priced pools of the cache
that pair into a route. -/
def routeOf? (t : Target) (c : PoolCache) (buy sell : PoolState) : Option Route := do
  let x ← t.priceOf? c buy
  let y ← t.priceOf? c sell
  t.pairRoute? (buy, x) (sell, y)

theorem toOption_eq_some {α : Type} {e : Outcome α} {a : α} : e.toOption = some a ↔ e = .ok a := by
  cases e <;> simp [Except.toOption]

theorem priceOf?_eq_some : t.priceOf? c s = some x ↔ t.PricesAt c s x := by
  unfold priceOf? PricesAt
  split
  · rename_i pair
    simp [pair, Option.bind_eq_some_iff, toOption_eq_some]
  · rename_i foreign
    simp [foreign]

theorem routeOf?_eq_some :
    t.routeOf? c buy sell = some r ↔ buy.address ≠ sell.address ∧ ∃ x y, t.PricesAt c buy x ∧
      t.PricesAt c sell y ∧ ¬ y - x ≤ t.threshold ∧ r = t.candidate (buy, x) (sell, y) := by
  simp only [routeOf?, pairRoute?, ← priceOf?_eq_some]
  cases hx : t.priceOf? c buy with
  | none => simp
  | some x =>
    cases hy : t.priceOf? c sell with
    | none => simp
    | some y =>
      by_cases same : buy.address = sell.address
      · simp [same]
      · by_cases close : y - x ≤ t.threshold
        · simp [same, close]
        · simp [same, close, eq_comm]

theorem routeOf?_pools (h : t.routeOf? c buy sell = some r) :
    r.buyPool = buy.address ∧ r.sellPool = sell.address := by
  obtain ⟨-, x, y, -, -, -, rfl⟩ := routeOf?_eq_some.mp h
  exact ⟨rfl, rfl⟩

theorem priced_eq (t : Target) (c : PoolCache) :
    t.priced c = c.stateList.filterMap fun s => (t.priceOf? c s).map (s, ·) := by
  unfold priced survey
  rw [List.filterMap_map, List.filterMap_filter]
  apply List.filterMap_congr
  intro s _
  by_cases pair : s.hasPair t.loanToken t.quoteToken = true
  · simp only [pair, if_true, Function.comp_apply, priceOf?]
    cases hp : c.getSnapshot? s.address with
    | none => rfl
    | some p =>
      cases hd : t.directionalPrice s p <;> simp [hd, Except.toOption]
  · simp [pair, priceOf?]

theorem eq_of_mem_zipIdx {α : Type} {l : List α} {a b : α} {i : Nat} (ha : (a, i) ∈ l.zipIdx)
    (hb : (b, i) ∈ l.zipIdx) : a = b := by
  rw [List.mem_zipIdx_iff_getElem?] at ha hb
  simp only at ha hb
  rw [ha] at hb
  exact Option.some.inj hb

theorem pairs_eq (t : Target) (pools : List (PoolState × Float)) :
    t.pairs pools = pools.flatMap fun buy => pools.filterMap (t.pairRoute? buy) := by
  calc t.pairs pools
      = pools.zipIdx.flatMap fun p => pools.zipIdx.filterMap fun q => t.pairRoute? p.1 q.1 := by
        unfold pairs
        apply List.flatMap_congr
        rintro ⟨buy, i⟩ hbuy
        apply List.filterMap_congr
        rintro ⟨sell, j⟩ hsell
        by_cases same : i = j
        · subst same
          have one : buy = sell := eq_of_mem_zipIdx hbuy hsell
          simp [one, pairRoute?]
        · simp [same, tooClose, pairRoute?]
    _ = (pools.zipIdx.map Prod.fst).flatMap fun buy =>
          (pools.zipIdx.map Prod.fst).filterMap (t.pairRoute? buy) := by
        simp only [List.flatMap_map, List.filterMap_map]
        rfl
    _ = pools.flatMap fun buy => pools.filterMap (t.pairRoute? buy) := by
        rw [List.zipIdx_map_fst]

theorem candidates_eq (t : Target) (c : PoolCache) :
    t.candidates c = c.stateList.flatMap fun buy => c.stateList.filterMap (t.routeOf? c buy) := by
  rw [candidates, pairs_eq, priced_eq]
  conv_lhs => arg 2; rw [List.filterMap_eq_flatMap_toList]
  rw [List.flatMap_assoc]
  apply List.flatMap_congr
  intro buy _
  cases hx : t.priceOf? c buy with
  | none =>
    simp only [Option.map_none, Option.toList_none, List.flatMap_nil]
    symm
    rw [List.filterMap_eq_nil_iff]
    intro sell _
    simp [routeOf?, hx]
  | some x =>
    simp only [Option.map_some, Option.toList_some, List.flatMap_singleton, List.filterMap_filterMap]
    apply List.filterMap_congr
    intro sell _
    cases hy : t.priceOf? c sell <;> simp [routeOf?, hx, hy]

theorem mem_candidates :
    r ∈ t.candidates c ↔ ∃ buy ∈ c.stateList, ∃ sell ∈ c.stateList, t.routeOf? c buy sell = some r := by
  simp [candidates_eq]

theorem candidates_of_length_lt_two (few : (t.priced c).length < 2) : t.candidates c = [] := by
  rw [candidates, pairs_eq]
  match h : t.priced c, few with
  | [], _ => rfl
  | [p], _ => simp [pairRoute?]

theorem candidates_sorted (striped : c.Striped) :
    (t.candidates c).Pairwise fun r r' =>
      Prod.Lex (· < ·) (· < ·) (r.buyPool, r.sellPool) (r'.buyPool, r'.sellPool) := by
  have sorted := striped.stateList_sorted
  rw [candidates_eq, List.pairwise_flatMap]
  constructor
  · intro buy _
    refine sorted.filterMap _ fun sell sell' less r hr r' hr' => ?_
    obtain ⟨hb, hs⟩ := routeOf?_pools hr
    obtain ⟨hb', hs'⟩ := routeOf?_pools hr'
    rw [hb, hs, hb', hs']
    exact Prod.Lex.right _ less
  · refine sorted.imp fun {buy buy'} less => ?_
    intro r hr r' hr'
    obtain ⟨sell, -, found⟩ := List.mem_filterMap.mp hr
    obtain ⟨sell', -, found'⟩ := List.mem_filterMap.mp hr'
    rw [(routeOf?_pools found).1, (routeOf?_pools found').1]
    exact Prod.Lex.left _ _ less

end Target

/-- The candidates of a cache are exactly its routes between two distinct priced pools of the target
pair whose price spread beats the threshold, in listing order; in a cache built by its own
operations no pair comes twice. -/
theorem candidates_are_priced_pairs (t : Target) (c : PoolCache) :
    t.candidates c = (c.stateList.flatMap fun buy => c.stateList.filterMap (t.routeOf? c buy)) ∧
    (∀ r, r ∈ t.candidates c ↔ ∃ buy ∈ c.stateList, ∃ sell ∈ c.stateList, ∃ x y,
      buy.address ≠ sell.address ∧ t.PricesAt c buy x ∧ t.PricesAt c sell y ∧
        ¬ y - x ≤ t.threshold ∧ r = t.candidate (buy, x) (sell, y)) ∧
    ((t.priced c).length < 2 → t.candidates c = []) ∧
    (c.Striped → (t.candidates c).Pairwise fun r r' =>
      Prod.Lex (· < ·) (· < ·) (r.buyPool, r.sellPool) (r'.buyPool, r'.sellPool)) := by
  refine ⟨t.candidates_eq c, fun r => ?_, Target.candidates_of_length_lt_two,
    Target.candidates_sorted⟩
  rw [Target.mem_candidates]
  simp only [Target.routeOf?_eq_some]
  constructor
  · rintro ⟨buy, hbuy, sell, hsell, differ, x, y, px, py, wide, rfl⟩
    exact ⟨buy, hbuy, sell, hsell, x, y, differ, px, py, wide, rfl⟩
  · rintro ⟨buy, hbuy, sell, hsell, x, y, differ, px, py, wide, rfl⟩
    exact ⟨buy, hbuy, sell, hsell, differ, x, y, px, py, wide, rfl⟩

/-- Two pools of the pair stored in an empty cache: the cache is striped, and its candidates
run in increasing address order. -/
theorem two_pool_candidates_ordered :
    let t : Target :=
      { loanToken := Address.ofNat 0x42, quoteToken := Address.ofNat 0x0b, loanDecimals := 18,
        quoteDecimals := 6, threshold := 0 }
    let a : PoolState :=
      { address := Address.ofNat 0xaa01, kind := .volatile, token0 := Address.ofNat 0x42,
        token1 := Address.ofNat 0x0b }
    let b : PoolState :=
      { address := Address.ofNat 0xbb02, kind := .concentrated, token0 := Address.ofNat 0x0b,
        token1 := Address.ofNat 0x42 }
    let pa : PoolSnapshot := { address := a.address, reserve0 := some 1000, reserve1 := some 2000 }
    let pb : PoolSnapshot := { address := b.address, sqrtPrice := some (2 ^ 96) }
    let c := (PoolCache.empty.upsert a pa).upsert b pb
    c.Striped ∧ (t.candidates c).Pairwise fun r r' =>
      Prod.Lex (· < ·) (· < ·) (r.buyPool, r.sellPool) (r'.buyPool, r'.sellPool) := by
  intro t a b pa pb c
  have striped : c.Striped := (PoolCache.striped_empty.upsert _ _).upsert _ _
  exact ⟨striped, (candidates_are_priced_pairs t c).2.2.2 striped⟩

/-- A leg that swaps `sold` for `bought` through the pool `s`, on the pool's terms. -/
structure Leg.SwapsThrough (leg : Leg) (s : PoolState) (sold bought : Address) : Prop where
  pool : leg.pool = s.address
  tokenIn : leg.tokenIn = sold
  tokenOut : leg.tokenOut = bought
  holds : s.hasPair sold bought = true
  zeroForOne : leg.zeroForOne = true ↔ leg.tokenIn = s.token0
  kind : leg.kind = s.kind
  fee : leg.fee = s.fee
  stable : leg.stable = s.stable
  factory : leg.factory = s.factory

theorem PoolState.hasPair_comm (s : PoolState) (a b : Address) : s.hasPair a b = s.hasPair b a := by
  unfold PoolState.hasPair
  cases s.token0 == a <;> cases s.token1 == b <;> cases s.token0 == b <;> cases s.token1 == a <;> rfl

theorem PoolState.hasPair_iff {s : PoolState} {a b : Address} :
    s.hasPair a b = true ↔ (s.token0 = a ∧ s.token1 = b) ∨ (s.token0 = b ∧ s.token1 = a) := by
  simp [PoolState.hasPair]

namespace Target

variable {t : Target} {buy sell : PoolState} {x y : Float}

theorem sellLeg_swapsThrough (pair : sell.hasPair t.loanToken t.quoteToken = true) :
    (t.candidate (buy, x) (sell, y)).sellLeg.SwapsThrough sell t.loanToken t.quoteToken where
  pool := rfl
  tokenIn := rfl
  tokenOut := rfl
  holds := pair
  zeroForOne := by
    simp only [candidate, Route.sellLeg, beq_iff_eq]
    exact eq_comm
  kind := rfl
  fee := rfl
  stable := rfl
  factory := rfl

theorem buyLeg_swapsThrough (pair : buy.hasPair t.loanToken t.quoteToken = true)
    (distinct : t.loanToken ≠ t.quoteToken) :
    (t.candidate (buy, x) (sell, y)).buyLeg.SwapsThrough buy t.quoteToken t.loanToken where
  pool := rfl
  tokenIn := rfl
  tokenOut := rfl
  holds := by rw [PoolState.hasPair_comm]; exact pair
  zeroForOne := by
    simp only [candidate, Route.buyLeg, Bool.not_eq_eq_eq_not, Bool.not_true, beq_eq_false_iff_ne]
    rcases PoolState.hasPair_iff.mp pair with ⟨loan0, -⟩ | ⟨quote0, -⟩
    · rw [loan0]
      exact ⟨fun h => absurd rfl h, fun h => absurd h.symm distinct⟩
    · rw [quote0]
      exact ⟨fun _ => rfl, fun _ => Ne.symm distinct⟩
  kind := rfl
  fee := rfl
  stable := rfl
  factory := rfl

end Target

/-- For a target of two distinct tokens, every candidate sells the loan token in its sell pool and
buys it back in its buy pool on those pools' terms, and its payload names the sell pool first. -/
theorem candidate_legs_follow_pools (t : Target) (c : PoolCache) (striped : c.Striped)
    (distinct : t.loanToken ≠ t.quoteToken) (b : Builder) (minProfit : Option Int)
    (salt : Option Nat) :
    ∀ r ∈ t.candidates c, ∃ sell buy first second,
      c.getState? r.sellPool = some sell ∧ c.getState? r.buyPool = some buy ∧
      r.legs = [first, second] ∧
      first.SwapsThrough sell t.loanToken t.quoteToken ∧
      second.SwapsThrough buy t.quoteToken t.loanToken ∧
      (b.payload r minProfit salt).firstPool = r.sellPool ∧
      (b.payload r minProfit salt).secondPool = r.buyPool ∧
      (b.payload r minProfit salt).zeroForOne = first.zeroForOne ∧
      (b.payload r minProfit salt).firstIsConstProd = first.kind.isConstantProduct ∧
      (b.payload r minProfit salt).secondIsConstProd = second.kind.isConstantProduct := by
  intro r listed
  obtain ⟨buy, hbuy, sell, hsell, found⟩ := Target.mem_candidates.mp listed
  obtain ⟨-, x, y, ⟨pairBuy, -⟩, ⟨pairSell, -⟩, -, rfl⟩ := Target.routeOf?_eq_some.mp found
  refine ⟨sell, buy, _, _, (striped.mem_stateList_iff sell).mp hsell,
    (striped.mem_stateList_iff buy).mp hbuy, rfl, Target.sellLeg_swapsThrough pairSell,
    Target.buyLeg_swapsThrough pairBuy distinct, rfl, rfl, rfl, rfl, rfl⟩

/-- A target of two distinct tokens over a cache of two pools built by its operations. -/
theorem two_pool_legs_follow_pools :
    let t : Target :=
      { loanToken := Address.ofNat 0x42, quoteToken := Address.ofNat 0x0b, loanDecimals := 18,
        quoteDecimals := 6, threshold := 0 }
    let a : PoolState :=
      { address := Address.ofNat 0xaa01, kind := .volatile, token0 := Address.ofNat 0x42,
        token1 := Address.ofNat 0x0b }
    let b : PoolState :=
      { address := Address.ofNat 0xbb02, kind := .concentrated, token0 := Address.ofNat 0x0b,
        token1 := Address.ofNat 0x42 }
    let pa : PoolSnapshot := { address := a.address, reserve0 := some 1000, reserve1 := some 2000 }
    let pb : PoolSnapshot := { address := b.address, sqrtPrice := some (2 ^ 96) }
    let c := (PoolCache.empty.upsert a pa).upsert b pb
    c.Striped ∧ t.loanToken ≠ t.quoteToken ∧
      ∀ r ∈ t.candidates c, ∃ sell buy first second,
        c.getState? r.sellPool = some sell ∧ c.getState? r.buyPool = some buy ∧
        r.legs = [first, second] ∧
        first.SwapsThrough sell t.loanToken t.quoteToken ∧
        second.SwapsThrough buy t.quoteToken t.loanToken ∧
        (Builder.payload { vault := Address.zero, executor := Address.zero } r none none).firstPool =
          r.sellPool ∧
        (Builder.payload { vault := Address.zero, executor := Address.zero } r none none).secondPool =
          r.buyPool ∧
        (Builder.payload { vault := Address.zero, executor := Address.zero } r none none).zeroForOne =
          first.zeroForOne ∧
        (Builder.payload { vault := Address.zero, executor := Address.zero } r none none).firstIsConstProd =
          first.kind.isConstantProduct ∧
        (Builder.payload { vault := Address.zero, executor := Address.zero } r none none).secondIsConstProd =
          second.kind.isConstantProduct := by
  intro t a b pa pb c
  have striped : c.Striped := (PoolCache.striped_empty.upsert _ _).upsert _ _
  have distinct : t.loanToken ≠ t.quoteToken := by decide
  exact ⟨striped, distinct, candidate_legs_follow_pools t c striped distinct _ none none⟩

end FlashArb
