import Mathlib
import FlashArb.Loan.Guard

/-! The profit guard sits below the simulated profit. -/
namespace FlashArb

section Guard

variable {p p' : Int} {bps : Nat} {absWei : Option Int}

theorem share_nonneg (hp : 0 ≤ p) : 0 ≤ p * bps / 10000 :=
  Int.ediv_nonneg (mul_nonneg hp (Int.natCast_nonneg bps)) (by norm_num)

theorem share_le_add (hb : bps ≤ 10000) (h : p ≤ p') :
    p' * bps / 10000 ≤ p * bps / 10000 + (p' - p) := by
  have grow : (p' - p) * bps ≤ (p' - p) * 10000 :=
    mul_le_mul_of_nonneg_left (by exact_mod_cast hb) (by omega)
  calc p' * bps / 10000 = (p * bps + (p' - p) * bps) / 10000 := by ring_nf
    _ ≤ (p * bps + (p' - p) * 10000) / 10000 := Int.ediv_le_ediv (by norm_num) (by omega)
    _ = p * bps / 10000 + (p' - p) := Int.add_mul_ediv_right _ _ (by norm_num)

theorem le_share (hb : 10000 < bps) (hp : 0 < p) : p ≤ p * bps / 10000 :=
  (Int.le_ediv_iff_mul_le (by norm_num)).mpr
    (mul_le_mul_of_nonneg_left (by exact_mod_cast hb.le) hp.le)

theorem minProfitGuard_of_nonpos (hp : p ≤ 0) : minProfitGuard (some p) bps absWei = 1 := by
  simp [minProfitGuard, hp]

theorem minProfitGuard_of_pos (hp : 0 < p) :
    minProfitGuard (some p) bps absWei = p - min (p - 1) (max (p * bps / 10000) (absWei.getD 0)) := by
  have share : 0 ≤ p * bps / 10000 := share_nonneg hp.le
  have towardZero : (p * bps).tdiv 10000 = p * bps / 10000 :=
    Int.tdiv_eq_ediv_of_nonneg (mul_nonneg hp.le (Int.natCast_nonneg bps))
  simp only [minProfitGuard, towardZero, if_neg (Int.not_le.mpr hp)]
  cases absWei with
  | none => simp only [Option.getD_none]; split_ifs <;> omega
  | some a => simp only [Option.getD_some]; split_ifs <;> omega

theorem one_le_minProfitGuard (profit : Option Int) : 1 ≤ minProfitGuard profit bps absWei := by
  rcases profit with _ | p
  · simp [minProfitGuard]
  · rcases Int.lt_or_le 0 p with hp | hp
    · rw [minProfitGuard_of_pos hp]
      omega
    · rw [minProfitGuard_of_nonpos hp]

theorem minProfitGuard_le (hp : 1 ≤ p) : minProfitGuard (some p) bps absWei ≤ p := by
  have share : 0 ≤ p * bps / 10000 := share_nonneg (by omega)
  rw [minProfitGuard_of_pos hp]
  omega

theorem minProfitGuard_mono (h : p ≤ p') :
    minProfitGuard (some p) bps absWei ≤ minProfitGuard (some p') bps absWei := by
  rcases Int.lt_or_le 0 p with hp | hp
  · have hp' : 0 < p' := lt_of_lt_of_le hp h
    rw [minProfitGuard_of_pos hp, minProfitGuard_of_pos hp']
    rcases Nat.lt_or_ge 10000 bps with hb | hb
    · have whole := le_share hb hp
      have whole' := le_share hb hp'
      omega
    · have step := share_le_add hb h
      omega
  · rw [minProfitGuard_of_nonpos hp]
    exact one_le_minProfitGuard _

end Guard

/-- The guard is 1 without a positive profit and otherwise the profit less the larger of
`⌊p · bps / 10000⌋` and the absolute buffer, capped at `p - 1`; it lies between 1 and the
profit, and never falls as the profit grows. -/
theorem guard_sits_below_profit (bps : Nat) (absWei : Option Int) :
    minProfitGuard none bps absWei = 1 ∧
    (∀ p : Int, minProfitGuard (some p) bps absWei =
      if p ≤ 0 then 1 else p - min (p - 1) (max ⌊(p * bps : ℚ) / 10000⌋ (absWei.getD 0))) ∧
    (∀ p : Int, 1 ≤ p →
      1 ≤ minProfitGuard (some p) bps absWei ∧ minProfitGuard (some p) bps absWei ≤ p) ∧
    Monotone fun p : Int => minProfitGuard (some p) bps absWei := by
  refine ⟨rfl, fun p => ?_, fun p hp => ⟨one_le_minProfitGuard _, minProfitGuard_le hp⟩,
    fun _ _ h => minProfitGuard_mono h⟩
  split_ifs with hp
  · exact minProfitGuard_of_nonpos hp
  · have floor : ⌊(p * bps : ℚ) / 10000⌋ = p * bps / 10000 := by
      exact_mod_cast Rat.floor_intCast_div_natCast (p * bps) 10000
    rw [floor, minProfitGuard_of_pos (Int.not_le.mp hp)]

-- a 5% share of 100 is below the absolute buffer of 10, which then sets the guard
example : minProfitGuard (some 100) 500 (some 10) = 90 := by decide

end FlashArb
