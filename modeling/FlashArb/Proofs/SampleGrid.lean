import Mathlib
import FlashArb.Sim.LoanSearch

/-! The grid of loan amounts and how close its points lie to any amount. -/
namespace FlashArb

/-- Points `g 0, …, g (k - 1)` running from `lo` to `hi` without falling, each at most `D` past
the one before. -/
structure Mesh (g : ℕ → ℤ) (k : ℕ) (lo hi D : ℤ) : Prop where
  first : g 0 = lo
  last : g (k - 1) = hi
  mono : ∀ {i j}, i ≤ j → g i ≤ g j
  gap : ∀ {i}, i + 1 < k → g (i + 1) - g i ≤ D

namespace Mesh

variable {g : ℕ → ℤ} {k : ℕ} {lo hi D p : ℤ} {f : ℤ → ℤ}

theorem le_last (mesh : Mesh g k lo hi D) {i : ℕ} (h : i < k) : g i ≤ hi :=
  mesh.last ▸ mesh.mono (by omega)

theorem first_le (mesh : Mesh g k lo hi D) (i : ℕ) : lo ≤ g i :=
  mesh.first ▸ mesh.mono (Nat.zero_le i)

variable (mesh : Mesh g k lo hi D) (nonneg : 0 ≤ lo) (peak : p ∈ Set.Icc lo hi)
include mesh nonneg peak

end Mesh

section Grid

variable {lo hi : ℤ} {k : ℕ}

theorem add_ediv_le_ceil (a s d : ℤ) (hd : 0 < d) : (a + s) / d ≤ a / d + -((-s) / d) := by
  have upper := Int.lt_ediv_add_one_mul_self a hd
  have ceil := Int.ediv_mul_le (-s) hd.ne'
  have lt : (a + s) / d < a / d + -((-s) / d) + 1 := by
    rw [Int.ediv_lt_iff_lt_mul hd]
    linarith
  omega

theorem gridPoint_of_two_le (two : 2 ≤ k) (ordered : lo ≤ hi) (i : ℕ) :
    gridPoint lo hi k i = lo + (hi - lo) * i / (k - 1 : ℕ) := by
  have notOne : (k == 1) = false := by simp only [beq_eq_false_iff_ne]; omega
  simp only [gridPoint, notOne, Bool.false_eq_true, ↓reduceIte]
  rw [Int.tdiv_eq_ediv_of_nonneg (mul_nonneg (by omega) (Int.natCast_nonneg i))]

theorem gridPoint_mesh (two : 2 ≤ k) (ordered : lo ≤ hi) :
    Mesh (gridPoint lo hi k) k lo hi (-((-(hi - lo)) / (k - 1 : ℕ))) := by
  have d_pos : (0 : ℤ) < (k - 1 : ℕ) := by omega
  have span : 0 ≤ hi - lo := by omega
  refine ⟨?_, ?_, fun {i j} ij => ?_, fun {i} _ => ?_⟩
  · simp [gridPoint_of_two_le two ordered]
  · rw [gridPoint_of_two_le two ordered, Int.mul_ediv_cancel _ d_pos.ne']
    ring
  · rw [gridPoint_of_two_le two ordered, gridPoint_of_two_le two ordered]
    have more : (hi - lo) * (i : ℤ) ≤ (hi - lo) * (j : ℤ) :=
      mul_le_mul_of_nonneg_left (by exact_mod_cast ij) span
    have := Int.ediv_le_ediv d_pos more
    omega
  · rw [gridPoint_of_two_le two ordered, gridPoint_of_two_le two ordered]
    have step := add_ediv_le_ceil ((hi - lo) * i) (hi - lo) _ d_pos
    rw [show (hi - lo) * ((i + 1 : ℕ) : ℤ) = (hi - lo) * i + (hi - lo) by push_cast; ring]
    omega

theorem ediv_add_ediv_le (a s d : ℤ) (hd : 0 < d) : a / d + s / d ≤ (a + s) / d := by
  rw [Int.le_ediv_iff_mul_le hd]
  have := Int.ediv_mul_le a hd.ne'
  have := Int.ediv_mul_le s hd.ne'
  linarith

theorem gridPoint_gap_ge (two : 2 ≤ k) (ordered : lo ≤ hi) (i : ℕ) :
    (hi - lo) / (k - 1 : ℕ) ≤ gridPoint lo hi k (i + 1) - gridPoint lo hi k i := by
  have d_pos : (0 : ℤ) < (k - 1 : ℕ) := by omega
  rw [gridPoint_of_two_le two ordered, gridPoint_of_two_le two ordered]
  have step := ediv_add_ediv_le ((hi - lo) * i) (hi - lo) _ d_pos
  rw [show (hi - lo) * ((i + 1 : ℕ) : ℤ) = (hi - lo) * i + (hi - lo) by push_cast; ring]
  omega

theorem gridPoint_gap (two : 2 ≤ k) (ordered : lo ≤ hi) {i : ℕ} (inside : i + 1 < k) :
    gridPoint lo hi k (i + 1) - gridPoint lo hi k i = ⌊((hi - lo : ℤ) : ℚ) / (k - 1 : ℕ)⌋ ∨
      gridPoint lo hi k (i + 1) - gridPoint lo hi k i = ⌈((hi - lo : ℤ) : ℚ) / (k - 1 : ℕ)⌉ := by
  have below := gridPoint_gap_ge two ordered i
  have above := (gridPoint_mesh two ordered).gap inside
  have close := Int.ceil_le_floor_add_one (((hi - lo : ℤ) : ℚ) / (k - 1 : ℕ))
  rw [Rat.floor_intCast_div_natCast, Rat.ceil_intCast_div_natCast] at *
  omega

end Grid

section Spread

variable {lo hi n : ℤ}

theorem sampleAmounts_eq_filter (lo hi n : ℤ) :
    sampleAmounts lo hi n =
      ((List.range n.toNat).map fun i : ℕ =>
          if n = 1 then lo + (hi - lo).tdiv 2 else lo + ((hi - lo) * i).tdiv (n - 1)).filter
        fun a => a ≠ 0 ∧ lo ≤ a ∧ a ≤ hi := by
  by_cases none : n < 1
  · simp [sampleAmounts, none, show n.toNat = 0 by omega]
  · have sub : ((n.toNat - 1 : ℕ) : ℤ) = n - 1 := by omega
    have single : (n.toNat == 1) = decide (n = 1) := by
      by_cases h : n = 1
      · simp [h]
      · simp only [h, decide_false, beq_eq_false_iff_ne]
        omega
    have points : gridPoint lo hi n.toNat = fun i : ℕ =>
        if n = 1 then lo + (hi - lo).tdiv 2 else lo + ((hi - lo) * i).tdiv (n - 1) := by
      funext i
      simp only [gridPoint, single, sub, decide_eq_true_eq]
    simp only [sampleAmounts, none, ↓reduceIte, points]
    apply List.filter_congr
    intro a _
    by_cases zero : a = 0
    · simp [zero]
    · simp [zero, bne_iff_ne.2 zero]

theorem mem_sampleAmounts_bounds {x : ℤ} (mem : x ∈ sampleAmounts lo hi n) :
    x ≠ 0 ∧ lo ≤ x ∧ x ≤ hi := by
  unfold sampleAmounts at mem
  split at mem
  · simp at mem
  · simp only [List.mem_filter, Bool.and_eq_true, bne_iff_ne, decide_eq_true_eq] at mem
    exact ⟨mem.2.1.1, mem.2.1.2, mem.2.2⟩

theorem sampleAmounts_of_lt (backward : hi < lo) : sampleAmounts lo hi n = [] := by
  apply List.eq_nil_iff_forall_not_mem.2
  intro x mem
  have := mem_sampleAmounts_bounds mem
  omega

theorem sampleAmounts_sorted : (sampleAmounts lo hi n).Pairwise (· ≤ ·) := by
  by_cases backward : hi < lo
  · simp [sampleAmounts_of_lt backward]
  by_cases none : n < 1
  · simp [sampleAmounts, none]
  unfold sampleAmounts
  simp only [none, ↓reduceIte]
  apply List.Pairwise.filter
  by_cases single : n = 1
  · simp [single]
  · have mesh := gridPoint_mesh (k := n.toNat) (by omega) (not_lt.1 backward)
    rw [List.pairwise_map]
    exact List.pairwise_le_range.imp mesh.mono

theorem sampleAmounts_eq_grid (positive : 1 ≤ lo) (ordered : lo ≤ hi) (two : 2 ≤ n) :
    sampleAmounts lo hi n = (List.range n.toNat).map (gridPoint lo hi n.toNat) := by
  have mesh := gridPoint_mesh (k := n.toNat) (by omega) ordered
  simp only [sampleAmounts, show ¬n < 1 by omega, ↓reduceIte]
  apply List.filter_eq_self.2
  intro a mem
  obtain ⟨i, hi_lt, rfl⟩ := List.mem_map.1 mem
  have low := mesh.first_le i
  have high := mesh.le_last (List.mem_range.1 hi_lt)
  simp only [Bool.and_eq_true, bne_iff_ne, ne_eq, decide_eq_true_eq]
  omega

/-- The grid of `n` amounts over `[lo, hi]` keeps its nonzero grid points in `[lo, hi]`, never
falling; for `1 ≤ lo ≤ hi` and `n ≥ 2` it has exactly `n` amounts from `lo` to `hi`, neighbours
a floor or ceiling step apart. -/
theorem sampleAmounts_spread (lo hi n : ℤ) :
    sampleAmounts lo hi n =
        ((List.range n.toNat).map fun i : ℕ =>
            if n = 1 then lo + (hi - lo).tdiv 2 else lo + ((hi - lo) * i).tdiv (n - 1)).filter
          (fun a => a ≠ 0 ∧ lo ≤ a ∧ a ≤ hi) ∧
      (∀ x ∈ sampleAmounts lo hi n, x ≠ 0 ∧ lo ≤ x ∧ x ≤ hi) ∧
      (sampleAmounts lo hi n).Pairwise (· ≤ ·) ∧
      (hi < lo → sampleAmounts lo hi n = []) ∧
      (1 ≤ lo → lo ≤ hi → 2 ≤ n →
        (sampleAmounts lo hi n).length = n.toNat ∧
        (sampleAmounts lo hi n).head? = some lo ∧
        (sampleAmounts lo hi n).getLast? = some hi ∧
        (sampleAmounts lo hi n).IsChain fun a b =>
          b - a = ⌊((hi - lo : ℤ) : ℚ) / ((n : ℚ) - 1)⌋ ∨ b - a = ⌈((hi - lo : ℤ) : ℚ) / ((n : ℚ) - 1)⌉) := by
  refine ⟨sampleAmounts_eq_filter lo hi n, fun x => mem_sampleAmounts_bounds,
    sampleAmounts_sorted, sampleAmounts_of_lt, fun positive ordered two => ?_⟩
  have mesh := gridPoint_mesh (k := n.toNat) (by omega) ordered
  have steps : (n.toNat - 1 : ℕ) = ((n : ℚ) - 1) := by
    rw [Nat.cast_sub (by omega), Nat.cast_one, ← Int.cast_natCast, Int.toNat_of_nonneg (by omega)]
  rw [sampleAmounts_eq_grid positive ordered two, ← steps]
  refine ⟨by simp, ?_, ?_, ?_⟩
  · simp [List.head?_range, show n.toNat ≠ 0 by omega, mesh.first]
  · simp [List.getLast?_range, show n.toNat ≠ 0 by omega, mesh.last]
  · rw [List.isChain_map, List.isChain_range]
    intro i inside
    exact gridPoint_gap (by omega) ordered (by omega)

end Spread

/-- Ten to fifty in five amounts: every ten. -/
theorem ten_to_fifty_in_five :
    (1 : ℤ) ≤ 10 ∧ (10 : ℤ) ≤ 50 ∧ (2 : ℤ) ≤ 5 ∧
      (sampleAmounts 10 50 5).length = (5 : ℤ).toNat ∧
      (sampleAmounts 10 50 5).head? = some 10 ∧ (sampleAmounts 10 50 5).getLast? = some 50 ∧
      (sampleAmounts 10 50 5).IsChain fun a b =>
        b - a = ⌊(((50 : ℤ) - 10 : ℤ) : ℚ) / (((5 : ℤ) : ℚ) - 1)⌋ ∨
          b - a = ⌈(((50 : ℤ) - 10 : ℤ) : ℚ) / (((5 : ℤ) : ℚ) - 1)⌉ :=
  ⟨by decide, by decide, by decide,
    (sampleAmounts_spread 10 50 5).2.2.2.2 (by decide) (by decide) (by decide)⟩

end FlashArb
