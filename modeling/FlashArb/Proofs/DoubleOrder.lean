import Mathlib
import FlashArb.Float.Double
import FlashArb.Price.Units

/-! A double stands for a number of the extended real line, or for none when it is NaN. -/
namespace FlashArb

namespace Binary64

/-- The number a double stands for: `±m·2^e`, an infinity, or none for NaN. -/
noncomputable def Kind.value : Kind → Option EReal
  | .finite neg m e => some ((signed neg m * (2 : ℝ) ^ e : ℝ) : EReal)
  | .inf neg => some (if neg then ⊥ else ⊤)
  | .nan => none

theorem signed_mul (neg : Bool) (m k : Nat) : signed neg (m * k) = signed neg m * k := by
  cases neg <;> simp [signed]

theorem signed_scaled (neg : Bool) (m : Nat) {b e : Int} (h : b ≤ e) :
    (signed neg (m * 2 ^ (e - b).toNat) : ℝ) * 2 ^ b = signed neg m * (2 : ℝ) ^ e := by
  rw [signed_mul, Int.cast_mul, mul_assoc]
  congr 1
  push_cast
  rw [← zpow_natCast, ← zpow_add₀ two_ne_zero, Int.toNat_of_nonneg (by omega), sub_add_cancel]

theorem scaled_strictMono (b : Int) : StrictMono fun n : Int => ((n * (2 : ℝ) ^ b : ℝ) : EReal) :=
  EReal.coe_strictMono.comp fun _ _ lt =>
    mul_lt_mul_of_pos_right (Int.cast_lt.mpr lt) (zpow_pos two_pos b)

theorem Kind.compare?_eq_some {k₁ k₂ : Kind} {o : Ordering} :
    k₁.compare? k₂ = some o ↔ ∃ a b, k₁.value = some a ∧ k₂.value = some b ∧ o.Compares a b := by
  cases k₁ with
  | nan => simp [compare?, value]
  | inf n₁ =>
    cases k₂ with
    | nan => simp [compare?, value]
    | inf n₂ => cases n₁ <;> cases n₂ <;> cases o <;> simp [compare?, value, Ordering.Compares]
    | finite n₂ m₂ e₂ =>
      simp only [compare?, value, Option.some.injEq]
      generalize (signed n₂ m₂ * (2 : ℝ) ^ e₂ : ℝ) = r
      cases n₁ <;> cases o <;> simp [Ordering.Compares, EReal.bot_lt_coe, EReal.coe_lt_top]
  | finite n₁ m₁ e₁ =>
    cases k₂ with
    | nan => simp [compare?, value]
    | inf n₂ =>
      simp only [compare?, value, Option.some.injEq]
      generalize (signed n₁ m₁ * (2 : ℝ) ^ e₁ : ℝ) = r
      cases n₂ <;> cases o <;> simp [Ordering.Compares, EReal.bot_lt_coe, EReal.coe_lt_top]
    | finite n₂ m₂ e₂ =>
      -- both values are integers at the smaller exponent, scaled by the same power of two
      have h₁ := signed_scaled n₁ m₁ (min_le_left e₁ e₂)
      have h₂ := signed_scaled n₂ m₂ (min_le_right e₁ e₂)
      simp only [compare?, value, Option.some.injEq, exists_and_left, exists_eq_left']
      rw [compare_iff, ← (scaled_strictMono (min e₁ e₂)).compares]
      simp only [h₁, h₂]

end Binary64

namespace Double

/-- The number a double stands for, or none for NaN. -/
noncomputable def value (x : Double) : Option EReal := x.kind.value

/-- A double that stands for a real number: neither an infinity nor NaN. -/
def IsFinite (x : Double) : Prop := ∃ r : ℝ, x.value = some (r : EReal)

variable {x y : Double}

theorem lt_iff_value : x < y ↔ ∃ a b, x.value = some a ∧ y.value = some b ∧ a < b :=
  Binary64.Kind.compare?_eq_some

theorem le_iff_value : x ≤ y ↔ ∃ a b, x.value = some a ∧ y.value = some b ∧ a ≤ b := by
  show x.kind.compare? y.kind = some .lt ∨ x.kind.compare? y.kind = some .eq ↔ _
  simp only [Binary64.Kind.compare?_eq_some, value, Ordering.Compares]
  constructor
  · rintro (⟨a, b, ha, hb, lt⟩ | ⟨a, b, ha, hb, rfl⟩)
    · exact ⟨a, b, ha, hb, lt.le⟩
    · exact ⟨a, a, ha, hb, le_rfl⟩
  · rintro ⟨a, b, ha, hb, le⟩
    rcases le.lt_or_eq with lt | rfl
    · exact .inl ⟨a, b, ha, hb, lt⟩
    · exact .inr ⟨a, a, ha, hb, rfl⟩

theorem le_of_not_lt {a b : EReal} (h : ¬ x < y) (ha : x.value = some a) (hb : y.value = some b) :
    b ≤ a :=
  not_lt.mp fun lt => h (lt_iff_value.mpr ⟨a, b, ha, hb, lt⟩)

theorem lt_of_not_le {a b : EReal} (h : ¬ x ≤ y) (ha : x.value = some a) (hb : y.value = some b) :
    b < a :=
  not_le.mp fun le => h (le_iff_value.mpr ⟨a, b, ha, hb, le⟩)

@[simp] theorem value_zero : (0 : Double).value = some 0 := by
  have : (0 : Double).kind = .finite false 0 (-1074) := by decide
  simp [value, this, Binary64.Kind.value, Binary64.signed]

end Double

theorem Units.baseOfKind_ok {x : Double} (finite : x.IsFinite) (nonneg : ∀ a, x.value = some a → 0 ≤ a)
    (decimals : Nat) : ∃ v, Units.baseOfKind x.kind decimals = .ok v := by
  obtain ⟨r, hr⟩ := finite
  have sign := nonneg r hr
  unfold Double.value at hr
  cases hk : x.kind with
  | nan => simp [hk, Binary64.Kind.value] at hr
  | inf neg => cases neg <;> simp [hk, Binary64.Kind.value] at hr
  | finite neg m e =>
    rw [hk] at hr
    simp only [Units.baseOfKind]
    split_ifs with zero negative whole
    · exact ⟨0, rfl⟩
    · subst negative
      have pos : (0 : ℝ) < m * 2 ^ e :=
        mul_pos (Nat.cast_pos.mpr (Nat.pos_of_ne_zero (by simpa using zero))) (zpow_pos two_pos e)
      simp only [Binary64.Kind.value, Binary64.signed, if_true, Int.cast_neg,
        Int.cast_natCast, Option.some.injEq] at hr
      rw [← hr, EReal.coe_nonneg] at sign
      linarith
    · exact ⟨_, rfl⟩
    · exact ⟨_, rfl⟩

end FlashArb
