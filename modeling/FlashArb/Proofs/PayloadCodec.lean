import Mathlib
import FlashArb.Loan.Payload
import FlashArb.Proofs.AbiReading

/-! The executor's payload is nine 32-byte words. -/
namespace FlashArb

namespace Payload

/-- The payload read off the numbers of its nine words. -/
def ofWords (w : Nat → Nat) : Payload :=
  { firstPool := Address.ofNat (w 0), secondPool := Address.ofNat (w 1),
    quoteToken := Address.ofNat (w 2), zeroForOne := w 3 != 0,
    firstIsConstProd := w 4 != 0, secondIsConstProd := w 5 != 0,
    router := Address.ofNat (w 6), minProfit := some (w 7), salt := some (w 8) }

theorem ofWords_congr {w w' : Nat → Nat} (h : ∀ i < 9, w i = w' i) : ofWords w = ofWords w' := by
  simp only [ofWords, h 0 (by omega), h 1 (by omega), h 2 (by omega), h 3 (by omega),
    h 4 (by omega), h 5 (by omega), h 6 (by omega), h 7 (by omega), h 8 (by omega)]

/-- A flag's word. -/
def flagWord (b : Bool) : Nat := if b then 1 else 0

theorem flagWord_ne_zero (b : Bool) : (flagWord b != 0) = b := by
  cases b <;> rfl

/-- The nine numbers a payload with a fitting profit is written as. -/
def wordValues (d : Payload) : List Nat :=
  [d.firstPool.toNat, d.secondPool.toNat, d.quoteToken.toNat, flagWord d.zeroForOne,
    flagWord d.firstIsConstProd, flagWord d.secondIsConstProd, d.router.toNat,
    (d.minProfit.getD 0).toNat, d.salt.getD 0 % 2 ^ 256]

theorem decode_eq_ofWords (b : Bytes) (h : b.length = 288) :
    decode b = .ok (ofWords fun i => Abi.wordAt b (32 * i)) := by
  have sized : (b.length != size) = false := by simp [h, size, words]
  simp only [decode, sized, Bool.false_eq_true, if_false, ofWords, Abi.wordAt, Nat.mul_comm]

theorem decode_eq_error_iff (b : Bytes) : (∃ f, decode b = .error f) ↔ b.length ≠ 288 := by
  by_cases h : b.length = 288
  · simp [decode_eq_ofWords b h, h]
  · have sized : (b.length != size) = true := by simp [h, size, words]
    simp [decode, sized, h]

theorem encode_eq_ok (d : Payload) (fits : ∀ p ∈ d.minProfit, 0 ≤ p ∧ p < 2 ^ 256) :
    d.encode = .ok (d.wordValues.flatMap Abi.word) := by
  unfold encode wordValues
  cases hp : d.minProfit with
  | none => rfl
  | some p =>
    obtain ⟨lo, hi⟩ := fits p hp
    dsimp only
    split
    · omega
    · split
      · rename_i big
        norm_num at big hi
        omega
      · rfl

theorem encode_eq_error_iff (d : Payload) :
    (∃ f, d.encode = .error f) ↔ ∃ p, d.minProfit = some p ∧ (p < 0 ∨ 2 ^ 256 ≤ p) := by
  constructor
  · rintro ⟨f, hf⟩
    cases hp : d.minProfit with
    | none =>
      rw [encode_eq_ok d (by simp [hp])] at hf
      cases hf
    | some p =>
      refine ⟨p, rfl, ?_⟩
      by_contra inside
      rw [not_or, not_lt, not_le] at inside
      rw [encode_eq_ok d (by simpa [hp] using inside)] at hf
      cases hf
  · rintro ⟨p, hp, out⟩
    simp only [encode, hp]
    split
    · exact ⟨_, rfl⟩
    · split
      · exact ⟨_, rfl⟩
      · rename_i nonneg small
        norm_num at nonneg small out
        omega

@[simp] theorem length_wordValues (d : Payload) : d.wordValues.length = 9 := rfl

theorem length_of_encode_eq_ok {d : Payload} {u : Bytes} (h : d.encode = .ok u) :
    u.length = 288 := by
  have fits : ∀ p ∈ d.minProfit, 0 ≤ p ∧ p < 2 ^ 256 := by
    intro p hp
    by_contra out
    have range : p < 0 ∨ 2 ^ 256 ≤ p := by
      rcases lt_or_ge p 0 with neg | nonneg
      · exact .inl neg
      · exact .inr (not_lt.mp fun small => out ⟨nonneg, small⟩)
    obtain ⟨f, hf⟩ := (encode_eq_error_iff d).2 ⟨p, hp, range⟩
    rw [hf] at h
    cases h
  rw [encode_eq_ok d fits, Except.ok.injEq] at h
  rw [← h, Abi.length_flatMap_word, length_wordValues]

theorem wordValues_lt (d : Payload) (fits : ∀ p ∈ d.minProfit, 0 ≤ p ∧ p < 2 ^ 256) :
    ∀ n ∈ d.wordValues, n < 2 ^ 256 := by
  have profit : (d.minProfit.getD 0).toNat < 2 ^ 256 := by
    cases hp : d.minProfit with
    | none => simp
    | some p =>
      obtain ⟨lo, hi⟩ := fits p hp
      simp only [Option.getD_some]
      omega
  simp only [wordValues, flagWord, List.mem_cons, List.not_mem_nil, or_false]
  rintro n (rfl | rfl | rfl | rfl | rfl | rfl | rfl | rfl | rfl) <;>
    first
    | exact Address.toNat_lt_word _
    | exact profit
    | exact Nat.mod_lt _ (by norm_num)
    | split <;> norm_num

theorem ofWords_wordValues (d : Payload) (fits : ∀ p ∈ d.minProfit, 0 ≤ p ∧ p < 2 ^ 256)
    (salted : ∀ s ∈ d.salt, s < 2 ^ 256) :
    ofWords (fun i => d.wordValues.getD i 0) =
      { d with minProfit := some (d.minProfit.getD 0), salt := some (d.salt.getD 0) } := by
  have profit : ((d.minProfit.getD 0).toNat : Int) = d.minProfit.getD 0 := by
    cases hp : d.minProfit with
    | none => rfl
    | some p => simpa using (fits p hp).1
  have salt : d.salt.getD 0 % 2 ^ 256 = d.salt.getD 0 := by
    cases hs : d.salt with
    | none => rfl
    | some s => simpa using Nat.mod_eq_of_lt (salted s hs)
  cases d
  simp [ofWords, wordValues, flagWord_ne_zero, profit, salt]

theorem decode_encode (d : Payload) (fits : ∀ p ∈ d.minProfit, 0 ≤ p ∧ p < 2 ^ 256)
    (salted : ∀ s ∈ d.salt, s < 2 ^ 256) :
    decode (d.wordValues.flatMap Abi.word) =
      .ok { d with minProfit := some (d.minProfit.getD 0), salt := some (d.salt.getD 0) } := by
  have sized : (d.wordValues.flatMap Abi.word).length = 288 := by simp [wordValues]
  have read : ofWords (fun i => Abi.wordAt (d.wordValues.flatMap Abi.word) (32 * i)) =
      ofWords (fun i => d.wordValues.getD i 0) := by
    apply ofWords_congr
    intro i hi
    have inside : i < d.wordValues.length := by simpa using hi
    rw [Abi.wordAt, Abi.slice_flatMap_word _ i inside, Abi.toNat_word,
      Nat.mod_eq_of_lt (wordValues_lt d fits _ (List.getElem_mem inside)),
      List.getD_eq_getElem _ _ inside]
  rw [decode_eq_ofWords _ sized, read, ofWords_wordValues d fits salted]

theorem address_word_iff {w : Nat} (hw : w < 2 ^ 256) :
    (Address.ofNat w).toNat % 2 ^ 256 = w % 2 ^ 256 ↔ w < 2 ^ 160 := by
  have small : w % 2 ^ 160 < 2 ^ 256 := lt_trans (Nat.mod_lt _ (by norm_num)) (by norm_num)
  rw [Address.toNat_ofNat, Nat.mod_eq_of_lt hw, Nat.mod_eq_of_lt small]
  exact ⟨fun e => e ▸ Nat.mod_lt _ (by norm_num), Nat.mod_eq_of_lt⟩

theorem flag_word_iff {w : Nat} (hw : w < 2 ^ 256) :
    flagWord (w != 0) % 2 ^ 256 = w % 2 ^ 256 ↔ w ≤ 1 := by
  rw [Nat.mod_eq_of_lt hw]
  by_cases zero : w = 0
  · simp [zero, flagWord]
  · have one : flagWord (w != 0) = 1 := by simp [flagWord, zero]
    rw [one]
    omega

theorem decode_bind_encode_eq_iff (b : Bytes) (h : b.length = 288) :
    (decode b >>= encode) = .ok b ↔
      (∀ i ∈ [0, 1, 2, 6], b.slice (32 * i) 12 = List.replicate 12 0) ∧
      ∀ i ∈ [3, 4, 5], Abi.wordAt b (32 * i) ≤ 1 := by
  have fits : ∀ p ∈ (ofWords fun i => Abi.wordAt b (32 * i)).minProfit, 0 ≤ p ∧ p < 2 ^ 256 := by
    simp only [ofWords, Option.mem_def, Option.some.injEq, forall_eq']
    exact ⟨by positivity, by exact_mod_cast Abi.wordAt_lt b _⟩
  have whole := Abi.eq_flatMap_wordAt b 9 (by omega)
  have address : ∀ o, (Address.ofNat (Abi.wordAt b o)).toNat % 2 ^ 256 = Abi.wordAt b o % 2 ^ 256 ↔
      Abi.wordAt b o < 2 ^ 160 := fun o => address_word_iff (Abi.wordAt_lt b o)
  have flag : ∀ o, flagWord (Abi.wordAt b o != 0) % 2 ^ 256 = Abi.wordAt b o % 2 ^ 256 ↔
      Abi.wordAt b o ≤ 1 := fun o => flag_word_iff (Abi.wordAt_lt b o)
  have nine : List.range 9 = [0, 1, 2, 3, 4, 5, 6, 7, 8] := rfl
  rw [decode_eq_ofWords b h]
  simp only [bind, Except.bind]
  rw [encode_eq_ok _ fits, Except.ok.injEq]
  conv_lhs => rhs; rw [whole]
  rw [Abi.flatMap_word_eq_iff _ _ (by simp [wordValues])]
  simp only [nine, List.map_cons, List.map_nil, wordValues, ofWords, List.forall₂_cons,
    List.Forall₂.nil, and_true, List.forall_mem_cons, List.not_mem_nil, IsEmpty.forall_iff,
    implies_true, address, flag, Option.getD_some, Int.toNat_natCast, Nat.mod_mod]
  rw [← Abi.wordAt_lt_iff b _ (by omega), ← Abi.wordAt_lt_iff b _ (by omega),
    ← Abi.wordAt_lt_iff b _ (by omega), ← Abi.wordAt_lt_iff b _ (by omega)]
  tauto

end Payload

/-- The payload codec. -/
theorem payload_codec_round_trip :
    (∀ d : Payload, (∀ p ∈ d.minProfit, 0 ≤ p ∧ p < 2 ^ 256) → (∀ s ∈ d.salt, s < 2 ^ 256) →
      ∃ bs, d.encode = .ok bs ∧ bs.length = 288 ∧
        Payload.decode bs =
          .ok { d with minProfit := some (d.minProfit.getD 0), salt := some (d.salt.getD 0) }) ∧
    (∀ d : Payload,
      (∃ f, d.encode = .error f) ↔ ∃ p, d.minProfit = some p ∧ (p < 0 ∨ 2 ^ 256 ≤ p)) ∧
    (∀ b : Bytes, (∃ f, Payload.decode b = .error f) ↔ b.length ≠ 288) ∧
    ∀ b : Bytes, b.length = 288 →
      ((Payload.decode b >>= Payload.encode) = .ok b ↔
        (∀ i ∈ [0, 1, 2, 6], b.slice (32 * i) 12 = List.replicate 12 0) ∧
        ∀ i ∈ [3, 4, 5], Abi.wordAt b (32 * i) ≤ 1) :=
  ⟨fun d fits salted => ⟨_, Payload.encode_eq_ok d fits, by simp [Payload.wordValues],
      Payload.decode_encode d fits salted⟩,
    Payload.encode_eq_error_iff, Payload.decode_eq_error_iff, Payload.decode_bind_encode_eq_iff⟩

/-- A payload selling into a constant-product pool first, with a profit guard of 12345 and salt
7, reads back; 288 zero bytes read and written back are themselves. -/
theorem payload_codec_sample :
    let d : Payload :=
      { firstPool := Address.ofNat 0xbbbb, secondPool := Address.ofNat 0xaaaa,
        zeroForOne := true, firstIsConstProd := true, minProfit := some 12345, salt := some 7 }
    ((∀ p ∈ d.minProfit, 0 ≤ p ∧ p < 2 ^ 256) ∧ (∀ s ∈ d.salt, s < 2 ^ 256) ∧
      ∃ bs, d.encode = .ok bs ∧ bs.length = 288 ∧ Payload.decode bs =
        .ok { d with minProfit := some (d.minProfit.getD 0), salt := some (d.salt.getD 0) }) ∧
    (List.replicate 288 0 : Bytes).length = 288 ∧
      (Payload.decode (List.replicate 288 0) >>= Payload.encode) = .ok (List.replicate 288 0) := by
  intro d
  have fits : ∀ p ∈ d.minProfit, 0 ≤ p ∧ p < 2 ^ 256 := by
    rintro p ⟨⟩
    norm_num
  have salted : ∀ s ∈ d.salt, s < 2 ^ 256 := by
    rintro s ⟨⟩
    norm_num
  have zeros : (List.replicate 288 0 : Bytes).length = 288 := List.length_replicate
  refine ⟨⟨fits, salted, payload_codec_round_trip.1 d fits salted⟩, zeros, ?_⟩
  exact (payload_codec_round_trip.2.2.2 _ zeros).2 ⟨by decide +kernel, by decide +kernel⟩

end FlashArb
