import Mathlib
import FlashArb.Chain.BlockRange

/-! `splitRange first last size` refuses a batch size of zero and a range that runs backwards. -/
namespace FlashArb

theorem batch_stop_within {start last size : UInt64} (positive : 0 < size) (le : start ≤ last) :
    start.toNat ≤ (if last - start ≥ size then start + size - 1 else last).toNat ∧
      (if last - start ≥ size then start + size - 1 else last).toNat ≤ last.toNat := by
  have := start.toNat_lt
  have := size.toNat_lt
  have := last.toNat_lt
  split
  all_goals
    simp only [ge_iff_le, UInt64.le_iff_toNat_le, UInt64.lt_iff_toNat_lt, UInt64.toNat_sub,
      UInt64.toNat_add, UInt64.toNat_one, UInt64.toNat_zero] at *
    omega

theorem batch_next_start {stop last : UInt64} (within : stop.toNat ≤ last.toNat) (more : stop ≠ last) :
    stop.toNat < last.toNat ∧ (stop + 1).toNat = stop.toNat + 1 := by
  have ne : stop.toNat ≠ last.toNat := fun h => more (UInt64.toNat_inj.1 h)
  have := last.toNat_lt
  rw [UInt64.toNat_add, UInt64.toNat_one]
  omega

theorem batches_ordered {size : UInt64} (positive : 0 < size) (count : Nat) :
    ∀ {start last : UInt64}, start ≤ last →
      (∀ r ∈ batches start last size count, start.toNat ≤ r.first.toNat) ∧
        (batches start last size count).Pairwise (fun a b => a.last.toNat < b.first.toNat) := by
  induction count with
  | zero => simp [batches]
  | succ count ih =>
    intro start last le
    have within := batch_stop_within positive le
    rw [batches]
    generalize (if last - start ≥ size then start + size - 1 else last) = stop at within ⊢
    split
    · simp
    · rename_i more
      obtain ⟨short, next⟩ := batch_next_start within.2 (by simpa using more)
      obtain ⟨later, ordered⟩ := ih (UInt64.le_iff_toNat_le.2 (by omega) : stop + 1 ≤ last)
      refine ⟨?_, List.pairwise_cons.2 ⟨fun r mem => ?_, ordered⟩⟩
      · intro r mem
        rcases List.mem_cons.1 mem with rfl | mem
        · simp
        · have := later r mem
          omega
      · have := later r mem
        dsimp only
        omega

theorem splitRange_ordered {first last size : UInt64} {ranges : List BlockRange}
    (split : splitRange first last size = .ok ranges) :
    first ≤ last ∧ (∀ r ∈ ranges, first.toNat ≤ r.first.toNat) ∧
      ranges.Pairwise (fun a b => a.last.toNat < b.first.toNat) := by
  unfold splitRange at split
  split_ifs at split with zero back
  cases split
  have positive : 0 < size := by
    rw [UInt64.lt_iff_toNat_lt]
    have : size.toNat ≠ 0 := fun h => by simp_all [← UInt64.toNat_inj]
    simp only [UInt64.toNat_zero]
    omega
  have forward : first ≤ last := by
    rw [UInt64.le_iff_toNat_le]
    rw [UInt64.lt_iff_toNat_lt] at back
    omega
  exact ⟨forward, batches_ordered positive _ forward⟩

namespace BlockRange

/-- The batches of `size` blocks from block `start` to block `last`, in the order the loop cuts
them. -/
inductive Batched (size : ℕ) : ℕ → ℕ → List BlockRange → Prop
  /-- What is left, at least one block and fewer than `size` past the first, is the last batch. -/
  | final {start last : ℕ} {r : BlockRange} (first : r.first.toNat = start)
      (stop : r.last.toNat = last) (within : start ≤ last) (short : last - start < size) :
      Batched size start last [r]
  /-- A batch of `size` blocks, then the batches from the block after it. -/
  | full {start last : ℕ} {r : BlockRange} {rest : List BlockRange} (first : r.first.toNat = start)
      (stop : r.last.toNat + 1 = start + size) (more : Batched size (start + size) last rest) :
      Batched size start last (r :: rest)

namespace Batched

variable {size start last : ℕ} {ranges : List BlockRange}

theorem start_le (h : Batched size start last ranges) : start ≤ last := by
  induction h with
  | final _ _ within _ => exact within
  | full _ _ _ ih => omega

theorem head?_first (h : Batched size start last ranges) :
    ranges.head?.map (·.first.toNat) = some start := by
  cases h with
  | final first => simp [first]
  | full first => simp [first]

theorem getLast?_last (h : Batched size start last ranges) :
    ranges.getLast?.map (·.last.toNat) = some last := by
  induction h with
  | final _ stop => simp [stop]
  | @full _ _ r rest _ _ more ih =>
    obtain ⟨r', rest', rfl⟩ : ∃ r' rest', rest = r' :: rest' := by
      cases more with
      | final => exact ⟨_, _, rfl⟩
      | full => exact ⟨_, _, rfl⟩
    simpa [List.getLast?_cons_cons] using ih

theorem consecutive (h : Batched size start last ranges) :
    ranges.IsChain fun r r' => r'.first.toNat = r.last.toNat + 1 := by
  induction h with
  | final => exact .singleton _
  | full _ stop more ih =>
    refine List.isChain_cons.2 ⟨fun r' mem => ?_, ih⟩
    have next := more.head?_first
    rw [mem] at next
    simp only [Option.map_some, Option.some.injEq] at next
    omega

theorem full_length (h : Batched size start last ranges) :
    ∀ r ∈ ranges.dropLast, r.last.toNat + 1 = r.first.toNat + size := by
  induction h with
  | final => simp
  | @full _ _ r rest first stop more ih =>
    obtain ⟨r', rest', rfl⟩ : ∃ r' rest', rest = r' :: rest' := by
      cases more with
      | final => exact ⟨_, _, rfl⟩
      | full => exact ⟨_, _, rfl⟩
    intro r'' mem
    rw [List.dropLast_cons_cons, List.mem_cons] at mem
    rcases mem with rfl | mem
    · omega
    · exact ih r'' mem

theorem final_length (h : Batched size start last ranges) :
    ∀ r ∈ ranges.getLast?, r.first.toNat ≤ r.last.toNat ∧ r.last.toNat - r.first.toNat < size := by
  induction h with
  | final first stop within short =>
    intro r mem
    simp only [List.getLast?_singleton, Option.mem_def, Option.some.injEq] at mem
    subst mem
    omega
  | @full _ _ r rest _ _ more ih =>
    obtain ⟨r', rest', rfl⟩ : ∃ r' rest', rest = r' :: rest' := by
      cases more with
      | final => exact ⟨_, _, rfl⟩
      | full => exact ⟨_, _, rfl⟩
    simpa [List.getLast?_cons_cons] using ih

theorem length_eq (positive : 0 < size) (h : Batched size start last ranges) :
    ranges.length = (last - start + 1) ⌈/⌉ size := by
  rw [Nat.ceilDiv_eq_add_pred_div]
  induction h with
  | @final start last _ _ _ within short =>
    have one : (last - start + 1 + size - 1) / size = 1 := by
      rw [Nat.div_eq_iff positive]
      omega
    rw [List.length_singleton, one]
  | @full start last _ rest _ _ more ih =>
    have past := more.start_le
    have step : last - start + 1 + size - 1 = (last - (start + size) + 1 + size - 1) + size := by
      omega
    rw [List.length_cons, ih, step, Nat.add_div_right _ positive]

end Batched

end BlockRange

section Split

variable {start last size : UInt64}

theorem batch_stop_toNat (positive : 0 < size) (le : start ≤ last) :
    (if last - start ≥ size then start + size - 1 else last).toNat =
      min (start.toNat + size.toNat - 1) last.toNat := by
  have := last.toNat_lt
  have pos := UInt64.lt_iff_toNat_lt.1 positive
  have le' := UInt64.le_iff_toNat_le.1 le
  split
  · rename_i room
    have room' := UInt64.le_iff_toNat_le.1 room
    rw [UInt64.toNat_sub_of_le _ _ le] at room'
    -- `start + size` does not wrap: it is at most `last`
    have sum : (start + size).toNat = start.toNat + size.toNat := by
      rw [UInt64.toNat_add, Nat.mod_eq_of_lt (by omega)]
    have one : (1 : UInt64) ≤ start + size := by
      rw [UInt64.le_iff_toNat_le, sum, UInt64.toNat_one]
      simp only [UInt64.toNat_zero] at pos
      omega
    rw [UInt64.toNat_sub_of_le _ _ one, sum, UInt64.toNat_one]
    omega
  · rename_i short
    rw [ge_iff_le, UInt64.le_iff_toNat_le, UInt64.toNat_sub_of_le _ _ le] at short
    omega

theorem batches_batched (positive : 0 < size) :
    ∀ count {start : UInt64}, start ≤ last → count = ((last - start) / size).toNat + 1 →
      BlockRange.Batched size.toNat start.toNat last.toNat (batches start last size count) := by
  have pos := UInt64.lt_iff_toNat_lt.1 positive
  intro count
  induction count with
  | zero => intro _ _ h; omega
  | succ count ih =>
    intro start le rounds
    have le' := UInt64.le_iff_toNat_le.1 le
    rw [UInt64.toNat_div, UInt64.toNat_sub_of_le _ _ le] at rounds
    have stopAt := batch_stop_toNat positive le
    rw [batches]
    generalize (if last - start ≥ size then start + size - 1 else last) = stop at stopAt ⊢
    by_cases ends : stop = last
    · subst ends
      simp only [beq_self_eq_true, ↓reduceIte]
      exact .final rfl rfl le' (by omega)
    · have within : stop.toNat ≤ last.toNat := by omega
      obtain ⟨short, next⟩ := batch_next_start within ends
      have nextLe : stop + 1 ≤ last := UInt64.le_iff_toNat_le.2 (by omega)
      have fewer : count = ((last - (stop + 1)) / size).toNat + 1 := by
        rw [UInt64.toNat_div, UInt64.toNat_sub_of_le _ _ nextLe, next]
        have := Nat.div_eq_sub_div pos (show size.toNat ≤ last.toNat - start.toNat by omega)
        rw [show last.toNat - (stop.toNat + 1) = last.toNat - start.toNat - size.toNat by omega]
        omega
      simp only [beq_iff_eq, ends, ↓reduceIte]
      refine .full rfl (by dsimp only; omega) ?_
      have more := ih nextLe fewer
      rwa [next, show stop.toNat + 1 = start.toNat + size.toNat by omega] at more

theorem batches_add_rounds (positive : 0 < size) :
    ∀ count extra {start : UInt64}, start ≤ last → count = ((last - start) / size).toNat + 1 →
      batches start last size (count + extra) = batches start last size count := by
  intro count
  induction count with
  | zero => intro _ _ _ h; omega
  | succ count ih =>
    intro extra start le rounds
    have le' := UInt64.le_iff_toNat_le.1 le
    have pos := UInt64.lt_iff_toNat_lt.1 positive
    rw [UInt64.toNat_div, UInt64.toNat_sub_of_le _ _ le] at rounds
    have stopAt := batch_stop_toNat positive le
    rw [Nat.add_right_comm, batches, batches]
    generalize (if last - start ≥ size then start + size - 1 else last) = stop at stopAt ⊢
    by_cases ends : stop = last
    · simp [ends]
    · have within : stop.toNat ≤ last.toNat := by omega
      obtain ⟨short, next⟩ := batch_next_start within ends
      have nextLe : stop + 1 ≤ last := UInt64.le_iff_toNat_le.2 (by omega)
      have fewer : count = ((last - (stop + 1)) / size).toNat + 1 := by
        rw [UInt64.toNat_div, UInt64.toNat_sub_of_le _ _ nextLe, next]
        have := Nat.div_eq_sub_div pos (show size.toNat ≤ last.toNat - start.toNat by omega)
        rw [show last.toNat - (stop.toNat + 1) = last.toNat - start.toNat - size.toNat by omega]
        omega
      simp only [beq_iff_eq, ends, ↓reduceIte, ih extra nextLe fewer]

end Split

/-- `ranges` tile the blocks `[first, last]` with batches of `size` blocks. -/
structure Tiles (first last size : UInt64) (ranges : List BlockRange) : Prop where
  /-- The first batch starts at `first`. -/
  starts : ranges.head?.map BlockRange.first = some first
  /-- The last batch ends at `last`. -/
  ends : ranges.getLast?.map BlockRange.last = some last
  /-- Each batch starts at the block after the end of the one before, with no wrap-around. -/
  consecutive : ranges.IsChain fun r r' => r'.first.toNat = r.last.toNat + 1
  /-- Every batch but the last holds `size` blocks. -/
  full : ∀ r ∈ ranges.dropLast, r.len = size
  /-- The last batch holds at least one block and at most `size`. -/
  rest : ∀ r ∈ ranges.getLast?, 1 ≤ r.len.toNat ∧ r.len.toNat ≤ size.toNat
  /-- There are `⌈(last - first + 1) / size⌉` batches. -/
  count : ranges.length = (last.toNat - first.toNat + 1) ⌈/⌉ size.toNat

theorem BlockRange.len_toNat {r : BlockRange} (forward : r.first.toNat ≤ r.last.toNat)
    (fits : r.last.toNat - r.first.toNat + 1 < 2 ^ 64) :
    r.len.toNat = r.last.toNat - r.first.toNat + 1 := by
  have forward' : r.first ≤ r.last := UInt64.le_iff_toNat_le.2 forward
  rw [BlockRange.len, UInt64.toNat_add, UInt64.toNat_sub_of_le _ _ forward', UInt64.toNat_one,
    Nat.mod_eq_of_lt fits]

theorem BlockRange.Batched.tiles {first last size : UInt64} {ranges : List BlockRange}
    (positive : 0 < size) (h : Batched size.toNat first.toNat last.toNat ranges) :
    Tiles first last size ranges := by
  have pos := UInt64.lt_iff_toNat_lt.1 positive
  have bound := size.toNat_lt
  refine ⟨?_, ?_, h.consecutive, fun r mem => ?_, fun r mem => ?_, h.length_eq pos⟩
  · have starts := h.head?_first
    cases head : ranges.head? with
    | none => simp [head] at starts
    | some r =>
      simp only [head, Option.map_some, Option.some.injEq] at starts ⊢
      exact UInt64.toNat_inj.1 starts
  · have ends := h.getLast?_last
    cases final : ranges.getLast? with
    | none => simp [final] at ends
    | some r =>
      simp only [final, Option.map_some, Option.some.injEq] at ends ⊢
      exact UInt64.toNat_inj.1 ends
  · have sized := h.full_length r mem
    apply UInt64.toNat_inj.mp
    rw [BlockRange.len_toNat (by omega) (by omega)]
    omega
  · obtain ⟨forward, short⟩ := h.final_length r mem
    rw [BlockRange.len_toNat forward (by omega)]
    omega

/-- Splitting `[first, last]` into batches of `size` blocks fails exactly for a zero size or a
backward range; otherwise the batches tile the range, all but the last of `size` blocks, `⌈(last
- first + 1) / size⌉` of them, and more rounds cut the same batches. -/
theorem splitRange_tiles (first last size : UInt64) :
    ((∃ f, splitRange first last size = .error f) ↔ size = 0 ∨ last < first) ∧
      (0 < size → first ≤ last → ∃ ranges, splitRange first last size = .ok ranges ∧
        Tiles first last size ranges ∧
        ∀ extra, batches first last size (ranges.length + extra) = ranges) := by
  refine ⟨?_, fun positive forward => ?_⟩
  · unfold splitRange
    by_cases zero : size = 0
    · simp [zero]
    · by_cases back : last < first <;> simp [zero, back]
  · have nonzero : size ≠ 0 := by
      intro h
      simp [h] at positive
    have notBack : ¬ last < first := by
      rw [UInt64.lt_iff_toNat_lt]
      have := UInt64.le_iff_toNat_le.1 forward
      omega
    have pos := UInt64.lt_iff_toNat_lt.1 positive
    have batched := batches_batched positive _ forward rfl
    refine ⟨_, by simp [splitRange, nonzero, notBack], batched.tiles positive, fun extra => ?_⟩
    have rounds : (batches first last size (((last - first) / size).toNat + 1)).length =
        ((last - first) / size).toNat + 1 := by
      have := UInt64.le_iff_toNat_le.1 forward
      rw [batched.length_eq pos, Nat.ceilDiv_eq_add_pred_div, UInt64.toNat_div,
        UInt64.toNat_sub_of_le _ _ forward,
        show last.toNat - first.toNat + 1 + size.toNat - 1 = last.toNat - first.toNat + size.toNat by
          omega,
        Nat.add_div_right _ pos]
    rw [rounds, batches_add_rounds positive _ extra forward rfl]

/-- Three blocks ending at the largest block number, in batches of two. -/
theorem split_near_max_block :
    (0 : UInt64) < 2 ∧ (18446744073709551613 : UInt64) ≤ 18446744073709551615 ∧
      ∃ ranges, splitRange 18446744073709551613 18446744073709551615 2 = .ok ranges ∧
        Tiles 18446744073709551613 18446744073709551615 2 ranges ∧
        ∀ extra, batches 18446744073709551613 18446744073709551615 2 (ranges.length + extra) =
          ranges :=
  ⟨by decide, by decide, (splitRange_tiles _ _ _).2 (by decide) (by decide)⟩

end FlashArb
