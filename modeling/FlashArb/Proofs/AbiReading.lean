import Mathlib
import FlashArb.Abi.Decode
import FlashArb.Proofs.Words

/-! What the decoder reads at a head position whose word lies inside the data. -/
namespace FlashArb

@[simp] theorem Address.ofNat_toNat (a : Address) : Address.ofNat a.toNat = a := by
  cases a with
  | mk n h => simp [Address.ofNat, Nat.mod_eq_of_lt h]

@[simp] theorem Address.toNat_ofNat (n : Nat) : (Address.ofNat n).toNat = n % 2 ^ 160 := rfl

theorem Address.toNat_lt_word (a : Address) : a.toNat < 2 ^ 256 :=
  lt_trans a.isLt (by norm_num)

namespace Abi

theorem wordAt_lt (b : Bytes) (o : Nat) : wordAt b o < 2 ^ 256 := by
  have bound := Bytes.toNat_lt (b.slice o 32)
  have short : (b.slice o 32).length ≤ 32 := by simp [Bytes.slice]
  calc wordAt b o < 256 ^ (b.slice o 32).length := bound
    _ ≤ 256 ^ 32 := Nat.pow_le_pow_right (by norm_num) short
    _ = 2 ^ 256 := by norm_num

theorem wordAt_lt_iff (b : Bytes) (o : Nat) (room : o + 32 ≤ b.length) :
    wordAt b o < 2 ^ 160 ↔ b.slice o 12 = List.replicate 12 0 := by
  have split : b.slice o 32 = b.slice o 12 ++ b.slice (o + 12) 20 := by
    rw [Bytes.slice, Bytes.slice, Bytes.slice, show 32 = 12 + 20 from rfl, List.take_add,
      List.drop_drop]
  have high : (b.slice o 12).length = 12 := by simp [Bytes.slice]; omega
  have low : (b.slice (o + 12) 20).length = 20 := by simp [Bytes.slice]; omega
  have lowBound := Bytes.toNat_lt (b.slice (o + 12) 20)
  rw [low] at lowBound
  have zero : b.slice o 12 = List.replicate 12 0 ↔ Bytes.toNat (b.slice o 12) = 0 := by
    rw [Bytes.toNat_eq_zero_iff, high]
  rw [wordAt, split, Bytes.toNat_append, low, zero, show (2 : Nat) ^ 160 = 256 ^ 20 by norm_num]
  constructor
  · intro h
    by_contra nonzero
    have : 256 ^ 20 ≤ Bytes.toNat (b.slice o 12) * 256 ^ 20 :=
      Nat.le_mul_of_pos_left _ (Nat.pos_of_ne_zero nonzero)
    omega
  · intro h
    rw [h]
    omega

theorem eq_flatMap_wordAt (b : Bytes) (k : Nat) (h : b.length = 32 * k) :
    b = ((List.range k).map fun i => wordAt b (32 * i)).flatMap word := by
  induction k generalizing b with
  | zero => simpa using h
  | succ k ih =>
    have first : b.take 32 = word (wordAt b 0) := by
      have := Bytes.ofNat_toNat (b.take 32)
      rw [List.length_take, show min 32 b.length = 32 by omega] at this
      simpa [wordAt, Bytes.slice, word] using this.symm
    have rest := ih (b.drop 32) (by simp; omega)
    have shift : ∀ i, wordAt (b.drop 32) (32 * i) = wordAt b (32 * (i + 1)) := by
      intro i
      simp only [wordAt, Bytes.slice, List.drop_drop]
      congr 3
      ring
    simp only [shift] at rest
    rw [List.range_succ_eq_map, List.map_cons, List.map_map, List.flatMap_cons]
    simp only [Function.comp_def, Nat.succ_eq_add_one, Nat.mul_zero]
    conv_lhs => rw [← List.take_append_drop 32 b, first, rest]

theorem wordAt_flatMap_append (ns : List Nat) (rest : Bytes) {o i : Nat} (ho : o = 32 * i)
    (hi : i < ns.length) : wordAt (ns.flatMap word ++ rest) o = ns[i] % 2 ^ 256 := by
  have inside : o + 32 ≤ (ns.flatMap word).length := by
    rw [length_flatMap_word]
    omega
  rw [wordAt, Bytes.slice, List.drop_append_of_le_length (by omega),
    List.take_append_of_le_length (by simp; omega), ← Bytes.slice, ho,
    slice_flatMap_word ns i hi, toNat_word]

theorem wordAt_drop (b : Bytes) (k o : Nat) : wordAt (b.drop k) o = wordAt b (k + o) := by
  simp [wordAt, Bytes.slice, List.drop_drop]

variable {output : Bytes} {index : Nat}

theorem decodeAt_address (h : index + 32 ≤ output.length) :
    decodeAt .address index output = .ok (.address (Address.ofNat (wordAt output index))) := by
  rw [decodeAt, if_neg (by omega)]

theorem decodeAt_uint {bits : Nat} (unchecked : checkedWidth bits = false)
    (h : index + 32 ≤ output.length) :
    decodeAt (.uint bits) index output = .ok (.uint (wordAt output index)) := by
  rw [decodeAt, if_neg (by omega)]
  simp [readUint, unchecked]

theorem decodeAt_int {bits : Nat} (unchecked : checkedWidth bits = false)
    (h : index + 32 ≤ output.length) :
    decodeAt (.int bits) index output = .ok (.int (signed (wordAt output index))) := by
  rw [decodeAt, if_neg (by omega)]
  simp [readInt, unchecked]

theorem decodeAt_bool (h : index + 32 ≤ output.length) :
    decodeAt .bool index output = readBool (wordAt output index) := by
  rw [decodeAt, if_neg (by omega)]

theorem lengthPrefix_eq_ok
    (inside : wordAt output index + 32 + wordAt output (wordAt output index) ≤ output.length)
    (small : wordAt output index + 32 + wordAt output (wordAt output index) < 2 ^ 63) :
    lengthPrefix index output =
      .ok (wordAt output index + 32, wordAt output (wordAt output index)) := by
  have offset : ¬ wordAt output index + 32 > output.length := by omega
  have fits : ¬ wordAt output index + 32 + wordAt output (wordAt output index) > output.length := by
    omega
  simp only [lengthPrefix, Nat.add_sub_cancel, offset, fits, not_le.mpr small]
  rfl

theorem decodeAt_bytes {start size : Nat} (h : index + 32 ≤ output.length)
    (found : lengthPrefix index output = .ok (start, size)) :
    decodeAt .bytes index output = .ok (.bytes (output.slice start size)) := by
  rw [decodeAt, if_neg (by omega)]
  simp only [found]
  rfl

theorem decodeAt_array_single {elem : Ty} {start : Nat} (h : index + 32 ≤ output.length)
    (found : lengthPrefix index output = .ok (start, 1)) (room : 32 ≤ output.length - start) :
    decodeAt (.array elem) index output =
      (fun v => .array [v]) <$> decodeAt elem 0 (output.drop start) := by
  rw [decodeAt, if_neg (by omega)]
  simp only [found, bind, Except.bind, List.length_drop, show ¬ 32 * 1 > output.length - start by omega,
    if_false, decodeRepeated]
  cases decodeAt elem 0 (output.drop start) <;> rfl

theorem signed_toNat_emod (i : Int) (lo : -2 ^ 255 ≤ i) (hi : i < 2 ^ 255) :
    signed ((i % 2 ^ 256).toNat) = i := by
  unfold signed
  split <;> omega

/-- Types read from one word with no check: addresses, and integers of the widths that are not
checked. -/
def Ty.isPlainWord : Ty → Bool
  | .address => true
  | .uint bits | .int bits => !checkedWidth bits
  | _ => false

/-- What a plain word type reads from the number of its word. -/
def Ty.readWord : Ty → Nat → Value
  | .address, n => .address (Address.ofNat n)
  | .int _, n => .int (signed n)
  | _, n => .uint n

theorem decodeAt_plainWord {t : Ty} (plain : t.isPlainWord = true)
    (h : index + 32 ≤ output.length) :
    decodeAt t index output = .ok (t.readWord (wordAt output index)) := by
  cases t <;> simp_all [Ty.isPlainWord, Ty.readWord, decodeAt_address, decodeAt_uint, decodeAt_int]

theorem headSize_of_isPlainWord {t : Ty} (plain : t.isPlainWord = true) : t.headSize = 32 := by
  cases t <;> simp_all [Ty.isPlainWord, Ty.headSize]

theorem wordAt_append_length (pre rest : Bytes) (n : Nat) :
    wordAt (pre ++ (word n ++ rest)) pre.length = n % 2 ^ 256 := by
  have first := wordAt_flatMap_append [n] rest (i := 0) rfl (by simp)
  simp only [List.flatMap_cons, List.flatMap_nil, List.append_nil, List.getElem_cons_zero] at first
  rw [← Nat.add_zero pre.length, ← wordAt_drop, List.drop_left, first]

theorem decodeItems_plainWords (rest : Bytes) (ts : List Ty) (ns : List Nat) (pre : Bytes)
    (plain : ∀ t ∈ ts, t.isPlainWord = true) (len : ts.length = ns.length) :
    decodeItems ts pre.length (pre ++ (ns.flatMap word ++ rest)) =
      .ok (List.zipWith (fun t n => t.readWord (n % 2 ^ 256)) ts ns) := by
  induction ts generalizing ns pre with
  | nil =>
    cases ns with
    | nil => simp [decodeItems]
    | cons _ _ => simp at len
  | cons t ts ih =>
    cases ns with
    | nil => simp at len
    | cons n ns =>
      have here : t.isPlainWord = true := plain t (by simp)
      have room : pre.length + 32 ≤ (pre ++ ((n :: ns).flatMap word ++ rest)).length := by simp
      have shift : pre ++ ((n :: ns).flatMap word ++ rest) =
          (pre ++ word n) ++ (ns.flatMap word ++ rest) := by simp
      have next := ih ns (pre ++ word n) (fun t h => plain t (by simp [h])) (by simpa using len)
      rw [List.length_append, length_word, ← shift] at next
      rw [decodeItems, decodeAt_plainWord here room, headSize_of_isPlainWord here, next,
        List.flatMap_cons, List.append_assoc, wordAt_append_length]
      rfl

theorem decodeArgs_plainWords (ts : List Ty) (ns : List Nat)
    (plain : ∀ t ∈ ts, t.isPlainWord = true) (len : ts.length = ns.length) (nonempty : ts ≠ []) :
    decodeArgs ts (ns.flatMap word) =
      .ok (List.zipWith (fun t n => t.readWord (n % 2 ^ 256)) ts ns) := by
  have long : ns.length ≠ 0 := by
    rw [← len]
    exact fun h => nonempty (List.eq_nil_of_length_eq_zero h)
  have some : (ns.flatMap word).isEmpty = false := by
    rw [Bool.eq_false_iff, ne_eq, List.isEmpty_iff, ← List.length_eq_zero_iff, length_flatMap_word]
    omega
  have items := decodeItems_plainWords [] ts ns [] plain len
  simp only [List.append_nil, List.nil_append, List.length_nil] at items
  rw [decodeArgs, some]
  exact items

end Abi

end FlashArb
