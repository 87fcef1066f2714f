import Mathlib
import FlashArb.Abi.Value

/-! Byte strings read as big-endian numbers. -/
namespace FlashArb

namespace Bytes

@[simp] theorem length_ofNat (w n : Nat) : (ofNat w n).length = w := by
  induction w generalizing n with
  | zero => rfl
  | succ w ih => simp [ofNat, ih]

theorem foldl_digits (bs : Bytes) (x : Nat) :
    bs.foldl (fun n b => n * 256 + b.toNat) x = x * 256 ^ bs.length + toNat bs := by
  induction bs generalizing x with
  | nil => simp [toNat]
  | cons c bs ih =>
    have head : toNat (c :: bs) = (0 * 256 + c.toNat) * 256 ^ bs.length + toNat bs :=
      ih (0 * 256 + c.toNat)
    rw [List.foldl_cons, ih, head, List.length_cons]
    ring

theorem toNat_append (a b : Bytes) : toNat (a ++ b) = toNat a * 256 ^ b.length + toNat b := by
  rw [toNat, List.foldl_append, foldl_digits]
  rfl

@[simp] theorem toNat_nil : toNat [] = 0 := rfl

theorem toNat_concat (a : Bytes) (c : UInt8) : toNat (a ++ [c]) = toNat a * 256 + c.toNat := by
  simp [toNat]

theorem toNat_ofNat (w n : Nat) : toNat (ofNat w n) = n % 256 ^ w := by
  induction w generalizing n with
  | zero => simp [ofNat, Nat.mod_one]
  | succ w ih =>
    have low : (UInt8.ofNat (n % 256)).toNat = n % 256 := by simp
    rw [ofNat, toNat_concat, ih, low, pow_succ', Nat.mod_mul]
    omega

theorem toNat_lt (bs : Bytes) : toNat bs < 256 ^ bs.length := by
  induction bs using List.reverseRecOn with
  | nil => simp
  | append_singleton a c ih =>
    have hc : c.toNat < 256 := c.toNat_lt
    rw [toNat_concat, List.length_append, List.length_singleton, pow_succ]
    omega

theorem ofNat_toNat (bs : Bytes) : ofNat bs.length (toNat bs) = bs := by
  induction bs using List.reverseRecOn with
  | nil => rfl
  | append_singleton a c ih =>
    have hc : c.toNat < 256 := c.toNat_lt
    have hdiv : (toNat a * 256 + c.toNat) / 256 = toNat a := by omega
    have hmod : (toNat a * 256 + c.toNat) % 256 = c.toNat := by omega
    rw [List.length_append, List.length_singleton, ofNat, toNat_concat, hdiv, hmod, ih,
      UInt8.ofNat_toNat]

theorem ofNat_eq_ofNat_iff (w a b : Nat) : ofNat w a = ofNat w b ↔ a % 256 ^ w = b % 256 ^ w := by
  constructor
  · intro h
    rw [← toNat_ofNat, ← toNat_ofNat, h]
  · intro h
    have ha := ofNat_toNat (ofNat w a)
    have hb := ofNat_toNat (ofNat w b)
    rw [length_ofNat, toNat_ofNat] at ha hb
    rw [← ha, ← hb, h]

theorem toNat_eq_zero_iff (bs : Bytes) : toNat bs = 0 ↔ bs = List.replicate bs.length 0 := by
  induction bs using List.reverseRecOn with
  | nil => simp
  | append_singleton a c ih =>
    rw [toNat_concat, List.length_append, List.length_singleton, List.replicate_succ',
      List.append_eq_append_iff_of_size_eq_left (by simp), ← ih, List.singleton_inj,
      ← UInt8.toNat_inj, UInt8.toNat_zero]
    omega

end Bytes

namespace Abi

@[simp] theorem length_word (n : Nat) : (word n).length = 32 := Bytes.length_ofNat 32 n

@[simp] theorem length_flatMap_word (ns : List Nat) : (ns.flatMap word).length = 32 * ns.length := by
  induction ns with
  | nil => rfl
  | cons n ns ih =>
    rw [List.flatMap_cons, List.length_append, ih, length_word, List.length_cons]
    ring

theorem toNat_word (n : Nat) : Bytes.toNat (word n) = n % 2 ^ 256 := by
  rw [word, Bytes.toNat_ofNat]

theorem word_eq_word_iff (a b : Nat) : word a = word b ↔ a % 2 ^ 256 = b % 2 ^ 256 := by
  rw [word, word, Bytes.ofNat_eq_ofNat_iff]

theorem slice_flatMap_word (ns : List Nat) (i : Nat) (h : i < ns.length) :
    Bytes.slice (ns.flatMap word) (32 * i) 32 = word ns[i] := by
  induction ns generalizing i with
  | nil => cases h
  | cons n ns ih =>
    rw [List.flatMap_cons]
    cases i with
    | zero => simp [Bytes.slice]
    | succ i =>
      have hi : i < ns.length := by simpa using h
      have skip : 32 * (i + 1) = (word n).length + 32 * i := by simp; ring
      rw [Bytes.slice, skip, List.drop_length_add_append, ← Bytes.slice, ih i hi]
      simp

theorem flatMap_word_eq_iff (ms ns : List Nat) (h : ms.length = ns.length) :
    ms.flatMap word = ns.flatMap word ↔ List.Forall₂ (fun a b => a % 2 ^ 256 = b % 2 ^ 256) ms ns := by
  induction ms generalizing ns with
  | nil =>
    cases ns with
    | nil => simp
    | cons _ _ => simp at h
  | cons m ms ih =>
    cases ns with
    | nil => simp at h
    | cons n ns =>
      rw [List.flatMap_cons, List.flatMap_cons, List.append_eq_append_iff_of_size_eq_left (by simp),
        word_eq_word_iff, ih ns (by simpa using h), List.forall₂_cons]

end Abi

end FlashArb
