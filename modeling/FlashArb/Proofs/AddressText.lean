import Mathlib
import FlashArb.Config.Basic
import FlashArb.Engine.Parse
import FlashArb.Proofs.AbiReading

/-! An address is written as forty hexadecimal digits, with or without a `0x` prefix. -/
namespace FlashArb

theorem Char.le_iff_toNat {a b : Char} : a ≤ b ↔ a.toNat ≤ b.toNat := by
  simp only [Char.le_def, UInt32.le_iff_toNat_le, Char.toNat_val]

/-- Two characters that are the same up to case. -/
def SameUpToCase (a b : Char) : Prop := Text.lowerChar a = Text.lowerChar b

namespace Bytes

theorem hexValue?_eq_some {c : Char} {v : Nat} (h : hexValue? c = some v) :
    48 ≤ c.toNat ∧ c.toNat < 128 ∧ v < 16 ∧
      Text.lowerChar c = Char.ofNat (if v < 10 then 48 + v else 87 + v) := by
  unfold hexValue? at h
  unfold Text.lowerChar
  simp only [Char.isDigit_iff_toNat, Char.le_iff_toNat, Char.reduceToNat, Bool.and_eq_true,
    decide_eq_true_eq] at h ⊢
  split_ifs at h with digit lower upper <;> simp only [Option.some.injEq] at h <;> subst h
  · refine ⟨by omega, by omega, by omega, ?_⟩
    rw [if_pos (by omega), if_neg (by omega), if_pos (by omega),
      Nat.add_sub_cancel' (by omega), Char.ofNat_toNat]
  · refine ⟨by omega, by omega, by omega, ?_⟩
    rw [if_pos (by omega), if_neg (by omega), if_neg (by omega),
      Nat.add_sub_cancel' (by omega), Char.ofNat_toNat]
  · refine ⟨by omega, by omega, by omega, ?_⟩
    rw [if_pos (by omega), if_pos (by omega), if_neg (by omega)]
    congr 1
    omega

theorem hexValue?_lt {c : Char} {v : Nat} (h : hexValue? c = some v) : v < 16 :=
  (hexValue?_eq_some h).2.2.1

theorem sameUpToCase_of_hexValue? {a b : Char} {v : Nat} (ha : hexValue? a = some v)
    (hb : hexValue? b = some v) : SameUpToCase a b :=
  (hexValue?_eq_some ha).2.2.2.trans (hexValue?_eq_some hb).2.2.2.symm

theorem hexValue?_isSome (c : Char) :
    (hexValue? c).isSome = (c.isDigit || ('a' ≤ c && c ≤ 'f') || ('A' ≤ c && c ≤ 'F')) := by
  unfold hexValue?
  split_ifs with digit lower upper <;> simp_all

theorem length_of_ofHexChars {cs : List Char} {bs : Bytes} (h : ofHexChars cs = some bs) :
    cs.length = 2 * bs.length := by
  induction cs using ofHexChars.induct generalizing bs with
  | case1 => simp_all [ofHexChars]
  | case2 => simp [ofHexChars] at h
  | case3 a b rest x y r hr hy hx ih =>
    simp only [ofHexChars, hx, hy, hr, Option.some.injEq] at h
    subst h
    simp [ih hr]
    omega
  | case4 a b rest missing =>
    simp only [ofHexChars] at h
    cases h

theorem ofHexChars_isSome {cs : List Char} (digits : ∀ c ∈ cs, (hexValue? c).isSome)
    (even : cs.length % 2 = 0) : (ofHexChars cs).isSome := by
  induction cs using ofHexChars.induct with
  | case1 => rfl
  | case2 => simp at even
  | case3 a b rest x y r hr hy hx => simp [ofHexChars, hx, hy, hr]
  | case4 a b rest missing ih =>
    obtain ⟨x, hx⟩ := Option.isSome_iff_exists.mp (digits a (by simp))
    obtain ⟨y, hy⟩ := Option.isSome_iff_exists.mp (digits b (by simp))
    obtain ⟨r, hr⟩ := Option.isSome_iff_exists.mp
      (ih (fun c hc => digits c (by simp [hc])) (by simp at even; omega))
    exact (missing x y r hx hy hr).elim

theorem digits_of_byte_eq {x y x' y' : Nat} (hx : x < 16) (hy : y < 16) (hx' : x' < 16)
    (hy' : y' < 16) (h : UInt8.ofNat (16 * x + y) = UInt8.ofNat (16 * x' + y')) :
    x = x' ∧ y = y' := by
  have same := congrArg UInt8.toNat h
  rw [UInt8.toNat_ofNat', UInt8.toNat_ofNat'] at same
  omega

theorem sameUpToCase_of_ofHexChars {cs ds : List Char} {bs : Bytes} (hc : ofHexChars cs = some bs)
    (hd : ofHexChars ds = some bs) : List.Forall₂ SameUpToCase cs ds := by
  induction cs using ofHexChars.induct generalizing ds bs with
  | case1 =>
    simp only [ofHexChars, Option.some.injEq] at hc
    subst hc
    have := length_of_ofHexChars hd
    simp_all
  | case2 => simp [ofHexChars] at hc
  | case4 a b rest missing =>
    simp only [ofHexChars] at hc
    cases hc
  | case3 a b rest x y r hr hy hx ih =>
    simp only [ofHexChars, hx, hy, hr, Option.some.injEq] at hc
    subst hc
    rcases ds with _ | ⟨a', _ | ⟨b', rest'⟩⟩
    · simp [ofHexChars] at hd
    · simp [ofHexChars] at hd
    · simp only [ofHexChars] at hd
      split at hd
      case h_2 => cases hd
      case h_1 x' y' r' hx' hy' hr' =>
      simp only [Option.some.injEq, List.cons.injEq] at hd
      obtain ⟨byte, rfl⟩ := hd
      obtain ⟨rfl, rfl⟩ := digits_of_byte_eq (hexValue?_lt hx) (hexValue?_lt hy)
        (hexValue?_lt hx') (hexValue?_lt hy') byte.symm
      exact .cons (sameUpToCase_of_hexValue? hx hx') <|
        .cons (sameUpToCase_of_hexValue? hy hy') (ih hr hr')

/-- Whether the text carries a `0x` or `0X` prefix. -/
def hasHexPrefix (s : String) : Bool :=
  match s.toList with
  | '0' :: x :: _ => x == 'x' || x == 'X'
  | _ => false

theorem toList_eq_prefix_append (s : String) :
    ∃ pre, s.toList = pre ++ dropHexPrefix s ∧
      (hasHexPrefix s = false ∧ pre = [] ∨
        hasHexPrefix s = true ∧ ∃ x, pre = ['0', x] ∧ (x = 'x' ∨ x = 'X')) := by
  unfold dropHexPrefix hasHexPrefix
  generalize s.toList = l
  rcases l with _ | ⟨c, _ | ⟨x, rest⟩⟩
  · exact ⟨[], rfl, .inl ⟨rfl, rfl⟩⟩
  · exact ⟨[], by split <;> simp_all, .inl ⟨by split <;> simp_all, rfl⟩⟩
  · by_cases zero : c = '0'
    · subst zero
      by_cases hx : (x == 'x' || x == 'X') = true
      · exact ⟨['0', x], by simp [hx], .inr ⟨hx, x, rfl, by simpa using hx⟩⟩
      · exact ⟨[], by simp [hx], .inl ⟨by simpa using hx, rfl⟩⟩
    · exact ⟨[], by simp [zero], .inl ⟨by simp [zero], rfl⟩⟩

theorem sameUpToCase_of_dropHexPrefix {s t : String} (alike : hasHexPrefix s = hasHexPrefix t)
    (h : List.Forall₂ SameUpToCase (dropHexPrefix s) (dropHexPrefix t)) :
    List.Forall₂ SameUpToCase s.toList t.toList := by
  obtain ⟨p, hs, hp⟩ := toList_eq_prefix_append s
  obtain ⟨q, ht, hq⟩ := toList_eq_prefix_append t
  rw [hs, ht]
  refine List.rel_append ?_ h
  rcases hp with ⟨ps, rfl⟩ | ⟨ps, x, rfl, hx⟩ <;> rcases hq with ⟨qs, rfl⟩ | ⟨qs, y, rfl, hy⟩
  · exact .nil
  · simp_all
  · simp_all
  · have lower : ∀ z : Char, z = 'x' ∨ z = 'X' → Text.lowerChar z = 'x' := by
      rintro z (rfl | rfl) <;> decide
    exact .cons rfl (.cons ((lower x hx).trans (lower y hy).symm) .nil)

end Bytes

namespace Config

theorem equalFold_of_forall₂ {s t : String} (h : List.Forall₂ SameUpToCase s.toList t.toList) :
    equalFold s t = true := by
  obtain ⟨lengths, pairs⟩ := List.forall₂_iff_zip.mp h
  rw [String.length_toList, String.length_toList] at lengths
  unfold equalFold
  simp only [lengths, beq_self_eq_true, Bool.true_and, List.all_eq_true]
  rintro ⟨x, y⟩ mem
  simpa [SameUpToCase] using pairs mem

theorem isHexAddress_eq (s : String) : isHexAddress s = Address.isHex s := by
  simp only [isHexAddress, Address.isHex, Bytes.hexValue?_isSome]
  rfl

end Config

theorem Text.isSpace_of_isHex {s : String} (h : Address.isHex s = true) :
    ∀ c ∈ s.toList, Text.isSpace c = false := by
  have ascii : ∀ c : Char, 48 ≤ c.toNat → c.toNat < 128 → Text.isSpace c = false := by
    intro c lo hi
    simp only [Text.isSpace, Bool.or_eq_false_iff, beq_eq_false_iff_ne, ne_eq,
      Bool.and_eq_false_iff, decide_eq_false_iff_not, not_le]
    omega
  simp only [Address.isHex, Bool.and_eq_true, List.all_eq_true] at h
  obtain ⟨p, hs, hp⟩ := Bytes.toList_eq_prefix_append s
  intro c hc
  rw [hs, List.mem_append] at hc
  rcases hc with hc | hc
  · rcases hp with ⟨-, rfl⟩ | ⟨-, x, rfl, hx⟩
    · simp at hc
    · rcases hx with rfl | rfl <;> simp at hc <;> rcases hc with rfl | rfl <;> decide
  · obtain ⟨v, hv⟩ := Option.isSome_iff_exists.mp (h.2 c hc)
    obtain ⟨lo, hi, -⟩ := Bytes.hexValue?_eq_some hv
    exact ascii c lo hi

theorem Text.trimSpace_of_forall {s : String} (h : ∀ c ∈ s.toList, Text.isSpace c = false) :
    Text.trimSpace s = s := by
  have keep : ∀ l : List Char, (∀ c ∈ l, Text.isSpace c = false) → l.dropWhile Text.isSpace = l := by
    intro l hl
    rw [List.dropWhile_eq_self_iff]
    intro pos
    simp [hl _ (List.getElem_mem pos)]
  unfold Text.trimSpace
  rw [keep _ h, keep _ (by simpa using h), List.reverse_reverse, String.ofList_toList]

namespace Address

theorem toNat_ofBytes {bs : Bytes} (twenty : bs.length = 20) : (ofBytes bs).toNat = Bytes.toNat bs := by
  have bound := Bytes.toNat_lt bs
  rw [twenty] at bound
  simp only [ofBytes, Address.toNat_ofNat, Bytes.padLeft, twenty, le_refl, if_true,
    Nat.sub_self, List.drop_zero]
  exact Nat.mod_eq_of_lt (by simpa using bound)

theorem ofBytes_inj {bs bt : Bytes} (hs : bs.length = 20) (ht : bt.length = 20)
    (h : ofBytes bs = ofBytes bt) : bs = bt := by
  have numbers : Bytes.toNat bs = Bytes.toNat bt := by
    rw [← toNat_ofBytes hs, ← toNat_ofBytes ht, h]
  rw [← Bytes.ofNat_toNat bs, ← Bytes.ofNat_toNat bt, numbers, hs, ht]

theorem ofHex?_of_isHex {s : String} (h : isHex s = true) :
    ∃ bs, Bytes.ofHexChars (Bytes.dropHexPrefix s) = some bs ∧ ofHex? s = some (ofBytes bs) ∧
      bs.length = 20 := by
  have checks := h
  simp only [isHex, Bool.and_eq_true, beq_iff_eq, List.all_eq_true] at checks
  obtain ⟨bs, hbs⟩ := Option.isSome_iff_exists.mp
    (Bytes.ofHexChars_isSome checks.2 (by omega))
  have twenty : bs.length = 20 := by
    have := Bytes.length_of_ofHexChars hbs
    omega
  exact ⟨bs, hbs, by simp [ofHex?, h, Bytes.ofHex?, hbs], twenty⟩

end Address

theorem parseAddress_of_isHexAddress {s : String} (h : Config.isHexAddress s = true) :
    ∃ bs, Bytes.ofHexChars (Bytes.dropHexPrefix s) = some bs ∧
      parseAddress s = .ok (Address.ofBytes bs) ∧ bs.length = 20 := by
  rw [Config.isHexAddress_eq] at h
  obtain ⟨bs, hbs, read, twenty⟩ := Address.ofHex?_of_isHex h
  refine ⟨bs, hbs, ?_, twenty⟩
  simp [parseAddress, Text.trimSpace_of_forall (Text.isSpace_of_isHex h), read]

theorem equalFold_of_parseAddress_eq {s t : String} {a : Address}
    (hs : Config.isHexAddress s = true) (ht : Config.isHexAddress t = true)
    (alike : Bytes.hasHexPrefix s = Bytes.hasHexPrefix t)
    (reads : parseAddress s = .ok a) (reads' : parseAddress t = .ok a) :
    Config.equalFold s t = true := by
  obtain ⟨bs, hbs, ps, twenty⟩ := parseAddress_of_isHexAddress hs
  obtain ⟨bt, hbt, pt, twenty'⟩ := parseAddress_of_isHexAddress ht
  rw [ps, Except.ok.injEq] at reads
  rw [pt, Except.ok.injEq] at reads'
  obtain rfl := Address.ofBytes_inj twenty twenty' (reads.trans reads'.symm)
  exact Config.equalFold_of_forall₂
    (Bytes.sameUpToCase_of_dropHexPrefix alike (Bytes.sameUpToCase_of_ofHexChars hbs hbt))

end FlashArb
