import Mathlib
import FlashArb.Loan.Call
import FlashArb.Proofs.PayloadCodec
import FlashArb.Proofs.KeccakConstants

/-! The words of the flash-loan call data. -/
namespace FlashArb

namespace Abi

theorem encodeArgs_loan (recipient token : Address) (amount : Nat) (u : Bytes) :
    encodeArgs [.address recipient, .array [.address token], .array [.uint amount], .bytes u] =
      [recipient.toNat, 128, 192, 256, 1, token.toNat, 1, amount, u.length].flatMap word ++
        padRight u := by
  simp [encodeArgs, encodeParts, Value.encode, Value.isDynamic, assemble]

theorem take_padRight (u : Bytes) : (padRight u).take u.length = u := by
  rw [padRight, List.take_left]

theorem decodeArgs_loan (recipient token : Address) (amount : Nat) (u : Bytes)
    (short : u.length < 2 ^ 62) :
    decodeArgs FlashLoan.argTypes
        ([recipient.toNat, 128, 192, 256, 1, token.toNat, 1, amount, u.length].flatMap word ++
          padRight u) =
      .ok [.address recipient, .array [.address token], .array [.uint (amount % 2 ^ 256)],
        .bytes u] := by
  set ns := [recipient.toNat, 128, 192, 256, 1, token.toNat, 1, amount, u.length] with hns
  set data := ns.flatMap word ++ padRight u with hdata
  have padded : u.length ≤ (padRight u).length := by simp [padRight]
  have len : 288 + u.length ≤ data.length := by simp [data, ns]; omega
  have at_ : ∀ i (hi : i < ns.length), wordAt data (32 * i) = ns[i] % 2 ^ 256 :=
    fun i hi => wordAt_flatMap_append ns _ rfl hi
  have w0 : wordAt data 0 = recipient.toNat := by
    simpa [ns, Nat.mod_eq_of_lt (Address.toNat_lt_word recipient)] using at_ 0 (by simp [ns])
  have w1 : wordAt data 32 = 128 := by simpa [ns] using at_ 1 (by simp [ns])
  have w2 : wordAt data 64 = 192 := by simpa [ns] using at_ 2 (by simp [ns])
  have w3 : wordAt data 96 = 256 := by simpa [ns] using at_ 3 (by simp [ns])
  have w4 : wordAt data 128 = 1 := by simpa [ns] using at_ 4 (by simp [ns])
  have w5 : wordAt data 160 = token.toNat := by
    simpa [ns, Nat.mod_eq_of_lt (Address.toNat_lt_word token)] using at_ 5 (by simp [ns])
  have w6 : wordAt data 192 = 1 := by simpa [ns] using at_ 6 (by simp [ns])
  have w7 : wordAt data 224 = amount % 2 ^ 256 := by simpa [ns] using at_ 7 (by simp [ns])
  have w8 : wordAt data 256 = u.length := by
    have := at_ 8 (by simp [ns])
    simp [ns] at this
    rw [this]
    exact Nat.mod_eq_of_lt (by omega)
  have tokens : lengthPrefix 32 data = .ok (160, 1) := by
    rw [lengthPrefix_eq_ok] <;> simp only [w1, w4] <;> omega
  have amounts : lengthPrefix 64 data = .ok (224, 1) := by
    rw [lengthPrefix_eq_ok] <;> simp only [w2, w6] <;> omega
  have payload : lengthPrefix 96 data = .ok (288, u.length) := by
    rw [lengthPrefix_eq_ok] <;> simp only [w3, w8] <;> omega
  have rest : Bytes.slice data 288 u.length = u := by
    rw [Bytes.slice, hdata, List.drop_left' (by simp [ns]), take_padRight]
  have nonempty : data.isEmpty = false := by
    rw [List.isEmpty_eq_false_iff_exists_mem]
    exact ⟨_, List.getElem_mem (by omega : 0 < data.length)⟩
  simp only [decodeArgs, nonempty, Bool.false_eq_true, if_false, FlashLoan.argTypes, decodeItems,
    decodeAt_address (show 0 + 32 ≤ data.length by omega), w0, Address.ofNat_toNat, Ty.headSize,
    decodeAt_array_single (show 32 + 32 ≤ data.length by omega) tokens (by omega),
    decodeAt_array_single (show 64 + 32 ≤ data.length by omega) amounts (by omega),
    decodeAt_address (show 0 + 32 ≤ (data.drop 160).length by simp; omega),
    decodeAt_uint (show checkedWidth 256 = false from rfl)
      (show 0 + 32 ≤ (data.drop 224).length by simp; omega),
    wordAt_drop, w5, w7, decodeAt_bytes (show 96 + 32 ≤ data.length by omega) payload, rest]
  rfl

end Abi

namespace FlashLoan

theorem take_encode (f : FlashLoan) : f.encode.take 4 = [0x5c, 0x38, 0x44, 0x9e] := by
  rw [encode, Abi.callData, selector_signature]
  rfl

theorem drop_encode (f : FlashLoan) :
    f.encode.drop 4 = Abi.encodeArgs [.address f.recipient, .array (f.tokens.map .address),
      .array (f.amounts.map .uint), .bytes f.userData] := by
  rw [encode, Abi.callData, selector_signature]
  exact List.drop_left' rfl

theorem decode?_encode_single (recipient token : Address) (amount : Nat) (u : Bytes)
    (short : u.length < 2 ^ 62) :
    decode? (encode ⟨recipient, [token], [amount], u⟩) =
      some ⟨recipient, [token], [amount % 2 ^ 256], u⟩ := by
  have head : (encode ⟨recipient, [token], [amount], u⟩).take 4 = Abi.selector signature := by
    rw [take_encode, selector_signature]
  simp only [decode?, head, bne_self_eq_false, Bool.false_eq_true, if_false, drop_encode,
    List.map_cons, List.map_nil, Abi.encodeArgs_loan, Abi.decodeArgs_loan recipient token amount u short]
  rfl

end FlashLoan

namespace Builder

variable (b : Builder) (r : Route) (minProfit : Option Int) (salt : Option Nat)

theorem calldata_of_not_pos {amount : Option Int} (refused : ∀ a ∈ amount, a ≤ 0) :
    b.calldata r amount minProfit salt = .error (Failure.plain "loan amount must be positive") := by
  cases amount with
  | none => rfl
  | some a =>
    have nonpos : ¬ a > 0 := not_lt.mpr (refused a rfl)
    simp only [calldata, nonpos, if_false]
    rfl

theorem calldata_of_encode_error {a : Int} {f : Failure} (pos : 0 < a)
    (failed : (b.payload r minProfit salt).encode = .error f) :
    b.calldata r (some a) minProfit salt = .error (f.wrap "encode user data") := by
  simp only [calldata, gt_iff_lt, pos, if_true, failed]
  rfl

theorem calldata_of_encode_ok {a : Int} {u : Bytes} (pos : 0 < a)
    (encoded : (b.payload r minProfit salt).encode = .ok u) :
    b.calldata r (some a) minProfit salt = .ok (b.flashLoan r a u).encode := by
  simp only [calldata, gt_iff_lt, pos, if_true, encoded]
  rfl

end Builder

/-- The flash-loan call data of a route. -/
theorem loan_calldata_reads_back (b : Builder) (r : Route) (amount minProfit : Option Int)
    (salt : Option Nat) :
    ((∃ f, b.calldata r amount minProfit salt = .error f) ↔
      (∀ a ∈ amount, a ≤ 0) ∨ ∃ p, minProfit = some p ∧ (p < 0 ∨ 2 ^ 256 ≤ p)) ∧
    ∀ data, b.calldata r amount minProfit salt = .ok data →
      data.take 4 = [0x5c, 0x38, 0x44, 0x9e] ∧
      ∃ a u, amount = some a ∧ 0 < a ∧ (b.payload r minProfit salt).encode = .ok u ∧
        FlashLoan.decode? data = some ⟨b.executor, [r.loanToken], [(a % 2 ^ 256).toNat], u⟩ := by
  have guard : (∃ f, (b.payload r minProfit salt).encode = .error f) ↔
      ∃ p, minProfit = some p ∧ (p < 0 ∨ 2 ^ 256 ≤ p) :=
    Payload.encode_eq_error_iff (b.payload r minProfit salt)
  have never : ∀ {x : Outcome Bytes} {f : Failure}, x = .error f → ∀ data, x ≠ .ok data := by
    rintro x f rfl data ⟨⟩
  cases amount with
  | none =>
    have refused := @Builder.calldata_of_not_pos b r minProfit salt none (by simp)
    exact ⟨iff_of_true ⟨_, refused⟩ (.inl (by simp)), fun data h => absurd h (never refused data)⟩
  | some a =>
    by_cases pos : 0 < a
    · cases hu : (b.payload r minProfit salt).encode with
      | error f =>
        have failed := Builder.calldata_of_encode_error b r minProfit salt pos hu
        exact ⟨iff_of_true ⟨_, failed⟩ (.inr (guard.1 ⟨f, hu⟩)),
          fun data h => absurd h (never failed data)⟩
      | ok u =>
        rw [Builder.calldata_of_encode_ok b r minProfit salt pos hu]
        refine ⟨iff_of_false (by simp) ?_, ?_⟩
        · rintro (refused | out)
          · exact absurd (refused a rfl) (not_le.mpr pos)
          · obtain ⟨f, hf⟩ := guard.2 out
            rw [hu] at hf
            cases hf
        · rintro data ⟨⟩
          have short : u.length < 2 ^ 62 := by
            rw [Payload.length_of_encode_eq_ok hu]
            norm_num
          have word : (a % 2 ^ 256).toNat % 2 ^ 256 = (a % 2 ^ 256).toNat := by
            apply Nat.mod_eq_of_lt
            omega
          refine ⟨FlashLoan.take_encode _, a, u, rfl, pos, rfl, ?_⟩
          rw [Builder.flashLoan, FlashLoan.decode?_encode_single _ _ _ _ short, word]
    · have refused := @Builder.calldata_of_not_pos b r minProfit salt (some a)
        (by simpa using not_lt.mp pos)
      exact ⟨iff_of_true ⟨_, refused⟩ (.inl (by simpa using not_lt.mp pos)),
        fun data h => absurd h (never refused data)⟩

/-- A loan of 1000 along the default route, with a profit guard of 999, is built and starts with
the selector. -/
theorem sample_loan_calldata_starts_with_selector :
    ∃ data, ({ vault := Address.zero, executor := Address.ofNat 1 } : Builder).calldata default
        (some 1000) (some 999) (some 7) = .ok data ∧ data.take 4 = [0x5c, 0x38, 0x44, 0x9e] := by
  let b : Builder := { vault := Address.zero, executor := Address.ofNat 1 }
  have fits : ∀ p ∈ (b.payload default (some 999) (some 7)).minProfit, 0 ≤ p ∧ p < 2 ^ 256 := by
    rintro p ⟨⟩
    norm_num
  have built := Builder.calldata_of_encode_ok b default (some 999) (some 7)
    (show (0 : Int) < 1000 by norm_num) (Payload.encode_eq_ok _ fits)
  exact ⟨_, built, ((loan_calldata_reads_back b default (some 1000) (some 999) (some 7)).2 _ built).1⟩

theorem calldata_wraps_amount_above_word (b : Builder) (r : Route) :
    ∃ data, b.calldata r (some (2 ^ 256 + 5)) (some 999) (some 7) = .ok data ∧
      ∃ u, FlashLoan.decode? data = some ⟨b.executor, [r.loanToken], [5], u⟩ := by
  have fits : ∀ p ∈ (b.payload r (some 999) (some 7)).minProfit, 0 ≤ p ∧ p < 2 ^ 256 := by
    rintro p ⟨⟩
    norm_num
  have encoded := Payload.encode_eq_ok _ fits
  have short : ((b.payload r (some 999) (some 7)).wordValues.flatMap Abi.word).length < 2 ^ 62 := by
    rw [Payload.length_of_encode_eq_ok encoded]
    norm_num
  refine ⟨_, Builder.calldata_of_encode_ok b r (some 999) (some 7) (by norm_num) encoded,
    (b.payload r (some 999) (some 7)).wordValues.flatMap Abi.word, ?_⟩
  rw [Builder.flashLoan, FlashLoan.decode?_encode_single _ _ _ _ short]
  rfl

/-- The vault's builder asked for a loan of `2 ^ 256 + 5` along a route from a constant-product
sell pool to a concentrated-liquidity buy pool: the call data is built, and it lends 5. -/
theorem oversized_loan_amount_wraps :
    let b : Builder :=
      { vault := Address.ofNat 0xBA12222222228d8Ba445958a75a0704d566BF2C8,
        executor := Address.ofNat 0x1000000000000000000000000000000000000001 }
    let r : Route :=
      { buyPool := Address.ofNat 0xaaaa000000000000000000000000000000000001,
        sellPool := Address.ofNat 0xbbbb000000000000000000000000000000000002,
        buyKind := .concentrated, sellKind := .volatile, buyToken0IsLoan := true,
        sellToken0IsLoan := false, loanToken := Address.ofNat 0x4200000000000000000000000000000000000006,
        quoteToken := Address.ofNat 0x0b2C639c533813f4Aa9D7837CAf62653d097Ff85, buyFee := some 500 }
    ∃ data, b.calldata r (some (2 ^ 256 + 5)) (some 999) (some 7) = .ok data ∧
      ∃ u, FlashLoan.decode? data = some ⟨b.executor, [r.loanToken], [5], u⟩ :=
  calldata_wraps_amount_above_word _ _

end FlashArb
