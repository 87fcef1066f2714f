import Mathlib
import FlashArb.App.Commands
import FlashArb.Proofs.AddressText
import FlashArb.Proofs.DoubleOrder

/-! What a configuration that passes validation promises the rest of the bot. -/
namespace FlashArb

namespace Config

/-- Text of an integer in decimal: an optional sign, then at least one digit and nothing else. -/
def DecimalText (s : String) : Prop :=
  ∃ sign digits, (sign = [] ∨ sign = ['+'] ∨ sign = ['-']) ∧ digits ≠ [] ∧
    (∀ d ∈ digits, d.isDigit = true) ∧ s.toList = sign ++ digits

theorem decimalText_of_isDecimalInteger {s : String} (h : isDecimalInteger s = true) :
    DecimalText s := by
  unfold isDecimalInteger at h
  unfold DecimalText
  generalize s.toList = l at h ⊢
  have digitsOnly : ∀ r : List Char, (!r.isEmpty && r.all Char.isDigit) = true →
      r ≠ [] ∧ ∀ d ∈ r, d.isDigit = true := by
    intro r hr
    simp only [Bool.and_eq_true, Bool.not_eq_true', List.isEmpty_eq_false_iff,
      List.all_eq_true] at hr
    exact hr
  rcases l with _ | ⟨c, r⟩
  · simp at h
  · by_cases plus : c = '+'
    · subst plus
      exact ⟨['+'], r, .inr (.inl rfl), digitsOnly r h |>.1, digitsOnly r h |>.2, rfl⟩
    · by_cases minus : c = '-'
      · subst minus
        exact ⟨['-'], r, .inr (.inr rfl), digitsOnly r h |>.1, digitsOnly r h |>.2, rfl⟩
      · have whole := digitsOnly (c :: r) (by simpa [plus, minus] using h)
        exact ⟨[], c :: r, .inl rfl, whole.1, whole.2, rfl⟩

theorem requireAddress_eq_nil {name value : String} (h : requireAddress name value = []) :
    value.isEmpty = false ∧ isHexAddress value = true := by
  unfold requireAddress at h
  split_ifs at h with empty hex
  exact ⟨by simpa using empty, hex⟩

/-- What a configuration that passes validation promises the rest of the bot. -/
structure Checked (c : Config) : Prop where
  /-- Loan bounds that are numbers satisfy `0 ≤ min ≤ max` and `0 < max`; either may be `+∞`. -/
  loanBounds : ∀ lo hi, c.minLoan.value = some lo → c.maxLoan.value = some hi →
    0 ≤ lo ∧ lo ≤ hi ∧ 0 < hi
  /-- A finite loan bound converts to base units at any number of decimals. -/
  boundsConvert : ∀ decimals,
    (c.minLoan.IsFinite → ∃ lo, Units.baseOfKind c.minLoan.kind decimals = .ok lo) ∧
    (c.maxLoan.IsFinite → ∃ hi, Units.baseOfKind c.maxLoan.kind decimals = .ok hi)
  /-- A threshold that is a number is not negative; it may be `+∞`. -/
  threshold : ∀ t, c.priceThreshold.value = some t → 0 ≤ t
  /-- Both tokens read as addresses, and as different ones when written alike. -/
  tokens : ∃ loan quote, parseAddress c.loanToken = .ok loan ∧ parseAddress c.quoteToken = .ok quote ∧
    (Bytes.hasHexPrefix c.loanToken = Bytes.hasHexPrefix c.quoteToken → loan ≠ quote)
  searchIterations : 0 < c.searchIterations
  searchConcurrency : 0 < c.searchConcurrency
  batchSize : 0 < c.batchSize
  dedupSize : 0 < c.dedupSize
  dynamicCap : 1 ≤ c.dynamicCapPercent ∧ c.dynamicCapPercent ≤ 100
  flashLoanFee : c.flashLoanFeeBps ≤ 10000
  profitBuffer : DecimalText c.minProfitBufferWei

theorem checked_of_problems_eq_nil {c : Config} (h : c.problems = []) : c.Checked := by
  unfold problems at h
  simp only [List.append_eq_nil_iff, ite_eq_right_iff, ite_eq_left_iff, reduceCtorEq, imp_false,
    not_not, and_assoc, Bool.or_eq_true, Bool.and_eq_true, decide_eq_true_eq, not_or, not_and,
    Bool.not_eq_true', beq_iff_eq, not_lt, gt_iff_lt] at h
  obtain ⟨-, -, -, -, -, -, loan, quote, -, -, differ, -, -, -, -, -, -, -, minCheck, maxCheck,
    orderCheck, iterations, concurrency, capPos, capLe, thresholdCheck, fee, -, -, -, buffer, -, -,
    batch, dedup⟩ := h
  have minNonneg : ∀ a, c.minLoan.value = some a → 0 ≤ a :=
    fun a ha => Double.le_of_not_lt minCheck ha Double.value_zero
  have maxPos : ∀ a, c.maxLoan.value = some a → 0 < a :=
    fun a ha => Double.lt_of_not_le maxCheck ha Double.value_zero
  obtain ⟨loanSet, loanHex⟩ := requireAddress_eq_nil loan
  obtain ⟨-, quoteHex⟩ := requireAddress_eq_nil quote
  obtain ⟨_, -, readsLoan, -⟩ := parseAddress_of_isHexAddress loanHex
  obtain ⟨_, -, readsQuote, -⟩ := parseAddress_of_isHexAddress quoteHex
  refine ⟨?_, ?_, ?_, ⟨_, _, readsLoan, readsQuote, ?_⟩, by omega, by omega,
    Nat.pos_of_ne_zero batch, by omega, ⟨Nat.one_le_iff_ne_zero.mpr capPos, capLe⟩, fee,
    decimalText_of_isDecimalInteger buffer⟩
  · intro lo hi hlo hhi
    exact ⟨minNonneg lo hlo, Double.le_of_not_lt orderCheck hhi hlo, maxPos hi hhi⟩
  · intro decimals
    exact ⟨fun finite => Units.baseOfKind_ok finite minNonneg decimals,
      fun finite => Units.baseOfKind_ok finite (fun a ha => (maxPos a ha).le) decimals⟩
  · exact fun t ht => Double.le_of_not_lt thresholdCheck ht Double.value_zero
  · intro alike same
    rw [same] at readsLoan
    exact differ loanSet (equalFold_of_parseAddress_eq loanHex quoteHex alike readsLoan readsQuote)

theorem validate_eq_nil_iff {c : Config} : c.validate = [] ↔ c.problems = [] := by
  unfold validate
  generalize c.problems = ps
  have sorted := (List.mergeSort_perm (ps.map ("invalid config: " ++ ·)) fun a b => decide (a ≤ b)).length_eq
  rw [← List.length_eq_zero_iff, sorted, List.length_map, List.length_eq_zero_iff]

end Config

namespace App

theorem invalidConfig_eq_none_iff {c : Config} : invalidConfig c = none ↔ c.problems = [] := by
  unfold invalidConfig
  generalize c.problems = ps
  cases ps <;> simp

theorem invalidConfig_has {c : Config} {f : Failure} (h : invalidConfig c = some f) :
    f.has .invalidConfig = true := by
  unfold invalidConfig at h
  generalize c.problems = ps at h
  cases ps with
  | nil => cases h
  | cons p rest =>
    cases h
    simp [Failure.has, Failure.combine, Failure.marked]

end App

namespace Config

/-- Validation guards the pipeline: a configuration it passes keeps the promises of `Checked`,
it passes exactly the configurations the bot's command accepts, and each failure it reports is an
invalid configuration. -/
theorem validation_guards_pipeline (c : Config) :
    (c.validate = [] → c.Checked) ∧
    (App.invalidConfig c = none ↔ c.validate = []) ∧
    (∀ f, App.invalidConfig c = some f → f.has .invalidConfig = true) :=
  ⟨fun passes => checked_of_problems_eq_nil (validate_eq_nil_iff.mp passes),
    App.invalidConfig_eq_none_iff.trans validate_eq_nil_iff.symm,
    fun _ reported => App.invalidConfig_has reported⟩

/-- A configuration with no upper bound on the loan or on the price threshold: both are `+∞`. -/
def unboundedLoans : Config :=
  { rpcUrl := "http://127.0.0.1:8545", dryRun := true,
    executor := "0x1000000000000000000000000000000000000001",
    balancerVault := "0xBA12222222228d8Ba445958a75a0704d566BF2C8",
    quoter := "0x1000000000000000000000000000000000000002",
    veloRouter := "0x1000000000000000000000000000000000000003",
    loanToken := "0x2000000000000000000000000000000000000001",
    quoteToken := "0x2000000000000000000000000000000000000002",
    pools := some [("0x3000000000000000000000000000000000000001", "univ3")],
    maxLoan := ⟨0x7FF0000000000000⟩, priceThreshold := ⟨0x7FF0000000000000⟩,
    searchIterations := 10, searchConcurrency := 4, dynamicCapPercent := 10,
    minProfitBufferWei := "5000000000000",
    fetchTimeout := 1000000000, quoteTimeout := 1000000000, receiptTimeout := 1000000000,
    relayTimeout := 1000000000, submitTimeout := 1000000000, receiptPollInterval := 1000000000,
    batchSize := 100, dedupSize := 64 }

/-- Validation passes an infinite largest loan and an infinite price threshold. -/
theorem unbounded_loan_cap_passes_validation :
    unboundedLoans.validate = [] ∧ unboundedLoans.maxLoan.value = some ⊤ ∧
      unboundedLoans.priceThreshold.value = some ⊤ := by
  have infinite : (⟨0x7FF0000000000000⟩ : Double).kind = .inf false := by decide
  refine ⟨validate_eq_nil_iff.mpr (by decide), ?_, ?_⟩ <;>
    simp [unboundedLoans, Double.value, infinite, Binary64.Kind.value]

end Config

end FlashArb
