import Mathlib
import FlashArb.Dex.Quoter
import FlashArb.Proofs.PoolFetch

/-! A quote of a positive amount along a leg the quoter knows is one view call, read back from the
chain's answer. -/
namespace FlashArb

namespace Text

theorem occursIn_append {pattern p : List Char} (s : List Char)
    (apart : ∀ t ∈ p.tails, t ≠ [] → ¬t <+: pattern ∧ ¬pattern <+: t) :
    occursIn pattern (p ++ s) = occursIn pattern s := by
  induction p with
  | nil => rfl
  | cons c p ih =>
    have here := apart (c :: p) ((List.mem_tails _ _).2 (List.suffix_refl _)) (List.cons_ne_nil c p)
    -- a pattern at the front of `c :: p ++ s` would overlap `c :: p`
    have notHere : pattern.isPrefixOf (c :: (p ++ s)) = false := by
      rw [Bool.eq_false_iff, ne_eq, List.isPrefixOf_iff_prefix]
      intro front
      rcases List.prefix_or_prefix_of_prefix front (List.prefix_append (c :: p) s) with h | h
      · exact here.2 h
      · exact here.1 h
    have rest : ∀ t ∈ p.tails, t ≠ [] → ¬t <+: pattern ∧ ¬pattern <+: t := fun t mem =>
      apart t ((List.mem_tails _ _).2 (((List.mem_tails _ _).1 mem).trans (List.suffix_cons c p)))
    rw [List.cons_append, occursIn, notHere, Bool.false_or, ih rest]

theorem containsText_append {lead s pattern : String}
    (apart : ∀ t ∈ lead.toList.tails, t ≠ [] → ¬t <+: pattern.toList ∧ ¬pattern.toList <+: t) :
    containsText (lead ++ s) pattern = containsText s pattern := by
  rw [containsText, String.toList_append, occursIn_append _ apart, containsText]

end Text

theorem Keccak.length_hash (msg : Bytes) : (Keccak.hash msg).length = 32 := by
  simp [Keccak.hash, Keccak.bytesOfLane]

namespace Abi

theorem length_selector (signature : String) : (selector signature).length = 4 := by
  simp [selector, Keccak.length_hash]

theorem encodeArgs_singleQuote (tokenIn tokenOut : Address) (amount fee : ℕ) :
    encodeArgs [.tuple [.address tokenIn, .address tokenOut, .uint amount, .uint fee, .uint 0]] =
      [tokenIn.toNat, tokenOut.toNat, amount, fee, 0].flatMap word := by
  simp [encodeArgs, encodeParts, Value.encode, Value.isDynamic, anyDynamicValue, assemble]

theorem encodeArgs_amountsOut (amount : ℕ) (tokenIn tokenOut : Address) (stable : Bool)
    (factory : Address) :
    encodeArgs [.uint amount,
        .array [.tuple [.address tokenIn, .address tokenOut, .bool stable, .address factory]]] =
      [amount, 64, 1, tokenIn.toNat, tokenOut.toNat, if stable then 1 else 0, factory.toNat].flatMap
        word := by
  simp [encodeArgs, encodeParts, Value.encode, Value.isDynamic, anyDynamicValue, assemble]

end Abi

namespace Quoter

/-- The call data of `quoteExactInputSingle` for a single-pool quote. -/
def singleQuoteData (tokenIn tokenOut : Address) (amount fee : ℕ) : Bytes :=
  Abi.selector "quoteExactInputSingle((address,address,uint256,uint24,uint160))" ++
    [tokenIn.toNat, tokenOut.toNat, amount, fee, 0].flatMap Abi.word

/-- The call data of `getAmountsOut` for a one-hop route. -/
def amountsOutData (amount : ℕ) (tokenIn tokenOut : Address) (stable : Bool) (factory : Address) :
    Bytes :=
  Abi.selector "getAmountsOut(uint256,(address,address,bool,address)[])" ++
    [amount, 64, 1, tokenIn.toNat, tokenOut.toNat, if stable then 1 else 0, factory.toNat].flatMap
      Abi.word

variable {m : Type → Type}

/-- The one call a quote of `amount` along `leg` makes, to the quoter or to a router. -/
def quoteCall (q : Quoter m) (leg : Leg) (amount : ℕ) : Option CallMsg :=
  match leg.kind with
  | .concentrated => leg.fee.map fun fee =>
    { target := some q.quoter, data := singleQuoteData leg.tokenIn leg.tokenOut amount fee.toNat }
  | .volatile =>
    some { target := some (q.routers.routerFor leg.factory),
           data := amountsOutData amount leg.tokenIn leg.tokenOut (leg.stable.getD false) leg.factory }
  | .stable =>
    some { target := some (q.routers.routerFor leg.factory),
           data := amountsOutData amount leg.tokenIn leg.tokenOut (leg.stable.getD true) leg.factory }
  | .unknown => none

/-- The call a quote of `amountIn` along `leg` makes, if any. -/
def callFor (q : Quoter m) (leg : Leg) : Option ℤ → Option CallMsg
  | some a => if 0 < a ∧ q.reader.isSome then q.quoteCall leg (a % 2 ^ 256).toNat else none
  | none => none

theorem quoteCall_eq_none (q : Quoter m) (leg : Leg) (amount : ℕ) :
    q.quoteCall leg amount = none ↔
      leg.kind = .unknown ∨ leg.kind = .concentrated ∧ leg.fee = none := by
  unfold quoteCall
  cases leg.kind <;> simp

theorem callFor_eq_some (q : Quoter m) (leg : Leg) {amountIn : Option ℤ} {msg : CallMsg} :
    q.callFor leg amountIn = some msg ↔
      q.reader.isSome ∧ ∃ a ∈ amountIn, 0 < a ∧ q.quoteCall leg (a % 2 ^ 256).toNat = some msg := by
  cases amountIn with
  | none => simp [callFor]
  | some a =>
    by_cases positive : 0 < a <;> by_cases wired : q.reader.isSome <;> simp [callFor, positive, wired]

end Quoter

/-- The method a leg of a kind is quoted by. -/
def DexKind.quoteMethod : DexKind → Method
  | .concentrated => quoteExactInputSingle
  | _ => getAmountsOut

/-- What a quote reads off the answer `b` to its call: for concentrated liquidity the first of the
four output words, for a constant-product pool the last of at least two amounts. -/
def DexKind.ReadsQuote : DexKind → Bytes → ℤ → Prop
  | .concentrated, b, v =>
    (∃ vs, Abi.decodeOutputs quoteExactInputSingle.outputs b = .ok vs) ∧ v = Abi.wordAt b 0
  | kind, b, v => kind.isConstantProduct ∧ ∃ items out,
    Abi.decodeOutputs getAmountsOut.outputs b = .ok [.array items] ∧ 2 ≤ items.length ∧
      items.getLast? = some (.uint out) ∧ v = out

namespace Quoter

theorem callData_singleQuote (tokenIn tokenOut : Address) (amount fee : ℕ) :
    quoteExactInputSingle.callData
        [.tuple [.address tokenIn, .address tokenOut, .uint amount, .uint fee, .uint 0]] =
      singleQuoteData tokenIn tokenOut amount fee := by
  have named : quoteExactInputSingle.signature =
      "quoteExactInputSingle((address,address,uint256,uint24,uint160))" := by decide
  rw [Method.callData, named, Abi.callData, Abi.encodeArgs_singleQuote, singleQuoteData]

theorem callData_amountsOut (leg : Leg) (amount : ℤ) :
    getAmountsOut.callData (amountsOutArgs leg amount) =
      amountsOutData (amount % 2 ^ 256).toNat leg.tokenIn leg.tokenOut
        (leg.stable.getD (leg.kind == .stable)) leg.factory := by
  have named : getAmountsOut.signature =
      "getAmountsOut(uint256,(address,address,bool,address)[])" := by decide
  simp only [Method.callData, named, Abi.callData, amountsOutArgs, Abi.encodeArgs_amountsOut,
    amountsOutData]

/-- The quote read off the outputs of `quoteExactInputSingle`: the first of them. -/
def singleQuoteOut (leg : Leg) : Outcome (List Abi.Value) → Outcome ℤ
  | .error f => .error (callFailure leg f)
  | .ok (.uint out :: _) => .ok out
  | .ok _ => .error (quoteFailure "amountOut: unsupported int type")

/-- What a quote makes of the outputs of its call. -/
def readQuote (leg : Leg) (outputs : Outcome (List Abi.Value)) : Outcome ℤ :=
  if leg.kind = .concentrated then singleQuoteOut leg outputs else amountOut leg outputs

section Run

variable {q : Quoter (StateM (List ChainRead))} (leg : Leg) (reads : List ChainRead)

theorem quote_run_refused {amountIn : Option ℤ} (refused : ∀ a ∈ amountIn, a ≤ 0) :
    (q.quote leg amountIn).run reads = (.error (quoteFailure "amount in must be positive"), reads) := by
  cases amountIn with
  | none => rfl
  | some a =>
    simp [quote, refused a rfl]
    rfl

theorem quote_run_unknown {a : ℤ} (positive : 0 < a) (unknown : leg.kind = .unknown) :
    (q.quote leg (some a)).run reads =
      (.error (quoteFailure ("unsupported dex kind: " ++ leg.kind.name) [.unsupportedDex]), reads) := by
  simp [quote, Int.not_le.mpr positive, unknown, DexKind.isConstantProduct]
  rfl

theorem quote_run_no_fee {a : ℤ} (positive : 0 < a) (concentrated : leg.kind = .concentrated)
    (noFee : leg.fee = none) :
    (q.quote leg (some a)).run reads =
      (.error (quoteFailure ("pool " ++ leg.pool.checksum ++ " has no fee tier")), reads) := by
  simp [quote, Int.not_le.mpr positive, concentrated, quoteConcentrated, noFee]
  rfl

theorem quote_run_call {c : ScriptedChain} (wired : q.reader = some c.reader) {a : ℤ} (positive : 0 < a)
    {msg : CallMsg}
    (call : q.quoteCall leg (a % 2 ^ 256).toNat = some msg) :
    (q.quote leg (some a)).run reads =
      (readQuote leg (leg.kind.quoteMethod.readOutputs (c.answer msg none)), reads ++ [.call msg none]) := by
  unfold quoteCall at call
  cases kind : leg.kind with
  | unknown => simp [kind] at call
  | concentrated =>
    obtain ⟨fee, feeIs, rfl⟩ := Option.map_eq_some_iff.1 (by simpa [kind] using call)
    simp [quote, Int.not_le.mpr positive, kind, quoteConcentrated, feeIs, callMethod, wired,
      ScriptedChain.reader, callData_singleQuote, readQuote, DexKind.quoteMethod]
    generalize quoteExactInputSingle.readOutputs _ = outputs
    rcases outputs with f | _ | ⟨first, rest⟩
    · rfl
    · rfl
    · cases first <;> rfl
  | volatile =>
    simp only [kind, Option.some.injEq] at call
    subst call
    simp [quote, Int.not_le.mpr positive, kind, DexKind.isConstantProduct, quoteConstantProduct,
      callMethod, wired, ScriptedChain.reader, callData_amountsOut, readQuote, DexKind.quoteMethod]
    rfl
  | stable =>
    simp only [kind, Option.some.injEq] at call
    subst call
    simp [quote, Int.not_le.mpr positive, kind, DexKind.isConstantProduct, quoteConstantProduct,
      callMethod, wired, ScriptedChain.reader, callData_amountsOut, readQuote, DexKind.quoteMethod]
    rfl

theorem callFailure_unwired (leg : Leg) :
    callFailure leg (Failure.plain "chain caller is nil") =
      quoteFailure (leg.kind.name ++ " pool " ++ leg.pool.checksum ++ ": " ++ "chain caller is nil") := by
  have clear : Text.containsText "chain caller is nil" "INSUFFICIENT_LIQUIDITY" = false := by decide
  simp [callFailure, Failure.plain, clear]

theorem quote_run_unwired (unwired : q.reader = none) {a : ℤ} (positive : 0 < a) {msg : CallMsg}
    (call : q.quoteCall leg (a % 2 ^ 256).toNat = some msg) :
    (q.quote leg (some a)).run reads =
      (.error (callFailure leg (Failure.plain "chain caller is nil")), reads) := by
  unfold quoteCall at call
  cases kind : leg.kind with
  | unknown => simp [kind] at call
  | concentrated =>
    obtain ⟨fee, feeIs, -⟩ := Option.map_eq_some_iff.1 (by simpa [kind] using call)
    simp [quote, Int.not_le.mpr positive, kind, quoteConcentrated, feeIs, callMethod, unwired]
    rfl
  | volatile =>
    simp [quote, Int.not_le.mpr positive, kind, DexKind.isConstantProduct, quoteConstantProduct,
      callMethod, unwired, amountOut]
    rfl
  | stable =>
    simp [quote, Int.not_le.mpr positive, kind, DexKind.isConstantProduct, quoteConstantProduct,
      callMethod, unwired, amountOut]
    rfl

theorem quote_run_of_call {c : ScriptedChain} (wired : q.reader = some c.reader)
    {amountIn : Option ℤ} {msg : CallMsg} (call : q.callFor leg amountIn = some msg) :
    (q.quote leg amountIn).run reads =
      (readQuote leg (leg.kind.quoteMethod.readOutputs (c.answer msg none)), reads ++ [.call msg none]) := by
  obtain ⟨-, a, rfl, positive, quoted⟩ := (callFor_eq_some q leg).1 call
  exact quote_run_call leg reads wired positive quoted

theorem quote_run_without_call {amountIn : Option ℤ} (noCall : q.callFor leg amountIn = none) :
    ∃ e, (q.quote leg amountIn).run reads = (.error e, reads) ∧ e.has .quote ∧
      e.has .insufficientLiquidity = false ∧
      (e.has .unsupportedDex ↔ (∃ a ∈ amountIn, 0 < a) ∧ leg.kind = .unknown) := by
  by_cases offered : ∃ a ∈ amountIn, 0 < a
  · obtain ⟨a, rfl, positive⟩ := offered
    cases quoted : q.quoteCall leg (a % 2 ^ 256).toNat with
    | some msg =>
      have unwired : q.reader = none := by
        cases reader : q.reader with
        | none => rfl
        | some _ =>
          rw [callFor, if_pos ⟨positive, by simp [reader]⟩, quoted] at noCall
          cases noCall
      have known : leg.kind ≠ .unknown := fun unknown => by
        rw [(quoteCall_eq_none q leg _).2 (.inl unknown)] at quoted
        cases quoted
      refine ⟨_, quote_run_unwired leg reads unwired positive quoted, ?_, ?_, ?_⟩
      all_goals simp [callFailure_unwired, quoteFailure, known]
    | none =>
    rcases (quoteCall_eq_none q leg _).1 quoted with unknown | ⟨concentrated, noFee⟩
    · refine ⟨_, quote_run_unknown leg reads positive unknown, rfl, rfl, ?_⟩
      simp [quoteFailure, unknown, positive]
    · refine ⟨_, quote_run_no_fee leg reads positive concentrated noFee, rfl, rfl, ?_⟩
      simp [quoteFailure, concentrated]
  · have refused : ∀ a ∈ amountIn, a ≤ 0 := fun a mem =>
      Int.not_lt.1 fun positive => offered ⟨a, mem, positive⟩
    refine ⟨_, quote_run_refused leg reads refused, rfl, rfl, ?_⟩
    simp only [quoteFailure, Failure.has_mk, List.contains_cons, List.contains_nil]
    exact ⟨fun marked => absurd marked (by decide), fun ⟨given, _⟩ => absurd given offered⟩

end Run

end Quoter

/-- An answer to a call of `method` reports a shortage of liquidity: the failure of the call, or
the failure to decode what it answered, mentions `INSUFFICIENT_LIQUIDITY`. -/
def Method.ReportsShortage (method : Method) : Outcome Bytes → Prop
  | .error g => Text.containsText g.message "INSUFFICIENT_LIQUIDITY"
  | .ok b => b ≠ [] ∧ ∃ err, Abi.decodeOutputs method.outputs b = .error err ∧
    Text.containsText err "INSUFFICIENT_LIQUIDITY"

namespace Abi

theorem decodeOutputs_uint_head {bits : Nat} {ts : List Ty} {b : Bytes} {vs : List Value}
    (decoded : decodeOutputs (.uint bits :: ts) b = .ok vs) : ∃ rest, vs = .uint (wordAt b 0) :: rest := by
  obtain ⟨_, _, items⟩ := decodeOutputs_eq_ok (List.cons_ne_nil _ _) decoded
  obtain ⟨v, rest, rfl, first, _⟩ := decodeItems_cons_of_ok items
  exact ⟨rest, by rw [decodeAt_uint_of_ok first]⟩

theorem decodeOutputs_single {t : Ty} {b : Bytes} {vs : List Value}
    (decoded : decodeOutputs [t] b = .ok vs) : ∃ v, vs = [v] := by
  obtain ⟨_, _, items⟩ := decodeOutputs_eq_ok (List.cons_ne_nil _ _) decoded
  obtain ⟨v, rest, rfl, _, others⟩ := decodeItems_cons_of_ok items
  simp only [decodeItems, Except.ok.injEq] at others
  exact ⟨v, by rw [← others]⟩

end Abi

namespace Method

theorem readOutputs_of_decode {m : Method} (outputs : m.outputs ≠ []) {b : Bytes}
    {vs : List Abi.Value} (decoded : Abi.decodeOutputs m.outputs b = .ok vs) :
    m.readOutputs (.ok b) = .ok vs := by
  obtain ⟨t, ts, shape⟩ := List.exists_cons_of_ne_nil outputs
  obtain ⟨_, full, items⟩ := Abi.decodeOutputs_eq_ok outputs decoded
  rw [shape] at items
  obtain ⟨v, rest, rfl, _, _⟩ := Abi.decodeItems_cons_of_ok items
  have some : b.isEmpty = false := by simpa using full
  simp [readOutputs, some, decoded]

theorem not_reportsShortage_of_read {m : Method} {a : Outcome Bytes} {vs : List Abi.Value}
    (read : m.readOutputs a = .ok vs) : ¬m.ReportsShortage a := by
  obtain ⟨b, rfl, decoded⟩ := readOutputs_eq_ok read
  rintro ⟨-, err, failed, -⟩
  rw [decoded] at failed
  cases failed

theorem shortage_in_context {m : Method} (quoting : m = quoteExactInputSingle ∨ m = getAmountsOut)
    {verb : String} (verbIs : verb = "call " ∨ verb = "unpack ") (s : String) :
    Text.containsText (verb ++ m.name ++ ": " ++ s) "INSUFFICIENT_LIQUIDITY" =
      Text.containsText s "INSUFFICIENT_LIQUIDITY" := by
  apply Text.containsText_append
  rcases quoting with rfl | rfl <;> rcases verbIs with rfl | rfl <;> decide

theorem readOutputs_error_shortage {m : Method}
    (quoting : m = quoteExactInputSingle ∨ m = getAmountsOut) {a : Outcome Bytes} {f : Failure}
    (failed : m.readOutputs a = .error f) :
    Text.containsText f.message "INSUFFICIENT_LIQUIDITY" = true ↔ m.ReportsShortage a := by
  have full : m.outputs.isEmpty = false := by rcases quoting with rfl | rfl <;> rfl
  cases a with
  | error g =>
    simp only [readOutputs, Except.error.injEq] at failed
    subst failed
    show Text.containsText ("call " ++ m.name ++ ": " ++ g.message) _ = true ↔ _
    rw [shortage_in_context quoting (.inl rfl)]
    rfl
  | ok b =>
    by_cases empty : b = []
    · subst empty
      simp only [readOutputs, List.isEmpty_nil, full, Bool.not_false, Bool.and_self, if_true,
        Except.error.injEq] at failed
      subst failed
      simp only [ReportsShortage, ne_eq, not_true_eq_false, false_and, iff_false]
      rcases quoting with rfl | rfl <;> decide
    · have some : b.isEmpty = false := by simpa using empty
      simp only [readOutputs, some, Bool.false_and, Bool.false_eq_true, if_false] at failed
      split at failed
      · rename_i err decoded
        simp only [Except.error.injEq] at failed
        subst failed
        show Text.containsText ("unpack " ++ m.name ++ ": " ++ err) _ = true ↔ _
        rw [shortage_in_context quoting (.inr rfl)]
        simp [ReportsShortage, empty, decoded]
      · rename_i decoded
        simp only [Except.error.injEq] at failed
        subst failed
        have quiet : Text.containsText ("unpack " ++ m.name ++ ": no values")
            "INSUFFICIENT_LIQUIDITY" = false := by
          rcases quoting with rfl | rfl <;> decide
        simp [Failure.plain, quiet, ReportsShortage, decoded]
      · cases failed

end Method

namespace Quoter

theorem callFailure_has (leg : Leg) (f : Failure) (mk : Mark) :
    (callFailure leg f).has mk = (mk == .quote ||
      if Text.containsText f.message "INSUFFICIENT_LIQUIDITY" then mk == .insufficientLiquidity
      else f.has mk) := by
  unfold callFailure
  split <;> simp [quoteFailure, Failure.has, beq_eq_decide]

theorem singleQuoteOut_eq_ok {leg : Leg} {outputs : Outcome (List Abi.Value)} {v : ℤ} :
    singleQuoteOut leg outputs = .ok v ↔ ∃ out rest, outputs = .ok (.uint out :: rest) ∧ v = out := by
  rcases outputs with f | _ | ⟨first, rest⟩
  · simp [singleQuoteOut]
  · simp [singleQuoteOut]
  · cases first <;> simp [singleQuoteOut, eq_comm]

theorem amountOut_eq_ok {leg : Leg} {outputs : Outcome (List Abi.Value)} {v : ℤ} :
    amountOut leg outputs = .ok v ↔ ∃ items rest out, outputs = .ok (.array items :: rest) ∧
      2 ≤ items.length ∧ items.getLast? = some (.uint out) ∧ v = out := by
  rcases outputs with f | _ | ⟨first, rest⟩
  · simp [amountOut]
  · simp [amountOut]
  · cases first with
    | array items =>
      cases last : items.getLast? with
      | none => simp [amountOut, last]
      | some item =>
        cases item <;> by_cases few : items.length < 2 <;> simp [amountOut, last, few, eq_comm]
        omega
    | _ => simp [amountOut]

section Read

variable (leg : Leg)

theorem readQuote_call_error (f : Failure) : readQuote leg (.error f) = .error (callFailure leg f) := by
  unfold readQuote
  split <;> rfl

theorem singleQuoteOut_ok_error {vs : List Abi.Value} {e : Failure}
    (failed : singleQuoteOut leg (.ok vs) = .error e) : e.marks = [.quote] := by
  rcases vs with _ | ⟨first, rest⟩
  · cases failed
    rfl
  · cases first <;> cases failed <;> rfl

theorem amountOut_ok_error {vs : List Abi.Value} {e : Failure}
    (failed : amountOut leg (.ok vs) = .error e) : e.marks = [.quote] := by
  rcases vs with _ | ⟨first, rest⟩
  · cases failed
    rfl
  · cases first with
    | array items =>
      simp only [amountOut] at failed
      split at failed
      · split at failed
        · cases failed
          rfl
        · cases failed
      · cases failed
        rfl
    | _ =>
      cases failed
      rfl

theorem readQuote_ok_error {vs : List Abi.Value} {e : Failure}
    (failed : readQuote leg (.ok vs) = .error e) : e.marks = [.quote] := by
  unfold readQuote at failed
  split at failed
  · exact singleQuoteOut_ok_error leg failed
  · exact amountOut_ok_error leg failed

theorem amountOut_read_eq_ok {a : Outcome Bytes} {v : ℤ} :
    amountOut leg (getAmountsOut.readOutputs a) = .ok v ↔ ∃ b, a = .ok b ∧ ∃ items out,
      Abi.decodeOutputs getAmountsOut.outputs b = .ok [.array items] ∧ 2 ≤ items.length ∧
        items.getLast? = some (.uint out) ∧ v = out := by
  rw [amountOut_eq_ok]
  constructor
  · rintro ⟨items, rest, out, read, few, last, rfl⟩
    obtain ⟨b, rfl, decoded⟩ := Method.readOutputs_eq_ok read
    obtain ⟨_, one⟩ := Abi.decodeOutputs_single decoded
    obtain ⟨-, rfl⟩ := List.cons_eq_cons.1 one
    exact ⟨b, rfl, items, out, decoded, few, last, rfl⟩
  · rintro ⟨b, rfl, items, out, decoded, few, last, rfl⟩
    exact ⟨items, [], out, Method.readOutputs_of_decode (List.cons_ne_nil _ _) decoded, few, last, rfl⟩

theorem readQuote_eq_ok (known : leg.kind ≠ .unknown) {a : Outcome Bytes} {v : ℤ} :
    readQuote leg (leg.kind.quoteMethod.readOutputs a) = .ok v ↔
      ∃ b, a = .ok b ∧ leg.kind.ReadsQuote b v := by
  cases kind : leg.kind with
  | unknown => exact absurd kind known
  | concentrated =>
    simp only [readQuote, kind, if_true, DexKind.quoteMethod, DexKind.ReadsQuote,
      singleQuoteOut_eq_ok]
    constructor
    · rintro ⟨out, rest, read, rfl⟩
      obtain ⟨b, rfl, decoded⟩ := Method.readOutputs_eq_ok read
      obtain ⟨_, first⟩ := Abi.decodeOutputs_uint_head decoded
      obtain ⟨word, -⟩ := List.cons_eq_cons.1 first
      exact ⟨b, rfl, ⟨_, decoded⟩, by rw [Abi.Value.uint.inj word]⟩
    · rintro ⟨b, rfl, ⟨vs, decoded⟩, rfl⟩
      obtain ⟨rest, rfl⟩ := Abi.decodeOutputs_uint_head decoded
      exact ⟨_, rest, Method.readOutputs_of_decode (List.cons_ne_nil _ _) decoded, rfl⟩
  | volatile =>
    simp only [readQuote, kind, reduceCtorEq, if_false, DexKind.quoteMethod, DexKind.ReadsQuote,
      DexKind.isConstantProduct, true_and]
    exact amountOut_read_eq_ok leg
  | stable =>
    simp only [readQuote, kind, reduceCtorEq, if_false, DexKind.quoteMethod, DexKind.ReadsQuote,
      DexKind.isConstantProduct, true_and]
    exact amountOut_read_eq_ok leg

theorem readQuote_error {a : Outcome Bytes} (unmarked : ∀ g, a = .error g → g.marks = [])
    {e : Failure} (failed : readQuote leg (leg.kind.quoteMethod.readOutputs a) = .error e) :
    e.has .quote ∧ e.has .unsupportedDex = false ∧
      (e.has .insufficientLiquidity ↔ leg.kind.quoteMethod.ReportsShortage a) := by
  have quoting : leg.kind.quoteMethod = quoteExactInputSingle ∨
      leg.kind.quoteMethod = getAmountsOut := by
    cases leg.kind <;> simp [DexKind.quoteMethod]
  have outputs : leg.kind.quoteMethod.outputs ≠ [] := by
    rcases quoting with known | known <;> rw [known] <;> simp [quoteExactInputSingle, getAmountsOut]
  cases read : leg.kind.quoteMethod.readOutputs a with
  | error f =>
    rw [read, readQuote_call_error] at failed
    cases failed
    have only := (Method.readOutputs_error outputs unmarked read).1
    have noDex : f.has .unsupportedDex = false := Bool.eq_false_iff.2 fun h => by cases only _ h
    have noShort : f.has .insufficientLiquidity = false :=
      Bool.eq_false_iff.2 fun h => by cases only _ h
    rw [← Method.readOutputs_error_shortage quoting read]
    by_cases hit : Text.containsText f.message "INSUFFICIENT_LIQUIDITY" <;>
      simp [callFailure_has, hit, noDex, noShort]
  | ok vs =>
    rw [read] at failed
    have marks := readQuote_ok_error leg failed
    simp [Failure.has, marks, Method.not_reportsShortage_of_read read]

end Read

/-- A quote makes at most one call, that of `callFor`, and succeeds exactly with what the leg's kind
reads off the answer; every failure is a quote failure, unsupported or short of liquidity
exactly when the inputs say so. -/
theorem quote_makes_one_call (c : ScriptedChain) (unmarked : c.Unmarked)
    (q : Quoter (StateM (List ChainRead))) (wired : q.reader = some c.reader ∨ q.reader = none)
    (leg : Leg)
    (amountIn : Option ℤ) (reads : List ChainRead) {res : Outcome ℤ} {after : List ChainRead}
    (run : (q.quote leg amountIn).run reads = (res, after)) :
    after = reads ++ (q.callFor leg amountIn).toList.map (ChainRead.call · none) ∧
      (∀ v, res = .ok v ↔ ∃ msg b, q.callFor leg amountIn = some msg ∧ c.answer msg none = .ok b ∧
        leg.kind.ReadsQuote b v) ∧
      ∀ e, res = .error e → e.has .quote ∧
        (e.has .unsupportedDex ↔ (∃ a ∈ amountIn, 0 < a) ∧ leg.kind = .unknown) ∧
        (e.has .insufficientLiquidity ↔ ∃ msg, q.callFor leg amountIn = some msg ∧
          leg.kind.quoteMethod.ReportsShortage (c.answer msg none)) := by
  cases call : q.callFor leg amountIn with
  | none =>
    obtain ⟨e, quoted, quote, quiet, dex⟩ := quote_run_without_call leg reads call
    rw [quoted, Prod.mk.injEq] at run
    obtain ⟨rfl, rfl⟩ := run
    refine ⟨by simp, by simp, ?_⟩
    rintro _ ⟨⟩
    exact ⟨quote, dex, by simp [quiet]⟩
  | some msg =>
    obtain ⟨reading, a, given, positive, quoted⟩ := (callFor_eq_some q leg).1 call
    have wired : q.reader = some c.reader := wired.resolve_right fun none => by simp [none] at reading
    rw [quote_run_of_call leg reads wired call, Prod.mk.injEq] at run
    obtain ⟨rfl, rfl⟩ := run
    have known : leg.kind ≠ .unknown := fun unknown => by
      rw [(quoteCall_eq_none q leg _).2 (.inl unknown)] at quoted
      cases quoted
    refine ⟨by simp, fun v => ?_, fun e failed => ?_⟩
    · rw [readQuote_eq_ok leg known]
      simp
    · obtain ⟨quote, dex, short⟩ := readQuote_error leg (unmarked.1 msg none) failed
      exact ⟨quote, by simp [dex, known], by simp [short]⟩

end Quoter

namespace Abi

theorem decodeAt_uint_word {bits index n : Nat} {output : Bytes} (read : wordAt output index = n)
    (fits : n < 2 ^ bits ∨ checkedWidth bits = false) (room : index + 32 ≤ output.length) :
    decodeAt (.uint bits) index output = .ok (.uint n) := by
  rw [decodeAt, if_neg (by omega), read]
  rcases fits with fits | unchecked
  · simp [readUint, Nat.not_le.2 fits]
  · simp [readUint, unchecked]

end Abi

/-- The answer of a quoter: the amount out 1800000000, then three zero words for the price after,
the ticks crossed and the gas estimate. -/
def quoteAnswer : Bytes := [1800000000, 0, 0, 0].flatMap Abi.word

theorem quoteAnswer_decoded :
    Abi.decodeOutputs quoteExactInputSingle.outputs quoteAnswer =
      .ok [.uint 1800000000, .uint 0, .uint 0, .uint 0] := by
  have long : quoteAnswer.length = 128 := by simp [quoteAnswer]
  have items : Abi.decodeItems quoteExactInputSingle.outputs 0 quoteAnswer =
      .ok [.uint 1800000000, .uint 0, .uint 0, .uint 0] := by
    refine Abi.decodeItems_cons_ok (Abi.decodeAt_uint_word (by decide +kernel) (.inr rfl)
      (by omega)) ?_
    refine Abi.decodeItems_cons_ok (Abi.decodeAt_uint_word (by decide +kernel) (.inr rfl)
      (by simp [Abi.Ty.headSize, long])) ?_
    refine Abi.decodeItems_cons_ok (Abi.decodeAt_uint_word (by decide +kernel) (.inl (by norm_num))
      (by simp [Abi.Ty.headSize, long])) ?_
    refine Abi.decodeItems_cons_ok (Abi.decodeAt_uint_word (by decide +kernel) (.inr rfl)
      (by simp [Abi.Ty.headSize, long])) ?_
    rw [Abi.decodeItems]
  have full : quoteAnswer.isEmpty = false := by simp [← List.length_eq_zero_iff, long]
  rw [Abi.decodeOutputs, if_neg (by simp [long]), Abi.decodeArgs, full]
  exact items

theorem quoteAnswer_word : Abi.wordAt quoteAnswer 0 = 1800000000 := by
  decide +kernel

/-- A chain that answers every call with `quoteAnswer`. -/
def quoteChain : ScriptedChain where
  answer _ _ := .ok quoteAnswer
  head := .ok 0

theorem quoteChain_unmarked : quoteChain.Unmarked :=
  ⟨fun _ _ _ failed => (by cases failed), fun _ failed => (by cases failed)⟩

/-- A quoter reading `quoteChain`, its quoter contract at address 1. -/
def chainQuoter : Quoter (StateM (List ChainRead)) where
  reader := some quoteChain.reader
  quoter := Address.ofNat 1
  routers := {}

/-- A concentrated-liquidity leg of fee tier 500 from token 2 to token 3. -/
def tierLeg : Leg where
  pool := Address.ofNat 4
  kind := .concentrated
  tokenIn := Address.ofNat 2
  tokenOut := Address.ofNat 3
  zeroForOne := true
  fee := some 500
  stable := none
  factory := Address.zero

theorem tierLeg_quote (msg : CallMsg) :
    Quoter.readQuote tierLeg (tierLeg.kind.quoteMethod.readOutputs (quoteChain.answer msg none)) =
      .ok 1800000000 :=
  (Quoter.readQuote_eq_ok tierLeg (by decide)).2
    ⟨quoteAnswer, rfl, ⟨_, quoteAnswer_decoded⟩, by rw [quoteAnswer_word]; rfl⟩

theorem chainQuoter_run {a : ℤ} (positive : 0 < a) {n : ℕ} (low : (a % 2 ^ 256).toNat = n) :
    (chainQuoter.quote tierLeg (some a)).run [] =
      (.ok 1800000000, [.call { target := some chainQuoter.quoter,
                                data := Quoter.singleQuoteData tierLeg.tokenIn tierLeg.tokenOut n 500 }
                          none]) := by
  rw [Quoter.quote_run_call tierLeg [] rfl positive rfl, tierLeg_quote, low]
  rfl

theorem quote_five_along_tier :
    quoteChain.Unmarked ∧ chainQuoter.reader = some quoteChain.reader ∧
      (chainQuoter.quote tierLeg (some 5)).run [] =
        (.ok 1800000000, [.call { target := some chainQuoter.quoter,
                                  data := Quoter.singleQuoteData tierLeg.tokenIn tierLeg.tokenOut 5 500 }
                            none]) ∧
      [.call { target := some chainQuoter.quoter,
               data := Quoter.singleQuoteData tierLeg.tokenIn tierLeg.tokenOut 5 500 } none] =
          [] ++ (chainQuoter.callFor tierLeg (some 5)).toList.map (ChainRead.call · none) ∧
        (∀ v, (.ok 1800000000 : Outcome ℤ) = .ok v ↔ ∃ msg b,
          chainQuoter.callFor tierLeg (some 5) = some msg ∧ quoteChain.answer msg none = .ok b ∧
            tierLeg.kind.ReadsQuote b v) ∧
        ∀ e, (.ok 1800000000 : Outcome ℤ) = .error e → e.has .quote ∧
          (e.has .unsupportedDex ↔ (∃ a ∈ some (5 : ℤ), 0 < a) ∧ tierLeg.kind = .unknown) ∧
          (e.has .insufficientLiquidity ↔ ∃ msg, chainQuoter.callFor tierLeg (some 5) = some msg ∧
            tierLeg.kind.quoteMethod.ReportsShortage (quoteChain.answer msg none)) :=
  have run := chainQuoter_run (a := 5) (by norm_num) rfl
  ⟨quoteChain_unmarked, rfl, run,
    Quoter.quote_makes_one_call quoteChain quoteChain_unmarked chainQuoter (.inl rfl) tierLeg (some 5) []
      run⟩

/-- Nothing refuses an amount of `2 ^ 256`: it is quoted as the amount 0, the call asks the quoter
contract for a swap of nothing, and its answer is taken for the quote. -/
theorem oversized_quote_amount_wraps :
    (chainQuoter.quote tierLeg (some (2 ^ 256))).run [] =
      (.ok 1800000000, [.call { target := some chainQuoter.quoter,
                                data := Quoter.singleQuoteData tierLeg.tokenIn tierLeg.tokenOut 0 500 }
                          none]) :=
  chainQuoter_run (by norm_num) (by norm_num)

end FlashArb
