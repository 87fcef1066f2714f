import Mathlib
import FlashArb.Proofs.ViewReading
import FlashArb.Proofs.StateTriples
import FlashArb.Proofs.ReadOnlyCalls

/-! A pool fetch runs against a chain that answers each call by its message and block, keeping the
reads made, in order. -/
namespace FlashArb

open Std.Do

set_option mvcgen.warning false

/-- One read of the chain: a call at a block (the latest when none), or the head block. -/
inductive ChainRead where
  | call (msg : CallMsg) (block : Option Nat)
  | head

/-- A chain that answers from a script: each call by its message and block, and the head. -/
structure ScriptedChain where
  answer : CallMsg → Option Nat → Outcome Bytes
  head : Outcome Nat

/-- The call of a view of `pool` without arguments. -/
def viewCall (pool : Address) (m : Method) : CallMsg := { target := some pool, data := m.callData [] }

namespace ScriptedChain

variable (c : ScriptedChain)

/-- The reader of the chain, keeping the reads made, in order. -/
def reader : ChainReader (StateM (List ChainRead)) where
  call msg block := do
    modify (· ++ [.call msg block])
    return c.answer msg block
  latestBlock := do
    modify (· ++ [.head])
    return c.head

/-- What the view `m` of `pool` answers at `block`. -/
def viewAnswer (pool : Address) (m : Method) (block : Option Nat) : Outcome Bytes :=
  c.answer (viewCall pool m) block

/-- The chain's failures carry no mark. -/
def Unmarked : Prop :=
  (∀ msg block f, c.answer msg block = .error f → f.marks = []) ∧ ∀ f, c.head = .error f → f.marks = []

/-- The address an address view of `pool` answers, when it answers one. -/
def addressOf (pool : Address) (m : Method) : Option Address :=
  match c.viewAnswer pool m none with
  | .ok b => Abi.addressWord? b
  | .error _ => none

/-- A read that answered empty data. -/
def EmptyRead : ChainRead → Prop
  | .call msg block => c.answer msg block = .ok []
  | .head => False

/-- The last of the reads answered empty data. -/
def EndsOnEmptyRead (reads : List ChainRead) : Prop := ∃ x, reads.getLast? = some x ∧ c.EmptyRead x

theorem addressOf_eq_some {pool : Address} {m : Method} (hm : m.outputs = [.address]) {x : Address} :
    c.addressOf pool m = some x ↔ m.readOutputs (c.viewAnswer pool m none) = .ok [.address x] := by
  rw [Method.readOutputs_address hm]
  unfold addressOf
  cases c.viewAnswer pool m none <;> simp

theorem endsOnEmptyRead_call (reads : List ChainRead) (msg : CallMsg) (block : Option Nat) :
    c.EndsOnEmptyRead (reads ++ [.call msg block]) ↔ c.answer msg block = .ok [] := by
  simp [EndsOnEmptyRead, EmptyRead]

theorem not_endsOnEmptyRead_head (reads : List ChainRead) : ¬c.EndsOnEmptyRead (reads ++ [.head]) := by
  simp [EndsOnEmptyRead, EmptyRead]

/-- A failure after the reads `reads`: the pool is not found exactly when the last read answered
empty data, and the pair never mismatches. -/
def Classified (reads : List ChainRead) (e : Failure) : Prop :=
  (e.has .poolNotFound ↔ c.EndsOnEmptyRead reads) ∧ e.has .pairMismatch = false

theorem classified_of_marks_nil {reads : List ChainRead} {e : Failure} (plain : e.marks = [])
    (full : ¬c.EndsOnEmptyRead reads) : c.Classified reads e := by
  simp [Classified, Failure.has, plain, full]

theorem poolFailure_classified (unmarked : c.Unmarked) {m : Method} (outputs : m.outputs ≠ [])
    {pool : Address} {block : Option Nat} {e : Failure}
    (h : m.readOutputs (c.viewAnswer pool m block) = .error e) (reads : List ChainRead) :
    c.Classified (reads ++ [.call (viewCall pool m) block]) (poolFailure pool e) := by
  have ⟨only, empty⟩ := Method.readOutputs_error outputs (fun f failed => unmarked.1 _ _ f failed) h
  have ⟨found, mismatch⟩ := poolFailure_has only pool
  exact ⟨(found.trans empty).trans (c.endsOnEmptyRead_call _ _ _).symm, mismatch⟩

theorem not_endsOnEmptyRead_of_read {m : Method} (outputs : m.outputs ≠ []) {pool : Address}
    {block : Option Nat} {vs : List Abi.Value} (h : m.readOutputs (c.viewAnswer pool m block) = .ok vs)
    (reads : List ChainRead) : ¬c.EndsOnEmptyRead (reads ++ [.call (viewCall pool m) block]) := by
  obtain ⟨b, answer, decoded⟩ := Method.readOutputs_eq_ok h
  obtain ⟨_, full, _⟩ := Abi.decodeOutputs_eq_ok outputs decoded
  rw [c.endsOnEmptyRead_call]
  exact fun empty => full (Except.ok.inj ((answer.symm.trans empty)))

/-- The tokens `t0` and `t1` are the loan and quote tokens, in either order. -/
def HoldsPair (loan quote t0 t1 : Address) : Prop := (t0 = loan ∧ t1 = quote) ∨ (t0 = quote ∧ t1 = loan)

/-- Both token views of `pool` answer, with tokens that are not the loan and quote tokens. -/
def WrongPair (loan quote pool : Address) : Prop :=
  ∃ t0 t1, c.addressOf pool PoolViews.token0 = some t0 ∧ c.addressOf pool PoolViews.token1 = some t1 ∧
    ¬HoldsPair loan quote t0 t1

/-- The state of `pool` configured as `kind` after its token views: both answered, with the loan
and quote tokens. -/
inductive ReadsPair (loan quote pool : Address) (kind : DexKind) : PoolState → Prop
  | mk {t0 t1 : Address} (token0 : c.addressOf pool PoolViews.token0 = some t0)
      (token1 : c.addressOf pool PoolViews.token1 = some t1) (pair : HoldsPair loan quote t0 t1) :
      ReadsPair loan quote pool kind
        { address := pool, kind, token0 := t0, token1 := t1, token0IsLoan := t0 == loan }

/-- The details of pool state `s` read from its views: fee tier, or stable flag and factory. -/
inductive ReadsDetails (s : PoolState) : PoolState → Prop
  | concentrated {b : Bytes} (kind : s.kind = .concentrated)
      (fee : c.viewAnswer s.address PoolViews.fee none = .ok b) :
      ReadsDetails s { s with fee := some (UInt32.ofNat (Abi.wordAt b 0 % 2 ^ 32)) }
  | constantProduct {b : Bytes} {stable : Bool} {factory : Address} (kind : s.kind ≠ .concentrated)
      (flag : c.viewAnswer s.address PoolViews.stable none = .ok b)
      (word : Abi.readBool (Abi.wordAt b 0) = .ok (.bool stable))
      (factoryView : c.addressOf s.address PoolViews.factory = some factory) :
      ReadsDetails s { s with stable := some stable, kind := if stable then .stable else .volatile, factory }

/-- The state of `pool` configured as `kind`, read from its views: its tokens, then its details. -/
inductive ReadsPool (loan quote pool : Address) (kind : DexKind) : PoolState → Prop
  | concentrated {t0 t1 : Address} {b : Bytes} (configured : kind = .concentrated)
      (token0 : c.addressOf pool PoolViews.token0 = some t0)
      (token1 : c.addressOf pool PoolViews.token1 = some t1) (pair : HoldsPair loan quote t0 t1)
      (fee : c.viewAnswer pool PoolViews.fee none = .ok b) :
      ReadsPool loan quote pool kind
        { address := pool, kind, token0 := t0, token1 := t1, token0IsLoan := t0 == loan,
          fee := some (UInt32.ofNat (Abi.wordAt b 0 % 2 ^ 32)) }
  | constantProduct {t0 t1 factory : Address} {b : Bytes} {stable : Bool}
      (configured : kind.isConstantProduct)
      (token0 : c.addressOf pool PoolViews.token0 = some t0)
      (token1 : c.addressOf pool PoolViews.token1 = some t1) (pair : HoldsPair loan quote t0 t1)
      (flag : c.viewAnswer pool PoolViews.stable none = .ok b)
      (word : Abi.readBool (Abi.wordAt b 0) = .ok (.bool stable))
      (factoryView : c.addressOf pool PoolViews.factory = some factory) :
      ReadsPool loan quote pool kind
        { address := pool, kind := if stable then .stable else .volatile, token0 := t0, token1 := t1,
          token0IsLoan := t0 == loan, stable := some stable, factory }

/-- The snapshot of `s` read at the chain's head: the square-root price and an int24 tick
answered by slot0, or both reserves answered by getReserves, at that block. -/
inductive ReadsSnapshot (s : PoolState) : PoolSnapshot → Prop
  | concentrated {head : Nat} {b : Bytes} (kind : s.kind = .concentrated) (block : c.head = .ok head)
      (answer : c.viewAnswer s.address PoolViews.slot0 (some head) = .ok b)
      (low : -2 ^ 23 ≤ Abi.signed (Abi.wordAt b 32)) (high : Abi.signed (Abi.wordAt b 32) < 2 ^ 23) :
      ReadsSnapshot s { address := s.address, kind := s.kind, token0 := s.token0, token1 := s.token1,
                        block := some head, sqrtPrice := some (Abi.wordAt b 0),
                        tick := some (Abi.signed (Abi.wordAt b 32)) }
  | constantProduct {head : Nat} {b : Bytes} (kind : s.kind ≠ .concentrated) (block : c.head = .ok head)
      (answer : c.viewAnswer s.address PoolViews.getReserves (some head) = .ok b) :
      ReadsSnapshot s { address := s.address, kind := s.kind, token0 := s.token0, token1 := s.token1,
                        block := some head, reserve0 := some (Abi.wordAt b 0),
                        reserve1 := some (Abi.wordAt b 32) }

theorem wrongPair_iff {loan quote pool t0 t1 : Address}
    (token0 : c.addressOf pool PoolViews.token0 = some t0)
    (token1 : c.addressOf pool PoolViews.token1 = some t1) :
    c.WrongPair loan quote pool ↔ ¬HoldsPair loan quote t0 t1 := by
  simp [WrongPair, token0, token1]

/-- A failed fetch after the reads `reads`: the pool is not found exactly when the last read
answered empty data, and mismatched exactly when its tokens are not the loan and quote tokens. -/
def FetchFailure (loan quote pool : Address) (reads : List ChainRead) (e : Failure) : Prop :=
  (e.has .poolNotFound ↔ c.EndsOnEmptyRead reads) ∧ (e.has .pairMismatch ↔ c.WrongPair loan quote pool)

/-- What a fetch of `pool` configured as `kind` answers after the reads `reads`. -/
def Fetched (loan quote pool : Address) (kind : DexKind) (r : Outcome (PoolState × PoolSnapshot))
    (reads : List ChainRead) : Prop :=
  (∀ s snap, r = .ok (s, snap) → c.ReadsPool loan quote pool kind s ∧ c.ReadsSnapshot s snap) ∧
    ∀ e, r = .error e → c.FetchFailure loan quote pool reads e

section Phases

variable {c} {loan quote pool : Address} {kind : DexKind} {reads : List ChainRead}

theorem Classified.fetchFailure {e : Failure} (h : c.Classified reads e)
    (right : ¬c.WrongPair loan quote pool) : c.FetchFailure loan quote pool reads e := by
  simp [FetchFailure, h.1, h.2, right]

theorem ReadsPair.not_wrongPair {s : PoolState} (h : c.ReadsPair loan quote pool kind s) :
    ¬c.WrongPair loan quote pool := by
  obtain ⟨token0, token1, pair⟩ := h
  simpa [c.wrongPair_iff token0 token1] using pair

theorem fetchFailure_of_mismatch {t0 t1 : Address} (token0 : c.addressOf pool PoolViews.token0 = some t0)
    (token1 : c.addressOf pool PoolViews.token1 = some t1) (wrong : ¬HoldsPair loan quote t0 t1)
    (message : String) (reads : List ChainRead) :
    c.FetchFailure loan quote pool (reads ++ [.call (viewCall pool PoolViews.token1) none])
      ⟨message, [.pairMismatch]⟩ := by
  have full := c.not_endsOnEmptyRead_of_read (by simp [PoolViews.token1])
    ((c.addressOf_eq_some rfl).1 token1) reads
  simp [FetchFailure, full, c.wrongPair_iff token0 token1, wrong]

theorem fetched_error {e : Failure} (h : c.FetchFailure loan quote pool reads e) :
    c.Fetched loan quote pool kind (.error e) reads :=
  ⟨by rintro _ _ ⟨⟩, fun _ same => by cases same; exact h⟩

theorem fetched_ok {s : PoolState} {snap : PoolSnapshot} (state : c.ReadsPool loan quote pool kind s)
    (snapshot : c.ReadsSnapshot s snap) : c.Fetched loan quote pool kind (.ok (s, snap)) reads :=
  ⟨fun _ _ same => by cases same; exact ⟨state, snapshot⟩, by rintro _ ⟨⟩⟩

theorem ReadsPool.of_phases {s₀ s : PoolState} (fetchable : kind = .concentrated ∨ kind.isConstantProduct)
    (pair : c.ReadsPair loan quote pool kind s₀) (details : c.ReadsDetails s₀ s) :
    c.ReadsPool loan quote pool kind s := by
  obtain ⟨token0, token1, holds⟩ := pair
  cases details with
  | concentrated kind fee => exact .concentrated kind token0 token1 holds fee
  | constantProduct other flag word factoryView =>
    have configured : kind.isConstantProduct := fetchable.resolve_left other
    exact .constantProduct configured token0 token1 holds flag word factoryView

theorem ReadsPool.header {s : PoolState} (h : c.ReadsPool loan quote pool kind s) :
    s.address = pool ∧ s.hasPair loan quote ∧ s.token0IsLoan = (s.token0 == loan) := by
  cases h with
  | concentrated _ _ _ pair | constantProduct _ _ _ pair =>
    refine ⟨rfl, ?_, rfl⟩
    simpa [PoolState.hasPair, HoldsPair] using pair

theorem ReadsPool.fee_of_concentrated {s : PoolState} (h : c.ReadsPool loan quote pool kind s)
    (concentrated : kind = .concentrated) :
    ∃ b, c.viewAnswer pool PoolViews.fee none = .ok b ∧
      s.fee.map UInt32.toNat = some (Abi.wordAt b 0 % 2 ^ 32) ∧ s.stable = none := by
  cases h with
  | concentrated _ _ _ _ fee =>
    refine ⟨_, fee, ?_, rfl⟩
    simp
  | constantProduct configured => simp [concentrated, DexKind.isConstantProduct] at configured

end Phases

variable {c} (loan quote : Address)

/-- The fetcher of the loan and quote tokens reading this chain. -/
abbrev fetcher : Fetcher (StateM (List ChainRead)) := ⟨c.reader, loan, quote⟩

theorem view_spec (pool : Address) (m : Method) (block : Option Nat) (R₀ : List ChainRead) :
    ⦃fun R => ⌜R = R₀⌝⦄ (c.fetcher loan quote).view pool m block
      ⦃⇓ r R => ⌜R = R₀ ++ [.call (viewCall pool m) block] ∧
        r = m.readOutputs (c.viewAnswer pool m block)⌝⦄ := by
  simp only [Fetcher.view, callMethod, reader]
  mvcgen
  simp_all +zetaDelta [viewAnswer, viewCall]

theorem head_spec (R₀ : List ChainRead) :
    ⦃fun R => ⌜R = R₀⌝⦄ (c.fetcher loan quote).reader.latestBlock
      ⦃⇓ r R => ⌜R = R₀ ++ [.head] ∧ r = c.head⌝⦄ := by
  simp only [reader]
  mvcgen
  simp_all +zetaDelta

variable (c)

theorem viewAddress_spec (unmarked : c.Unmarked) (pool : Address) {m : Method}
    (address : m.outputs = [.address]) (R₀ : List ChainRead) :
    ⦃fun R => ⌜R = R₀⌝⦄ (c.fetcher loan quote).viewAddress pool m
      ⦃⇓ r R => ⌜R = R₀ ++ [.call (viewCall pool m) none] ∧
        (∀ a, r = .ok a ↔ c.addressOf pool m = some a) ∧ ∀ e, r = .error e → c.Classified R e⌝⦄ := by
  have view := view_spec (c := c) loan quote pool m none R₀
  unfold Fetcher.viewAddress
  mvcgen [view]
  · rename_i e _ _ h
    obtain ⟨rfl, read⟩ := h
    refine ⟨rfl, fun a => ?_, ?_⟩
    · simp [c.addressOf_eq_some address, ← read]
    · rintro _ ⟨⟩
      exact c.poolFailure_classified unmarked (by simp [address]) read.symm R₀
  · rename_i a tail _ _ h
    obtain ⟨rfl, read⟩ := h
    obtain ⟨b, x, _, _, same⟩ := (Method.readOutputs_address address).1 read.symm
    cases same
    refine ⟨rfl, fun a' => ?_, by rintro _ ⟨⟩⟩
    simp [c.addressOf_eq_some address, ← read]
  · rename_i vs other _ _ h
    obtain ⟨rfl, read⟩ := h
    obtain ⟨b, x, _, _, rfl⟩ := (Method.readOutputs_address address).1 read.symm
    exact (other x [] rfl).elim

theorem readSnapshot_spec (unmarked : c.Unmarked) (s : PoolState) (R₀ : List ChainRead) :
    ⦃fun R => ⌜R = R₀⌝⦄ (c.fetcher loan quote).readSnapshot s
      ⦃⇓ r R => ⌜(∀ snap, r = .ok snap → c.ReadsSnapshot s snap) ∧
        ∀ e, r = .error e → c.Classified R e⌝⦄ := by
  have head := head_spec (c := c) loan quote
  have view := view_spec (c := c) loan quote
  unfold Fetcher.readSnapshot
  mvcgen [head, view]
  · rename_i e _ _ h
    obtain ⟨rfl, failed⟩ := h
    refine ⟨by rintro _ ⟨⟩, ?_⟩
    rintro _ ⟨⟩
    exact c.classified_of_marks_nil (unmarked.2 e failed.symm) (c.not_endsOnEmptyRead_head _)
  · rename_i _ _ _ _ _ e _ _ h
    obtain ⟨rfl, read⟩ := h
    refine ⟨by rintro _ ⟨⟩, ?_⟩
    rintro _ ⟨⟩
    exact c.poolFailure_classified unmarked (by simp [PoolViews.slot0]) read.symm _
  · rename_i _ _ _ _ _ vs _ e tick _ h
    obtain ⟨rfl, read⟩ := h
    refine ⟨by rintro _ ⟨⟩, ?_⟩
    rintro _ ⟨⟩
    have plain := int24?_eq_error tick
    exact c.classified_of_marks_nil plain (c.not_endsOnEmptyRead_of_read (by simp [PoolViews.slot0]) read.symm _)
  · rename_i _ head _ _ kind _ block _ vs _ t tick _ h
    obtain ⟨rfl, read⟩ := h
    obtain ⟨b, answer, _, first, second⟩ := PoolViews.slot0_read read.symm
    rw [second] at tick
    obtain ⟨rfl, low, high⟩ := int24?_eq_ok tick
    refine ⟨?_, by rintro _ ⟨⟩⟩
    rintro _ ⟨⟩
    have concentrated : s.kind = .concentrated := by simpa using kind
    simp only [first]
    exact .concentrated concentrated block.2.symm answer low high
  · rename_i _ _ _ _ _ e _ _ h
    obtain ⟨rfl, read⟩ := h
    refine ⟨by rintro _ ⟨⟩, ?_⟩
    rintro _ ⟨⟩
    exact c.poolFailure_classified unmarked (by simp [PoolViews.getReserves]) read.symm _
  · rename_i _ head _ _ kind _ block _ vs _ _ h
    obtain ⟨rfl, read⟩ := h
    obtain ⟨b, answer, _, first, second⟩ := PoolViews.getReserves_read read.symm
    refine ⟨?_, by rintro _ ⟨⟩⟩
    rintro _ ⟨⟩
    have constantProduct : s.kind ≠ .concentrated := by simpa using kind
    simp only [first, second]
    exact .constantProduct constantProduct block.2.symm answer

theorem emit_spec (entry : LogEntry) (R₀ : List ChainRead) :
    ⦃fun R => ⌜R = R₀⌝⦄ (LogSink.emit entry : StateM (List ChainRead) Unit) ⦃⇓ _ R => ⌜R = R₀⌝⦄ :=
  keeps_spec (f := id) (fun _ => rfl) R₀

theorem logKindCorrection_spec (pool : Address) (configured actual : DexKind) (R₀ : List ChainRead) :
    ⦃fun R => ⌜R = R₀⌝⦄
      (Fetcher.logKindCorrection pool configured actual : StateM (List ChainRead) Unit)
      ⦃⇓ _ R => ⌜R = R₀⌝⦄ := by
  unfold Fetcher.logKindCorrection
  mvcgen [emit_spec, Log.info]

theorem readPair_spec (unmarked : c.Unmarked) (pool : Address) (kind : DexKind) (R₀ : List ChainRead) :
    ⦃fun R => ⌜R = R₀⌝⦄ (c.fetcher loan quote).readPair pool kind
      ⦃⇓ r R => ⌜(∀ s, r = .ok s → c.ReadsPair loan quote pool kind s) ∧
        ∀ e, r = .error e → c.FetchFailure loan quote pool R e⌝⦄ := by
  have token0 := c.viewAddress_spec loan quote unmarked pool (m := PoolViews.token0) rfl
  have token1 := c.viewAddress_spec loan quote unmarked pool (m := PoolViews.token1) rfl
  unfold Fetcher.readPair
  mvcgen [token0, token1]
  · rename_i e _ _ h
    obtain ⟨rfl, read, failed⟩ := h
    refine ⟨by rintro _ ⟨⟩, fun _ same => ?_⟩
    cases same
    refine (failed e rfl).fetchFailure ?_
    rintro ⟨t0, _, found, _⟩
    cases (read t0).2 found
  · rename_i e _ _ h
    obtain ⟨rfl, read, failed⟩ := h
    refine ⟨by rintro _ ⟨⟩, fun _ same => ?_⟩
    cases same
    refine (failed e rfl).fetchFailure ?_
    rintro ⟨_, t1, _, found, _⟩
    cases (read t1).2 found
  · rename_i t0 _ _ h0 _ t1 _ state mismatch _ h1
    obtain ⟨rfl, read1, _⟩ := h1
    refine ⟨by rintro _ ⟨⟩, fun _ same => ?_⟩
    cases same
    have wrong : ¬HoldsPair loan quote t0 t1 := by
      simpa [state, PoolState.hasPair, HoldsPair, or_iff_not_imp_left] using mismatch
    exact fetchFailure_of_mismatch ((h0.2.1 t0).1 rfl) ((read1 t1).1 rfl) wrong _ _
  · rename_i t0 _ _ h0 _ t1 _ state holds _ h1
    refine ⟨fun _ same => ?_, by rintro _ ⟨⟩⟩
    cases same
    have pair : HoldsPair loan quote t0 t1 := by
      simpa [state, PoolState.hasPair, HoldsPair, or_iff_not_imp_left, not_and_or] using holds
    exact .mk ((h0.2.1 t0).1 rfl) ((h1.2.1 t1).1 rfl) pair

theorem readDetails_spec (unmarked : c.Unmarked) (s : PoolState) (R₀ : List ChainRead) :
    ⦃fun R => ⌜R = R₀⌝⦄ (c.fetcher loan quote).readDetails s
      ⦃⇓ r R => ⌜(∀ s', r = .ok s' → c.ReadsDetails s s') ∧ ∀ e, r = .error e → c.Classified R e⌝⦄ := by
  have factory := c.viewAddress_spec loan quote unmarked s.address (m := PoolViews.factory) rfl
  have view := view_spec (c := c) loan quote
  unfold Fetcher.readDetails
  mvcgen [factory, view, logKindCorrection_spec]
  · rename_i e _ _ h
    obtain ⟨rfl, read⟩ := h
    refine ⟨by rintro _ ⟨⟩, fun _ same => ?_⟩
    cases same
    exact c.poolFailure_classified unmarked (by simp [PoolViews.fee]) read.symm _
  · rename_i concentrated _ _ _ vs _ _ h
    obtain ⟨rfl, read⟩ := h
    obtain ⟨b, answer, _, first⟩ := PoolViews.fee_read read.symm
    refine ⟨fun _ same => ?_, by rintro _ ⟨⟩⟩
    cases same
    simp only [first]
    exact .concentrated (by simpa using concentrated) answer
  · rename_i e _ _ h
    obtain ⟨rfl, read⟩ := h
    refine ⟨by rintro _ ⟨⟩, fun _ same => ?_⟩
    cases same
    exact c.poolFailure_classified unmarked (by simp [PoolViews.stable]) read.symm _
  · rename_i e _ _ h
    refine ⟨by rintro _ ⟨⟩, fun _ same => ?_⟩
    cases same
    exact h.2.2 e rfl
  · rename_i other _ _ _ vs _ flagged actual _ flag _ _ _ _ factory _ _ h
    obtain ⟨b, stable, answer, _, word, first⟩ := PoolViews.stable_read flag.2.symm
    refine ⟨fun _ same => ?_, by rintro _ ⟨⟩⟩
    cases same
    simp only [actual, flagged, first]
    exact .constantProduct (by simpa using other) answer word ((h.2.1 factory).1 rfl)

theorem fetchPool_spec (unmarked : c.Unmarked) (pool : Address) {kind : DexKind}
    (fetchable : kind = .concentrated ∨ kind.isConstantProduct) (R₀ : List ChainRead) :
    ⦃fun R => ⌜R = R₀⌝⦄ (c.fetcher loan quote).fetchPool pool kind
      ⦃⇓ r R => ⌜c.Fetched loan quote pool kind r R⌝⦄ := by
  have pair := c.readPair_spec loan quote unmarked pool kind
  have details := c.readDetails_spec loan quote unmarked
  have snapshot := c.readSnapshot_spec loan quote unmarked
  unfold Fetcher.fetchPool
  mvcgen [pair, details, snapshot]
  · rename_i unsupported _ _
    rcases fetchable with rfl | constantProduct
    · simp at unsupported
    · simp [constantProduct] at unsupported
  · rename_i e _ _ h
    exact fetched_error (h.2 e rfl)
  · rename_i s₀ _ _ read _ e _ _ h
    exact fetched_error ((h.2 e rfl).fetchFailure (read.1 s₀ rfl).not_wrongPair)
  · rename_i s₀ _ _ read _ _ _ _ _ _ e _ _ h
    exact fetched_error ((h.2 e rfl).fetchFailure (read.1 s₀ rfl).not_wrongPair)
  · rename_i s₀ _ _ read _ s _ _ detailed _ snap _ _ h
    exact fetched_ok (.of_phases fetchable (read.1 s₀ rfl) (detailed.1 s rfl)) (h.1 snap rfl)

/-- A fetch of `pool` configured as `kind` fails at once for an unsupported kind; a fetched state is
the pool's and carries what its views answered; a failure is "not found" or a pair mismatch
exactly when the reads say so. -/
theorem fetchPool_reads_pool_views (unmarked : c.Unmarked) (pool : Address) (kind : DexKind) :
    ⦃fun R => ⌜R = []⌝⦄ (c.fetcher loan quote).fetchPool pool kind
      ⦃⇓ r R => ⌜(¬(kind = .concentrated ∨ kind.isConstantProduct) →
            R = [] ∧ ∃ message, r = .error ⟨message, [.unsupportedDex]⟩) ∧
          (∀ s snap, r = .ok (s, snap) →
            s.address = pool ∧ s.hasPair loan quote ∧ s.token0IsLoan = (s.token0 == loan) ∧
            (kind = .concentrated → ∃ b, c.viewAnswer pool PoolViews.fee none = .ok b ∧
              s.fee.map UInt32.toNat = some (Abi.wordAt b 0 % 2 ^ 32) ∧ s.stable = none) ∧
            c.ReadsPool loan quote pool kind s ∧ c.ReadsSnapshot s snap) ∧
          ∀ e, r = .error e → (e.has .poolNotFound ↔ c.EndsOnEmptyRead R) ∧
            (kind = .concentrated ∨ kind.isConstantProduct →
              (e.has .pairMismatch ↔ c.WrongPair loan quote pool))⌝⦄ := by
  by_cases fetchable : kind = .concentrated ∨ kind.isConstantProduct
  · refine triple_of_run fun R fresh => ?_
    have ⟨fetched, failed⟩ := run_of_triple (c.fetchPool_spec loan quote unmarked pool fetchable []) R fresh
    refine ⟨fun unsupported => absurd fetchable unsupported, fun s snap found => ?_,
      fun e found => ⟨(failed e found).1, fun _ => (failed e found).2⟩⟩
    have ⟨state, snapshot⟩ := fetched s snap found
    have ⟨address, pair, loanFirst⟩ := state.header
    exact ⟨address, pair, loanFirst, state.fee_of_concentrated, state, snapshot⟩
  · rw [Fetcher.fetchPool_unsupported _ pool fetchable]
    refine triple_of_run fun R fresh => ?_
    subst fresh
    refine ⟨fun _ => ⟨rfl, _, rfl⟩, fun _ _ failed => (by cases failed), fun e same => ?_⟩
    cases same
    simp [EndsOnEmptyRead, fetchable]

end ScriptedChain

/-- Seven zero words, what the chain below answers at any block but the latest. -/
def zeroWords : Bytes := (List.replicate 7 0).flatMap Abi.word

theorem wordAt_zeroWords (o : Nat) : Abi.wordAt zeroWords o = 0 := by
  have zeros : zeroWords = List.replicate 224 0 := by decide +kernel
  rw [zeros, Abi.wordAt, Bytes.toNat_eq_zero_iff, Bytes.slice, List.drop_replicate, List.take_replicate,
    List.length_replicate]

theorem slot0_zeroWords : PoolViews.slot0.readOutputs (.ok zeroWords) =
    .ok [.uint 0, .int 0, .uint 0, .uint 0, .uint 0, .uint 0, .bool false] := by
  have length : zeroWords.length = 224 := by simp [zeroWords]
  have items : Abi.decodeItems PoolViews.slot0.outputs 0 zeroWords =
      .ok [.uint 0, .int 0, .uint 0, .uint 0, .uint 0, .uint 0, .bool false] := by
    refine Abi.decodeItems_cons_ok ?_ (Abi.decodeItems_cons_ok ?_ (Abi.decodeItems_cons_ok ?_
      (Abi.decodeItems_cons_ok ?_ (Abi.decodeItems_cons_ok ?_ (Abi.decodeItems_cons_ok ?_
        (Abi.decodeItems_cons_ok ?_ (by rw [Abi.decodeItems])))))))
    all_goals rw [Abi.decodeAt, if_neg (by simp [length, Abi.Ty.headSize]), wordAt_zeroWords]; rfl
  have full : zeroWords.isEmpty = false := by simp [← List.length_eq_zero_iff, length]
  simp only [Method.readOutputs, full, Bool.false_and, Bool.false_eq_true, if_false, Abi.decodeOutputs,
    Abi.decodeArgs, length]
  rw [if_neg (by decide), items]

/-- A word beyond 32 bits. -/
def wideWord : Nat := 2 ^ 32 + 500

/-- A chain whose views answer the wide word at the latest block and seven zero words at any
other, with head 1. -/
def wideFeeChain : ScriptedChain where
  answer _ block := match block with
    | none => .ok (Abi.word wideWord)
    | some _ => .ok zeroWords
  head := .ok 1

theorem wideFeeChain_unmarked : wideFeeChain.Unmarked :=
  ⟨fun _ block _ failed => (by cases block <;> cases failed), fun _ failed => (by cases failed)⟩

/-- The token both token views of the chain answer. -/
def wideFeeToken : Address := Address.ofNat wideWord

theorem wide_address {m : Method} (hm : m.outputs = [.address]) :
    m.readOutputs (.ok (Abi.word wideWord)) = .ok [.address wideFeeToken] :=
  (Method.readOutputs_address hm).2 ⟨_, _, rfl, by decide +kernel, rfl⟩

theorem wide_fee : PoolViews.fee.readOutputs (.ok (Abi.word wideWord)) = .ok [.uint wideWord] := by
  have word : Abi.wordAt (Abi.word wideWord) 0 = wideWord := by decide +kernel
  have items : Abi.decodeItems PoolViews.fee.outputs 0 (Abi.word wideWord) = .ok [.uint wideWord] := by
    refine Abi.decodeItems_cons_ok ?_ (by rw [Abi.decodeItems])
    rw [Abi.decodeAt_uint rfl (by simp), word]
  have full : (Abi.word wideWord).isEmpty = false := by simp [← List.length_eq_zero_iff]
  simp only [Method.readOutputs, full, Bool.false_and, Bool.false_eq_true, if_false, Abi.decodeOutputs,
    Abi.decodeArgs, Abi.length_word]
  rw [if_neg (by decide), items]

theorem wideFee_latest (p : Address) (m : Method) :
    wideFeeChain.viewAnswer p m none = .ok (Abi.word wideWord) := rfl

theorem wideFee_at (p : Address) (m : Method) (h : Nat) :
    wideFeeChain.viewAnswer p m (some h) = .ok zeroWords := rfl

theorem wideFee_head : wideFeeChain.head = .ok 1 := rfl

theorem wide_fee_fetch_reads_views :
    wideFeeChain.Unmarked ∧
      ⦃fun R => ⌜R = []⌝⦄
        (wideFeeChain.fetcher wideFeeToken wideFeeToken).fetchPool Address.zero .concentrated
        ⦃⇓ r R => ⌜(¬(DexKind.concentrated = .concentrated ∨ DexKind.concentrated.isConstantProduct) →
              R = [] ∧ ∃ message, r = .error ⟨message, [.unsupportedDex]⟩) ∧
            (∀ s snap, r = .ok (s, snap) →
              s.address = Address.zero ∧ s.hasPair wideFeeToken wideFeeToken ∧
              s.token0IsLoan = (s.token0 == wideFeeToken) ∧
              (DexKind.concentrated = .concentrated →
                ∃ b, wideFeeChain.viewAnswer Address.zero PoolViews.fee none = .ok b ∧
                  s.fee.map UInt32.toNat = some (Abi.wordAt b 0 % 2 ^ 32) ∧ s.stable = none) ∧
              wideFeeChain.ReadsPool wideFeeToken wideFeeToken Address.zero .concentrated s ∧
              wideFeeChain.ReadsSnapshot s snap) ∧
            ∀ e, r = .error e → (e.has .poolNotFound ↔ wideFeeChain.EndsOnEmptyRead R) ∧
              (DexKind.concentrated = .concentrated ∨ DexKind.concentrated.isConstantProduct →
                (e.has .pairMismatch ↔ wideFeeChain.WrongPair wideFeeToken wideFeeToken Address.zero))⌝⦄ :=
  ⟨wideFeeChain_unmarked, ScriptedChain.fetchPool_reads_pool_views wideFeeChain wideFeeToken wideFeeToken
    wideFeeChain_unmarked Address.zero .concentrated⟩

/-- The fee view answering 2^32 + 500 gives the fee tier 500: the fee is the word modulo 2^32. -/
theorem wide_fee_word_wraps :
    wideFeeChain.viewAnswer Address.zero PoolViews.fee none = .ok (Abi.word (2 ^ 32 + 500)) ∧
      ⦃fun R => ⌜R = []⌝⦄
        (wideFeeChain.fetcher wideFeeToken wideFeeToken).fetchPool Address.zero .concentrated
        ⦃⇓ r _ => ⌜r = .ok ({ address := Address.zero, kind := .concentrated, token0 := wideFeeToken,
                              token1 := wideFeeToken, token0IsLoan := true, fee := some 500 },
                            { address := Address.zero, kind := .concentrated, token0 := wideFeeToken,
                              token1 := wideFeeToken, block := some 1, sqrtPrice := some 0,
                              tick := some 0 })⌝⦄ := by
  refine ⟨rfl, ?_⟩
  have view := ScriptedChain.view_spec (c := wideFeeChain) wideFeeToken wideFeeToken
  have head := ScriptedChain.head_spec (c := wideFeeChain) wideFeeToken wideFeeToken
  unfold Fetcher.fetchPool Fetcher.readPair Fetcher.readDetails Fetcher.readSnapshot Fetcher.viewAddress
  mvcgen [view, head]
  all_goals simp_all +zetaDelta [wideFee_latest, wideFee_at, wide_address (m := PoolViews.token0) rfl,
    wide_address (m := PoolViews.token1) rfl, wide_fee, slot0_zeroWords, wideFee_head, int24?,
    PoolState.hasPair]
  decide

end FlashArb
