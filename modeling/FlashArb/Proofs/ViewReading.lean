import Mathlib
import FlashArb.Dex.Fetch
import FlashArb.Proofs.AbiReading

/-! What the views of a pool answer once decoded. -/
namespace FlashArb

namespace Failure

@[simp] theorem marks_wrap (f : Failure) (context : String) : (f.wrap context).marks = f.marks := rfl

@[simp] theorem has_wrap (f : Failure) (context : String) (m : Mark) :
    (f.wrap context).has m = f.has m := rfl

@[simp] theorem has_plain (message : String) (m : Mark) : (Failure.plain message).has m = false := rfl

@[simp] theorem has_mk (message : String) (marks : List Mark) (m : Mark) :
    ({ message, marks } : Failure).has m = marks.contains m := rfl

/-- The failure of a view carries no mark but, perhaps, that its answer was empty. -/
def OnlyEmpty (f : Failure) : Prop := ∀ m, f.has m → m = .emptyReturn

end Failure

namespace Abi

variable {b : Bytes} {o : Nat} {v : Value}

theorem decodeAt_uint_of_ok {bits : Nat} (h : decodeAt (.uint bits) o b = .ok v) :
    v = .uint (wordAt b o) := by
  by_cases short : o + 32 > b.length
  · rw [decodeAt, if_pos short] at h
    cases h
  · rw [decodeAt, if_neg short] at h
    unfold readUint at h
    split at h <;> cases h
    rfl

theorem decodeAt_int_of_ok {bits : Nat} (h : decodeAt (.int bits) o b = .ok v) :
    v = .int (signed (wordAt b o)) := by
  by_cases short : o + 32 > b.length
  · rw [decodeAt, if_pos short] at h
    cases h
  · rw [decodeAt, if_neg short] at h
    unfold readInt at h
    dsimp only at h
    split at h <;> cases h
    rfl

theorem decodeAt_bool_of_ok (h : decodeAt .bool o b = .ok v) : readBool (wordAt b o) = .ok v := by
  by_cases short : o + 32 > b.length
  · rw [decodeAt, if_pos short] at h
    cases h
  · rwa [decodeAt, if_neg short] at h

theorem decodeItems_cons_of_ok {t : Ty} {ts : List Ty} {vs : List Value}
    (h : decodeItems (t :: ts) o b = .ok vs) :
    ∃ v rest, vs = v :: rest ∧ decodeAt t o b = .ok v ∧ decodeItems ts (o + t.headSize) b = .ok rest := by
  rw [decodeItems] at h
  cases first : decodeAt t o b with
  | error e => simp [first, bind, Except.bind] at h
  | ok v =>
    cases others : decodeItems ts (o + t.headSize) b with
    | error e => simp [first, others, bind, Except.bind] at h
    | ok rest =>
      simp only [first, others, bind, Except.bind, pure, Except.pure, Except.ok.injEq] at h
      exact ⟨v, rest, h.symm, rfl, rfl⟩

/-- The address in the first word of an answer made of whole words, at least one. -/
def addressWord? (b : Bytes) : Option Address :=
  if b ≠ [] ∧ b.length % 32 = 0 then some (Address.ofNat (wordAt b 0)) else none

theorem decodeItems_cons_ok {t : Ty} {ts : List Ty} {o : Nat} {b : Bytes} {v : Value}
    {vs : List Value} (head : decodeAt t o b = .ok v)
    (rest : decodeItems ts (o + t.headSize) b = .ok vs) : decodeItems (t :: ts) o b = .ok (v :: vs) := by
  rw [decodeItems, head, rest]
  rfl

theorem decodeOutputs_eq_ok {ts : List Ty} {vs : List Value} (some : ts ≠ [])
    (h : decodeOutputs ts b = .ok vs) :
    b.length % 32 = 0 ∧ b ≠ [] ∧ decodeItems ts 0 b = .ok vs := by
  unfold decodeOutputs at h
  split at h
  · cases h
  · rename_i whole
    unfold decodeArgs at h
    split at h
    · rename_i empty
      have : ts.isEmpty = false := by simpa using some
      simp [this] at h
    · rename_i full
      refine ⟨by simpa using whole, by simpa using full, h⟩

end Abi

theorem Method.readOutputs_eq_ok {m : Method} {a : Outcome Bytes} {vs : List Abi.Value}
    (h : m.readOutputs a = .ok vs) : ∃ b, a = .ok b ∧ Abi.decodeOutputs m.outputs b = .ok vs := by
  unfold Method.readOutputs at h
  split at h
  · cases h
  · rename_i b
    split at h
    · cases h
    · split at h
      · cases h
      · cases h
      · rename_i decoded
        cases h
        exact ⟨b, rfl, decoded⟩

theorem Method.readOutputs_address {m : Method} (hm : m.outputs = [.address]) {a : Outcome Bytes}
    {vs : List Abi.Value} :
    m.readOutputs a = .ok vs ↔ ∃ b x, a = .ok b ∧ Abi.addressWord? b = some x ∧ vs = [.address x] := by
  constructor
  · intro h
    obtain ⟨b, rfl, decoded⟩ := Method.readOutputs_eq_ok h
    rw [hm] at decoded
    obtain ⟨whole, full, items⟩ := Abi.decodeOutputs_eq_ok (List.cons_ne_nil _ _) decoded
    obtain ⟨v, rest, rfl, first, others⟩ := Abi.decodeItems_cons_of_ok items
    have room : 0 + 32 ≤ b.length := by
      have : b.length ≠ 0 := by simpa using full
      omega
    rw [Abi.decodeAt_address room] at first
    cases first
    simp only [Abi.decodeItems, Except.ok.injEq] at others
    subst others
    exact ⟨b, _, rfl, by simp [Abi.addressWord?, full, whole], rfl⟩
  · rintro ⟨b, x, rfl, found, rfl⟩
    unfold Abi.addressWord? at found
    split at found
    · rename_i shape
      cases found
      have room : 0 + 32 ≤ b.length := by
        have : b.length ≠ 0 := by simpa using shape.1
        omega
      have nonempty : b.isEmpty = false := by simpa using shape.1
      simp only [Method.readOutputs, nonempty, Bool.false_and, Bool.false_eq_true, if_false, hm,
        Abi.decodeOutputs, Abi.decodeArgs, shape.2, Abi.decodeItems, Abi.decodeAt_address room]
      rfl
    · cases found

theorem Method.readOutputs_error {m : Method} (outputs : m.outputs ≠ []) {a : Outcome Bytes}
    {e : Failure} (unmarked : ∀ f, a = .error f → f.marks = []) (h : m.readOutputs a = .error e) :
    e.OnlyEmpty ∧ (e.has .emptyReturn ↔ a = .ok []) := by
  have full : m.outputs.isEmpty = false := by simpa using outputs
  cases a with
  | error f =>
    simp only [Method.readOutputs, Except.error.injEq] at h
    subst h
    have none := unmarked f rfl
    refine ⟨fun mk marked => ?_, ?_⟩
    · simp [Failure.has, none] at marked
    · simp [Failure.has, none]
  | ok b =>
    unfold Method.readOutputs at h
    by_cases empty : b = []
    · subst empty
      simp only [List.isEmpty_nil, full, Bool.not_false, Bool.and_self, if_true,
        Except.error.injEq] at h
      subst h
      refine ⟨fun mk marked => ?_, by simp⟩
      simpa using marked
    · have some : b.isEmpty = false := by simpa using empty
      simp only [some, Bool.false_and, Bool.false_eq_true, if_false] at h
      have plain : e.marks = [] := by
        split at h <;> first | (cases h; rfl) | cases h
      refine ⟨fun mk marked => ?_, ?_⟩
      · simp [Failure.has, plain] at marked
      · simp [Failure.has, plain, empty]

theorem poolFailure_has {e : Failure} (h : e.OnlyEmpty) (pool : Address) :
    ((poolFailure pool e).has .poolNotFound ↔ e.has .emptyReturn) ∧
      (poolFailure pool e).has .pairMismatch = false := by
  unfold poolFailure
  split
  · rename_i empty
    simp [empty]
  · rename_i full
    have notFound : e.has .poolNotFound = false := by
      cases found : e.has .poolNotFound
      · rfl
      · cases h _ found
    have mismatch : e.has .pairMismatch = false := by
      cases found : e.has .pairMismatch
      · rfl
      · cases h _ found
    simp [notFound, mismatch, full]

theorem Method.readOutputs_cons {m : Method} {t : Abi.Ty} {ts : List Abi.Ty} (hm : m.outputs = t :: ts)
    {a : Outcome Bytes} {vs : List Abi.Value} (h : m.readOutputs a = .ok vs) :
    ∃ b v rest, a = .ok b ∧ b ≠ [] ∧ vs = v :: rest ∧ Abi.decodeAt t 0 b = .ok v ∧
      Abi.decodeItems ts t.headSize b = .ok rest := by
  obtain ⟨b, rfl, decoded⟩ := Method.readOutputs_eq_ok h
  rw [hm] at decoded
  obtain ⟨_, full, items⟩ := Abi.decodeOutputs_eq_ok (List.cons_ne_nil _ _) decoded
  obtain ⟨v, rest, rfl, first, others⟩ := Abi.decodeItems_cons_of_ok items
  exact ⟨b, v, rest, rfl, full, rfl, first, by simpa using others⟩

namespace PoolViews

variable {a : Outcome Bytes} {vs : List Abi.Value}

theorem slot0_read (h : slot0.readOutputs a = .ok vs) :
    ∃ b, a = .ok b ∧ b ≠ [] ∧ vs.head? = some (.uint (Abi.wordAt b 0)) ∧
      vs.getD 1 default = .int (Abi.signed (Abi.wordAt b 32)) := by
  obtain ⟨b, v, rest, rfl, full, rfl, first, others⟩ := Method.readOutputs_cons rfl h
  obtain ⟨w, _, rfl, second, _⟩ := Abi.decodeItems_cons_of_ok others
  cases Abi.decodeAt_uint_of_ok first
  cases Abi.decodeAt_int_of_ok second
  exact ⟨b, rfl, full, rfl, rfl⟩

theorem getReserves_read (h : getReserves.readOutputs a = .ok vs) :
    ∃ b, a = .ok b ∧ b ≠ [] ∧ vs.head? = some (.uint (Abi.wordAt b 0)) ∧
      vs.getD 1 default = .uint (Abi.wordAt b 32) := by
  obtain ⟨b, v, rest, rfl, full, rfl, first, others⟩ := Method.readOutputs_cons rfl h
  obtain ⟨w, _, rfl, second, _⟩ := Abi.decodeItems_cons_of_ok others
  cases Abi.decodeAt_uint_of_ok first
  cases Abi.decodeAt_uint_of_ok second
  exact ⟨b, rfl, full, rfl, rfl⟩

theorem fee_read (h : fee.readOutputs a = .ok vs) :
    ∃ b, a = .ok b ∧ b ≠ [] ∧ vs.head? = some (.uint (Abi.wordAt b 0)) := by
  obtain ⟨b, v, rest, rfl, full, rfl, first, _⟩ := Method.readOutputs_cons rfl h
  cases Abi.decodeAt_uint_of_ok first
  exact ⟨b, rfl, full, rfl⟩

theorem stable_read (h : stable.readOutputs a = .ok vs) :
    ∃ b x, a = .ok b ∧ b ≠ [] ∧ Abi.readBool (Abi.wordAt b 0) = .ok (.bool x) ∧
      vs.head? = some (.bool x) := by
  obtain ⟨b, v, rest, rfl, full, rfl, first, _⟩ := Method.readOutputs_cons rfl h
  have word := Abi.decodeAt_bool_of_ok first
  have : ∃ x, v = .bool x := by
    unfold Abi.readBool at word
    split at word
    · cases word; exact ⟨false, rfl⟩
    · split at word
      · cases word; exact ⟨true, rfl⟩
      · cases word
  obtain ⟨x, rfl⟩ := this
  exact ⟨b, x, rfl, full, word, rfl⟩

end PoolViews

theorem int24?_eq_ok {v t : Int} (h : int24? v = .ok t) : t = v ∧ -2 ^ 23 ≤ v ∧ v < 2 ^ 23 := by
  unfold int24? at h
  split at h
  · cases h
  · rename_i inside
    cases h
    simp only [Bool.or_eq_true, decide_eq_true_eq, not_or] at inside
    omega

theorem int24?_eq_error {v : Int} {e : Failure} (h : int24? v = .error e) : e.marks = [] := by
  unfold int24? at h
  split at h <;> cases h
  rfl

theorem Fetcher.fetchPool_unsupported {m : Type → Type} [Monad m] [LogSink m] (f : Fetcher m)
    (pool : Address) {kind : DexKind} (unsupported : ¬(kind = .concentrated ∨ kind.isConstantProduct)) :
    f.fetchPool pool kind =
      pure (.error ⟨"fetch " ++ pool.checksum ++ ": unsupported dex kind: " ++ kind.name, [.unsupportedDex]⟩) := by
  have flag : (kind == .concentrated || kind.isConstantProduct) = false := by
    simpa [not_or] using unsupported
  simp [Fetcher.fetchPool, flag]


end FlashArb
