import FlashArb.Chain.Address

/-! A finite map from addresses, kept as a list of entries in increasing address order. -/
namespace FlashArb

/-- Entries in increasing address order. -/
structure AddressMap (α : Type) where
  entries : List (Address × α) := []

namespace AddressMap

variable {α : Type}

def empty : AddressMap α := {}

/-- Ordered insertion that overwrites the value at an existing key. -/
def insertEntry (key : Address) (value : α) : List (Address × α) → List (Address × α)
  | [] => [(key, value)]
  | (other, previous) :: rest =>
    if key = other then (key, value) :: rest
    else if key < other then (key, value) :: (other, previous) :: rest
    else (other, previous) :: insertEntry key value rest

def lookupEntry (key : Address) : List (Address × α) → Option α
  | [] => none
  | (other, value) :: rest => if key = other then some value else lookupEntry key rest

def insert (m : AddressMap α) (key : Address) (value : α) : AddressMap α :=
  ⟨insertEntry key value m.entries⟩

def get? (m : AddressMap α) (key : Address) : Option α := lookupEntry key m.entries

def contains (m : AddressMap α) (key : Address) : Bool := (m.get? key).isSome

def size (m : AddressMap α) : Nat := m.entries.length

def keys (m : AddressMap α) : List Address := m.entries.map (·.1)

def values (m : AddressMap α) : List α := m.entries.map (·.2)

@[simp] theorem get?_empty (key : Address) : (empty : AddressMap α).get? key = none := rfl

theorem lookupEntry_insertEntry_same (key : Address) (value : α) (entries : List (Address × α)) :
    lookupEntry key (insertEntry key value entries) = some value := by
  induction entries with
  | nil => simp [insertEntry, lookupEntry]
  | cons entry rest ih =>
    rcases entry with ⟨other, previous⟩
    by_cases equal : key = other
    · simp [insertEntry, lookupEntry, equal]
    · by_cases less : key < other <;> simp [insertEntry, lookupEntry, equal, less, ih]

theorem lookupEntry_insertEntry_other (key other : Address) (value : α)
    (entries : List (Address × α)) (different : other ≠ key) :
    lookupEntry other (insertEntry key value entries) = lookupEntry other entries := by
  induction entries with
  | nil => simp [insertEntry, lookupEntry, different]
  | cons entry rest ih =>
    rcases entry with ⟨head, previous⟩
    by_cases equal : key = head
    · subst head
      simp [insertEntry, lookupEntry, different]
    · by_cases less : key < head <;> simp [insertEntry, lookupEntry, equal, less, different, ih]

@[simp] theorem get?_insert_same (m : AddressMap α) (key : Address) (value : α) :
    (m.insert key value).get? key = some value :=
  lookupEntry_insertEntry_same key value m.entries

theorem get?_insert_other (m : AddressMap α) (key other : Address) (value : α)
    (different : other ≠ key) : (m.insert key value).get? other = m.get? other :=
  lookupEntry_insertEntry_other key other value m.entries different

def Sorted (m : AddressMap α) : Prop := m.entries.Pairwise fun a b => a.1 < b.1

theorem mem_insertEntry {key : Address} {value : α} {entries : List (Address × α)}
    {entry : Address × α} (h : entry ∈ insertEntry key value entries) :
    entry = (key, value) ∨ entry ∈ entries := by
  induction entries with
  | nil => simpa [insertEntry] using h
  | cons head rest ih =>
    rcases head with ⟨other, previous⟩
    unfold insertEntry at h
    split at h
    · rcases List.mem_cons.mp h with h | h
      · exact .inl h
      · exact .inr (List.mem_cons_of_mem _ h)
    · split at h
      · rcases List.mem_cons.mp h with h | h
        · exact .inl h
        · exact .inr h
      · rcases List.mem_cons.mp h with h | h
        · exact .inr (h ▸ List.mem_cons_self)
        · exact (ih h).imp_right (List.mem_cons_of_mem _)

theorem insertEntry_sorted (key : Address) (value : α) (entries : List (Address × α))
    (sorted : entries.Pairwise fun a b => a.1 < b.1) :
    (insertEntry key value entries).Pairwise fun a b => a.1 < b.1 := by
  induction entries with
  | nil => simp [insertEntry]
  | cons head rest ih =>
    rcases head with ⟨other, previous⟩
    obtain ⟨above, restSorted⟩ := List.pairwise_cons.mp sorted
    unfold insertEntry
    split
    · subst key
      exact List.pairwise_cons.mpr ⟨above, restSorted⟩
    · split
      · -- the new key goes in front of a larger one
        refine List.pairwise_cons.mpr ⟨fun entry h => ?_, sorted⟩
        rcases List.mem_cons.mp h with rfl | h
        · assumption
        · exact Nat.lt_trans ‹key < other› (above entry h)
      · -- the new key is larger than this one and goes further in
        have larger : other < key := by
          have : key.toNat ≠ other.toNat := fun e => ‹¬key = other› (by cases key; cases other; simp_all)
          change other.toNat < key.toNat
          have : ¬key.toNat < other.toNat := ‹¬key < other›
          omega
        refine List.pairwise_cons.mpr ⟨fun entry h => ?_, ih restSorted⟩
        rcases mem_insertEntry h with rfl | h
        · exact larger
        · exact above entry h

theorem Sorted.insert {m : AddressMap α} (h : m.Sorted) (key : Address) (value : α) :
    (m.insert key value).Sorted :=
  insertEntry_sorted key value m.entries h

theorem sorted_empty : (empty : AddressMap α).Sorted := List.Pairwise.nil

theorem mem_of_lookupEntry {key : Address} {value : α} {entries : List (Address × α)}
    (h : lookupEntry key entries = some value) : (key, value) ∈ entries := by
  induction entries with
  | nil => simp [lookupEntry] at h
  | cons head rest ih =>
    rcases head with ⟨other, previous⟩
    unfold lookupEntry at h
    split at h
    · subst other
      simp_all
    · exact List.mem_cons_of_mem _ (ih h)

theorem lookupEntry_of_mem {key : Address} {value : α} {entries : List (Address × α)}
    (sorted : entries.Pairwise fun a b => a.1 < b.1) (h : (key, value) ∈ entries) :
    lookupEntry key entries = some value := by
  induction entries with
  | nil => simp at h
  | cons head rest ih =>
    rcases head with ⟨other, previous⟩
    obtain ⟨above, restSorted⟩ := List.pairwise_cons.mp sorted
    rcases List.mem_cons.mp h with first | later
    · simp_all [lookupEntry]
    · -- a later entry has a larger key, so the lookup passes this one
      have passed : key ≠ other := by
        intro e
        subst e
        exact Nat.lt_irrefl _ (above (key, value) later)
      simp [lookupEntry, passed, ih restSorted later]

/-- In a sorted map, a key holds a value exactly when the pair is an entry. -/
theorem get?_eq_some_iff {m : AddressMap α} (h : m.Sorted) {key : Address} {value : α} :
    m.get? key = some value ↔ (key, value) ∈ m.entries :=
  ⟨mem_of_lookupEntry, lookupEntry_of_mem h⟩

end AddressMap

end FlashArb
