import Mathlib
import FlashArb.Pool.Cache

/-! The pool cache keeps sixteen stripes, and an address only ever goes to the stripe of its last
byte. -/
namespace FlashArb

theorem Address.toNat_ne {a b : Address} (h : a ≠ b) : a.toNat ≠ b.toNat := by
  intro same
  cases a
  cases b
  simp_all

namespace PoolCache

variable {c : PoolCache} {pool key : Address}

theorem shard_modifyShard (c : PoolCache) (i : Fin 16) (f : PoolShard → PoolShard) (pool : Address) :
    (c.modifyShard i f).shard pool = if shardOf pool = i then f (c.shard pool) else c.shard pool := by
  unfold modifyShard shard
  by_cases h : shardOf pool = i
  · subst h
    simp
  · have hv : (i : Nat) ≠ (shardOf pool : Nat) := fun e => h (Fin.ext e).symm
    simp [hv, h]

theorem get?_modifyShard_insert {α : Type} (field : PoolShard → AddressMap α)
    (f : PoolShard → PoolShard) (value : α)
    (hf : ∀ sh, field (f sh) = (field sh).insert key value) (pool : Address) :
    (field ((c.modifyShard (shardOf key) f).shard pool)).get? pool =
      if pool = key then some value else (field (c.shard pool)).get? pool := by
  rw [shard_modifyShard]
  by_cases same : pool = key
  · subst same
    simp [hf]
  · rw [if_neg same]
    split
    · rw [hf, AddressMap.get?_insert_other _ _ _ _ same]
    · rfl

theorem get?_modifyShard_frame {α : Type} (field : PoolShard → AddressMap α) (i : Fin 16)
    (f : PoolShard → PoolShard) (hf : ∀ sh, field (f sh) = field sh) (pool : Address) :
    (field ((c.modifyShard i f).shard pool)).get? pool = (field (c.shard pool)).get? pool := by
  rw [shard_modifyShard]
  split <;> simp [hf]

@[simp] theorem getState?_upsertState (s : PoolState) (pool : Address) :
    (c.upsertState s).getState? pool = if pool = s.address then some s else c.getState? pool :=
  get?_modifyShard_insert (·.states) _ s (fun _ => rfl) pool

@[simp] theorem getSnapshot?_upsertState (s : PoolState) (pool : Address) :
    (c.upsertState s).getSnapshot? pool = c.getSnapshot? pool := by
  unfold upsertState getSnapshot?
  apply get?_modifyShard_frame (·.snapshots)
  intro _
  rfl

@[simp] theorem getState?_upsertSnapshot (p : PoolSnapshot) (pool : Address) :
    (c.upsertSnapshot p).getState? pool = c.getState? pool := by
  unfold upsertSnapshot getState?
  apply get?_modifyShard_frame (·.states)
  intro _
  rfl

@[simp] theorem getSnapshot?_upsertSnapshot (p : PoolSnapshot) (pool : Address) :
    (c.upsertSnapshot p).getSnapshot? pool = if pool = p.address then some p else c.getSnapshot? pool :=
  get?_modifyShard_insert (·.snapshots) _ p (fun _ => rfl) pool

@[simp] theorem getState?_upsert (s : PoolState) (p : PoolSnapshot) (pool : Address) :
    (c.upsert s p).getState? pool = if pool = s.address then some s else c.getState? pool :=
  get?_modifyShard_insert (·.states) _ s (fun _ => rfl) pool

@[simp] theorem getSnapshot?_upsert (s : PoolState) (p : PoolSnapshot) (pool : Address) :
    (c.upsert s p).getSnapshot? pool = if pool = s.address then some p else c.getSnapshot? pool :=
  get?_modifyShard_insert (·.snapshots) _ p (fun _ => rfl) pool

theorem updateSnapshot_eq (c : PoolCache) (pool : Address) (f : PoolSnapshot → PoolSnapshot) :
    c.updateSnapshot pool f = match c.getSnapshot? pool with
      | none => (false, c)
      | some p => (true, c.modifyShard (shardOf pool) fun sh =>
          { sh with snapshots := sh.snapshots.insert pool (f p) }) := by
  unfold updateSnapshot updateSnapshot?
  cases c.getSnapshot? pool <;> rfl

theorem shards_modifyShard (c : PoolCache) (i j : Fin 16) (f : PoolShard → PoolShard) :
    (c.modifyShard i f).shards.get j = if j = i then f (c.shards.get i) else c.shards.get j := by
  unfold modifyShard
  by_cases h : j = i
  · subst h
    simp [Vector.get_eq_getElem]
  · have hv : (i : Nat) ≠ (j : Nat) := fun e => h (Fin.ext e).symm
    simp [Vector.get_eq_getElem, hv, h]

/-- Every stripe's metadata is sorted by address, and each state is kept under its own address,
in the stripe that address goes to. -/
def Striped (c : PoolCache) : Prop :=
  ∀ i : Fin 16, (c.shards.get i).states.Sorted ∧
    ∀ e ∈ (c.shards.get i).states.entries, e.2.address = e.1 ∧ shardOf e.1 = i

@[simp] theorem shard_empty (pool : Address) : empty.shard pool = {} := by
  simp [shard, empty]

theorem striped_empty : empty.Striped := by
  intro i
  simp [empty, AddressMap.Sorted]

theorem Striped.modifyShard (h : c.Striped) (i : Fin 16) (f : PoolShard → PoolShard)
    (hf : (f (c.shards.get i)).states.Sorted ∧
      ∀ e ∈ (f (c.shards.get i)).states.entries, e.2.address = e.1 ∧ shardOf e.1 = i) :
    (c.modifyShard i f).Striped := by
  intro j
  rw [shards_modifyShard]
  split
  · subst j
    exact hf
  · exact h j

theorem Striped.insertState (h : c.Striped) (s : PoolState) (f : PoolShard → PoolShard)
    (hf : ∀ sh, (f sh).states = sh.states.insert s.address s) :
    (c.modifyShard (shardOf s.address) f).Striped := by
  refine h.modifyShard _ f ⟨?_, fun e he => ?_⟩
  · rw [hf]
    exact (h _).1.insert _ _
  · rw [hf] at he
    rcases AddressMap.mem_insertEntry he with rfl | old
    · exact ⟨rfl, rfl⟩
    · exact (h _).2 e old

theorem Striped.keepStates (h : c.Striped) (i : Fin 16) (f : PoolShard → PoolShard)
    (hf : ∀ sh, (f sh).states = sh.states) : (c.modifyShard i f).Striped :=
  h.modifyShard i f (by rw [hf]; exact h i)

theorem Striped.upsertState (h : c.Striped) (s : PoolState) : (c.upsertState s).Striped :=
  h.insertState s _ fun _ => rfl

theorem Striped.upsertSnapshot (h : c.Striped) (p : PoolSnapshot) : (c.upsertSnapshot p).Striped :=
  h.keepStates _ _ fun _ => rfl

theorem Striped.upsert (h : c.Striped) (s : PoolState) (p : PoolSnapshot) : (c.upsert s p).Striped :=
  h.insertState s _ fun _ => rfl

theorem Striped.updateSnapshot (h : c.Striped) (pool : Address) (f : PoolSnapshot → PoolSnapshot) :
    (c.updateSnapshot pool f).2.Striped := by
  rw [updateSnapshot_eq]
  split
  · exact h
  · exact h.keepStates _ _ fun _ => rfl

theorem mem_stateList {s : PoolState} :
    s ∈ c.stateList ↔ ∃ i : Fin 16, s ∈ (c.shards.get i).states.values := by
  simp only [stateList, List.mem_mergeSort, List.mem_flatMap, Vector.mem_toList_iff,
    Vector.mem_iff_getElem]
  constructor
  · rintro ⟨sh, ⟨i, hi, rfl⟩, hs⟩
    exact ⟨⟨i, hi⟩, hs⟩
  · rintro ⟨i, hs⟩
    exact ⟨_, ⟨i, i.2, rfl⟩, hs⟩

theorem Striped.mem_stateList_iff (h : c.Striped) (s : PoolState) :
    s ∈ c.stateList ↔ c.getState? s.address = some s := by
  rw [mem_stateList]
  constructor
  · rintro ⟨i, hs⟩
    obtain ⟨⟨k, s'⟩, he, rfl⟩ := List.mem_map.mp hs
    obtain ⟨hk, hi⟩ := (h i).2 _ he
    simp only at hk hi
    subst hk hi
    exact AddressMap.lookupEntry_of_mem (h _).1 he
  · intro found
    exact ⟨shardOf s.address, List.mem_map.mpr ⟨_, AddressMap.mem_of_lookupEntry found, rfl⟩⟩

theorem Striped.gathered_distinct (h : c.Striped) :
    (c.shards.toList.flatMap (·.states.values)).Pairwise fun a b => a.address ≠ b.address := by
  rw [List.pairwise_flatMap]
  constructor
  · intro sh hsh
    obtain ⟨i, hi, rfl⟩ := Vector.mem_iff_getElem.mp (Vector.mem_toList_iff.mp hsh)
    obtain ⟨sorted, keyed⟩ := h ⟨i, hi⟩
    unfold AddressMap.values
    rw [List.pairwise_map]
    refine sorted.imp_of_mem fun ha hb less same => ?_
    rw [(keyed _ ha).1, (keyed _ hb).1] at same
    rw [same] at less
    exact Nat.lt_irrefl _ less
  · rw [List.pairwise_iff_getElem]
    intro i j hi hj hij x hx y hy same
    simp only [Vector.length_toList] at hi hj
    simp only [Vector.getElem_toList] at hx hy
    obtain ⟨⟨k, x'⟩, hxe, rfl⟩ := List.mem_map.mp hx
    obtain ⟨⟨k', y'⟩, hye, rfl⟩ := List.mem_map.mp hy
    obtain ⟨hk, hki⟩ := (h ⟨i, hi⟩).2 _ hxe
    obtain ⟨hk', hkj⟩ := (h ⟨j, hj⟩).2 _ hye
    simp only at hk hki hk' hkj same
    rw [hk, hk'] at same
    subst same
    have : i = j := congrArg Fin.val (hki.symm.trans hkj)
    omega

theorem Striped.stateList_sorted (h : c.Striped) :
    c.stateList.Pairwise fun a b => a.address < b.address := by
  have perm := List.mergeSort_perm (c.shards.toList.flatMap (·.states.values))
    fun a b => decide (a.address.toNat ≤ b.address.toNat)
  have distinct : c.stateList.Pairwise fun a b => a.address ≠ b.address :=
    (perm.pairwise_iff fun ne => Ne.symm ne).mpr h.gathered_distinct
  have sorted : c.stateList.Pairwise fun a b => decide (a.address.toNat ≤ b.address.toNat) :=
    List.pairwise_mergeSort (fun a b c hab hbc => by simp at *; omega)
      (fun a b => by simp; omega) _
  refine (sorted.and distinct).imp fun {a b} ⟨le, ne⟩ => ?_
  have differ := Address.toNat_ne ne
  simp only [decide_eq_true_eq] at le
  change a.address.toNat < b.address.toNat
  omega

theorem size_eq_length (c : PoolCache) : c.size = c.stateList.length := by
  simp [size, stateList, List.length_flatMap, AddressMap.size, AddressMap.values]

end PoolCache

/-- The cache as the single table it stands for: metadata and snapshots by pool address. -/
structure PoolTable where
  states : Address → Option PoolState := fun _ => none
  snapshots : Address → Option PoolSnapshot := fun _ => none

namespace PoolTable

/-- Stores a state under its own address. -/
def upsertState (t : PoolTable) (s : PoolState) : PoolTable :=
  { t with states := fun a => if a = s.address then some s else t.states a }

/-- Stores a snapshot under its own address. -/
def upsertSnapshot (t : PoolTable) (p : PoolSnapshot) : PoolTable :=
  { t with snapshots := fun a => if a = p.address then some p else t.snapshots a }

/-- Stores a state and a snapshot together, both under the state's address. -/
def upsert (t : PoolTable) (s : PoolState) (p : PoolSnapshot) : PoolTable :=
  { states := fun a => if a = s.address then some s else t.states a
    snapshots := fun a => if a = s.address then some p else t.snapshots a }

/-- Replaces a pool's snapshot by its image under `f`, telling whether there was one; without
one nothing changes. -/
def updateSnapshot (t : PoolTable) (pool : Address) (f : PoolSnapshot → PoolSnapshot) :
    Bool × PoolTable :=
  match t.snapshots pool with
  | none => (false, t)
  | some p => (true, { t with snapshots := fun a => if a = pool then some (f p) else t.snapshots a })

/-- A listing of the table: every stored state once, in strictly increasing address order. -/
def Lists (t : PoolTable) (l : List PoolState) : Prop :=
  (l.Pairwise fun a b => a.address < b.address) ∧ ∀ s, s ∈ l ↔ t.states s.address = some s

theorem Lists.unique {t : PoolTable} {l l' : List PoolState} (h : t.Lists l) (h' : t.Lists l') :
    l = l' := by
  have nodup : ∀ {k : List PoolState}, (k.Pairwise fun a b => a.address < b.address) → k.Nodup :=
    fun sorted => sorted.imp fun {a b} less same => by
      subst same
      exact Nat.lt_irrefl _ less
  have perm : l.Perm l' :=
    (List.perm_ext_iff_of_nodup (nodup h.1) (nodup h'.1)).mpr fun s => (h.2 s).trans (h'.2 s).symm
  exact perm.eq_of_pairwise (fun _ _ _ _ ab ba => absurd (Nat.lt_trans ab ba) (Nat.lt_irrefl _))
    h.1 h'.1

end PoolTable

/-- An operation on the pool cache. -/
inductive CacheOp where
  | upsertState (s : PoolState)
  | upsertSnapshot (p : PoolSnapshot)
  | upsert (s : PoolState) (p : PoolSnapshot)
  | updateSnapshot (pool : Address) (f : PoolSnapshot → PoolSnapshot)
  | getState (pool : Address)
  | getSnapshot (pool : Address)
  | has (pool : Address)
  | len
  | states
  | addresses

/-- What an operation answers; a write answers nothing. -/
inductive CacheAnswer where
  | done
  | updated (ok : Bool)
  | state (s : Option PoolState)
  | snapshot (p : Option PoolSnapshot)
  | has (found : Bool)
  | len (n : Nat)
  | states (l : List PoolState)
  | addresses (l : List Address)
deriving DecidableEq

namespace PoolCache

/-- Performs one operation on the cache. -/
def perform (c : PoolCache) : CacheOp → CacheAnswer × PoolCache
  | .upsertState s => (.done, c.upsertState s)
  | .upsertSnapshot p => (.done, c.upsertSnapshot p)
  | .upsert s p => (.done, c.upsert s p)
  | .updateSnapshot pool f => (.updated (c.updateSnapshot pool f).1, (c.updateSnapshot pool f).2)
  | .getState pool => (.state (c.getState? pool), c)
  | .getSnapshot pool => (.snapshot (c.getSnapshot? pool), c)
  | .has pool => (.has (c.has pool), c)
  | .len => (.len c.size, c)
  | .states => (.states c.stateList, c)
  | .addresses => (.addresses c.addresses, c)

/-- The answers of a sequence of operations, performed in order. -/
def answers (c : PoolCache) : List CacheOp → List CacheAnswer
  | [] => []
  | op :: ops => (c.perform op).1 :: (c.perform op).2.answers ops

end PoolCache

namespace PoolTable

/-- The table after an operation. -/
def apply (t : PoolTable) : CacheOp → PoolTable
  | .upsertState s => t.upsertState s
  | .upsertSnapshot p => t.upsertSnapshot p
  | .upsert s p => t.upsert s p
  | .updateSnapshot pool f => (t.updateSnapshot pool f).2
  | _ => t

/-- The answers the table allows to an operation: a read gives what the table holds, a listing
is the table's listing, and the count is its length. -/
def Answers (t : PoolTable) : CacheOp → CacheAnswer → Prop
  | .updateSnapshot pool f, r => r = .updated (t.updateSnapshot pool f).1
  | .getState pool, r => r = .state (t.states pool)
  | .getSnapshot pool, r => r = .snapshot (t.snapshots pool)
  | .has pool, r => r = .has (t.states pool).isSome
  | .len, r => ∃ l, t.Lists l ∧ r = .len l.length
  | .states, r => ∃ l, t.Lists l ∧ r = .states l
  | .addresses, r => ∃ l, t.Lists l ∧ r = .addresses (l.map (·.address))
  | _, r => r = .done

/-- The answers the table allows to a sequence of operations. -/
def Allows : PoolTable → List CacheOp → List CacheAnswer → Prop
  | _, [], rs => rs = []
  | t, op :: ops, rs => ∃ r rs', rs = r :: rs' ∧ t.Answers op r ∧ (t.apply op).Allows ops rs'

theorem Answers.unique {t : PoolTable} {op : CacheOp} {r r' : CacheAnswer} (h : t.Answers op r)
    (h' : t.Answers op r') : r = r' := by
  cases op with
  | len =>
    obtain ⟨l, hl, rfl⟩ := h
    obtain ⟨l', hl', rfl⟩ := h'
    rw [hl.unique hl']
  | states =>
    obtain ⟨l, hl, rfl⟩ := h
    obtain ⟨l', hl', rfl⟩ := h'
    rw [hl.unique hl']
  | addresses =>
    obtain ⟨l, hl, rfl⟩ := h
    obtain ⟨l', hl', rfl⟩ := h'
    rw [hl.unique hl']
  | _ => exact h.trans h'.symm

theorem Allows.unique {t : PoolTable} {ops : List CacheOp} {rs rs' : List CacheAnswer}
    (h : t.Allows ops rs) (h' : t.Allows ops rs') : rs = rs' := by
  induction ops generalizing t rs rs' with
  | nil => exact h.trans h'.symm
  | cons op ops ih =>
    obtain ⟨r, rest, rfl, hr, hrest⟩ := h
    obtain ⟨r', rest', rfl, hr', hrest'⟩ := h'
    rw [hr.unique hr', ih hrest hrest']

end PoolTable

/-- The striped cache stands for a table: it is striped, and it reads like the table at every
address. -/
structure PoolCache.Refines (c : PoolCache) (t : PoolTable) : Prop where
  striped : c.Striped
  states : ∀ pool, c.getState? pool = t.states pool
  snapshots : ∀ pool, c.getSnapshot? pool = t.snapshots pool

namespace PoolCache.Refines

variable {c : PoolCache} {t : PoolTable}

theorem empty : PoolCache.empty.Refines {} where
  striped := striped_empty
  states pool := by
    rw [getState?, shard_empty]
    rfl
  snapshots pool := by
    rw [getSnapshot?, shard_empty]
    rfl

theorem lists (h : c.Refines t) : t.Lists c.stateList :=
  ⟨h.striped.stateList_sorted, fun s => (h.striped.mem_stateList_iff s).trans (by rw [h.states])⟩

theorem upsertState (h : c.Refines t) (s : PoolState) : (c.upsertState s).Refines (t.upsertState s) where
  striped := h.striped.upsertState s
  states pool := by simp [PoolTable.upsertState, h.states]
  snapshots pool := by simp [PoolTable.upsertState, h.snapshots]

theorem upsertSnapshot (h : c.Refines t) (p : PoolSnapshot) :
    (c.upsertSnapshot p).Refines (t.upsertSnapshot p) where
  striped := h.striped.upsertSnapshot p
  states pool := by simp [PoolTable.upsertSnapshot, h.states]
  snapshots pool := by simp [PoolTable.upsertSnapshot, h.snapshots]

theorem upsert (h : c.Refines t) (s : PoolState) (p : PoolSnapshot) :
    (c.upsert s p).Refines (t.upsert s p) where
  striped := h.striped.upsert s p
  states pool := by simp [PoolTable.upsert, h.states]
  snapshots pool := by simp [PoolTable.upsert, h.snapshots]

theorem updateSnapshot (h : c.Refines t) (pool : Address) (f : PoolSnapshot → PoolSnapshot) :
    (c.updateSnapshot pool f).1 = (t.updateSnapshot pool f).1 ∧
      (c.updateSnapshot pool f).2.Refines (t.updateSnapshot pool f).2 := by
  rw [updateSnapshot_eq, PoolTable.updateSnapshot, ← h.snapshots pool]
  cases c.getSnapshot? pool with
  | none => exact ⟨rfl, h⟩
  | some p =>
    dsimp only
    refine ⟨rfl, h.striped.keepStates _ _ fun _ => rfl, fun other => ?_, fun other => ?_⟩
    · rw [← h.states other]
      unfold getState?
      apply get?_modifyShard_frame (·.states)
      intro _
      rfl
    · show _ = if other = pool then some (f p) else t.snapshots other
      rw [← h.snapshots other]
      unfold getSnapshot?
      exact get?_modifyShard_insert (·.snapshots) _ (f p) (fun _ => rfl) other

theorem perform (h : c.Refines t) (op : CacheOp) :
    t.Answers op (c.perform op).1 ∧ (c.perform op).2.Refines (t.apply op) := by
  cases op with
  | upsertState s => exact ⟨rfl, h.upsertState s⟩
  | upsertSnapshot p => exact ⟨rfl, h.upsertSnapshot p⟩
  | upsert s p => exact ⟨rfl, h.upsert s p⟩
  | updateSnapshot pool f =>
    obtain ⟨same, next⟩ := h.updateSnapshot pool f
    exact ⟨congrArg CacheAnswer.updated same, next⟩
  | getState pool => exact ⟨congrArg CacheAnswer.state (h.states pool), h⟩
  | getSnapshot pool => exact ⟨congrArg CacheAnswer.snapshot (h.snapshots pool), h⟩
  | has pool => exact ⟨congrArg (CacheAnswer.has ∘ Option.isSome) (h.states pool), h⟩
  | len => exact ⟨⟨_, h.lists, congrArg CacheAnswer.len (size_eq_length c)⟩, h⟩
  | states => exact ⟨⟨_, h.lists, rfl⟩, h⟩
  | addresses => exact ⟨⟨_, h.lists, rfl⟩, h⟩

theorem allows (h : c.Refines t) (ops : List CacheOp) : t.Allows ops (c.answers ops) := by
  induction ops generalizing c t with
  | nil => rfl
  | cons op ops ih =>
    obtain ⟨answer, next⟩ := h.perform op
    exact ⟨_, _, rfl, answer, ih next⟩

end PoolCache.Refines

/-- Every sequence of operations on a fresh cache gets the answers of the single table, and they
are the only answers the table allows. -/
theorem striped_cache_is_one_table (ops : List CacheOp) :
    PoolTable.Allows {} ops (PoolCache.empty.answers ops) ∧
      ∀ rs, PoolTable.Allows {} ops rs → rs = PoolCache.empty.answers ops := by
  have run := PoolCache.Refines.empty.allows ops
  exact ⟨run, fun _ allowed => allowed.unique run⟩

end FlashArb
