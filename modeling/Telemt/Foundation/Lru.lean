import Telemt.Foundation.Dict

namespace Telemt.Foundation

/-!
# Bounded maps with least recently used eviction

The documented behaviour of `LruCache` in the crate `lru` 0.16: `get` and `put` make a key the most
recently used one, `peek` does not, and `put` of a new key into a full map evicts the least recently used.
-/

structure Lru (κ υ : Type*) where
  rows : Dict κ υ
  cap : Nat
  room : 0 < cap
  bounded : rows.size ≤ cap

namespace Lru
variable {κ υ : Type*}

def new (cap : Nat) (room : 0 < cap) : Lru κ υ := ⟨∅, cap, room, Nat.zero_le cap⟩

variable (cache : Lru κ υ)

def clear : Lru κ υ := new cache.cap cache.room

def size : Nat := cache.rows.size

variable (rows : Dict κ υ)

def dropOldest : Dict κ υ :=
  ⟨rows.entries.dropLast, rows.nodupKeys.sublist (List.dropLast_sublist rows.entries)⟩

theorem size_dropOldest : (dropOldest rows).size = rows.size - 1 :=
  List.length_dropLast

variable [DecidableEq κ] (k : κ)

theorem size_erase_le : Dict.size (rows.erase k) ≤ rows.size := by
  apply Dict.size_le_of_subset
  intro k' member
  exact (AList.mem_erase.mp member).2

theorem size_insert_le (v : υ) : Dict.size (rows.insert k v) ≤ rows.size + 1 := by
  exact Nat.succ_le_succ (size_erase_le rows k)

theorem size_insert_of_mem {rows : Dict κ υ} {k : κ} (present : k ∈ rows) (v : υ) :
    Dict.size (rows.insert k v) ≤ rows.size := by
  apply Dict.size_le_of_subset
  intro k' member
  rcases AList.mem_insert rows |>.mp member with same | old
  · exact same ▸ present
  · exact old

def peek : Option υ := cache.rows.lookup k

def pop : Lru κ υ :=
  { cache with
    rows := cache.rows.erase k
    bounded := (size_erase_le cache.rows k).trans cache.bounded }

def touch (present : k ∈ cache.rows) (v : υ) : Lru κ υ :=
  { cache with
    rows := cache.rows.insert k v
    bounded := (size_insert_of_mem present v).trans cache.bounded }

theorem mem_of_lookup {rows : Dict κ υ} {k : κ} {v : υ} (found : rows.lookup k = some v) :
    k ∈ rows :=
  AList.lookup_isSome.mp (Option.isSome_of_eq_some found)

def get : Option υ × Lru κ υ :=
  match found : cache.rows.lookup k with
  | none => (none, cache)
  | some v => (some v, cache.touch k (mem_of_lookup found) v)

def put (v : υ) : Lru κ υ :=
  if present : k ∈ cache.rows then cache.touch k present v
  else if roomy : cache.size < cache.cap then
    { cache with
      rows := cache.rows.insert k v
      bounded := (size_insert_le cache.rows k v).trans roomy }
  else
    { cache with
      rows := (dropOldest cache.rows).insert k v
      bounded := by
        have dropped := size_dropOldest cache.rows
        have added := size_insert_le (dropOldest cache.rows) k v
        have cap := cache.room
        have bounded := cache.bounded
        omega }

@[simp] theorem peek_new (cap : Nat) (room : 0 < cap) (k : κ) :
    (new cap room : Lru κ υ).peek k = none := rfl

section
variable (cache : Lru κ υ) (k : κ)

@[simp] theorem peek_clear : cache.clear.peek k = none := rfl

theorem peek_pop (k' : κ) : (cache.pop k).peek k' = if k' = k then none else cache.peek k' :=
  Dict.lookup_erase_ite cache.rows k k'

theorem get_fst : (cache.get k).1 = cache.peek k := by
  unfold get peek
  split
  · next missing => exact missing.symm
  · next found => exact found.symm

@[simp] theorem cap_get : (cache.get k).2.cap = cache.cap := by
  unfold get
  split <;> rfl

@[simp] theorem peek_get (k' : κ) : (cache.get k).2.peek k' = cache.peek k' := by
  unfold get
  split
  · rfl
  · next v found =>
      show (cache.rows.insert k v).lookup k' = cache.rows.lookup k'
      rw [Dict.lookup_insert_ite]
      split_ifs with same
      · rw [same, found]
      · rfl

@[simp] theorem cap_put (v : υ) : (cache.put k v).cap = cache.cap := by
  unfold put
  split_ifs <;> rfl

end

theorem peek_put {cache : Lru κ υ} (roomy : cache.size < cache.cap) (k k' : κ) (v : υ) :
    (cache.put k v).peek k' = if k' = k then some v else cache.peek k' := by
  by_cases present : k ∈ cache.rows
  · rw [put, dif_pos present]
    exact Dict.lookup_insert_ite cache.rows k k' v
  · rw [put, dif_neg present, dif_pos roomy]
    exact Dict.lookup_insert_ite cache.rows k k' v

theorem size_le_of_backed {cache : Lru κ υ} {keys : List κ}
    (backed : ∀ k v, cache.peek k = some v → k ∈ keys) : cache.size ≤ keys.length := by
  have subset : cache.rows.keys ⊆ keys := by
    intro k member
    obtain ⟨v, found⟩ := Option.isSome_iff_exists.mp (AList.lookup_isSome.mpr member)
    exact backed k v found
  have bound := (List.subperm_of_subset cache.rows.keys_nodup subset).length_le
  simpa [AList.keys, List.keys, size, Dict.size] using bound

end Lru

end Telemt.Foundation
