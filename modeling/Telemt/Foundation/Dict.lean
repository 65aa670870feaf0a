import Mathlib.Algebra.BigOperators.Fin
import Mathlib.Algebra.Order.BigOperators.Group.Finset
import Mathlib.Data.List.AList

namespace Telemt.Foundation

/-! # Finite maps -/

abbrev Dict (κ υ : Type*) := AList (fun _ : κ => υ)

namespace Dict
variable {κ ι υ ω : Type*}

def size (d : Dict κ υ) : Nat := d.entries.length

def tally (weight : κ → υ → Nat) (d : Dict κ υ) : Nat :=
  (d.entries.map fun e => weight e.1 e.2).sum

theorem size_eq_tally (d : Dict κ υ) : size d = tally (fun _ _ => 1) d := by
  simp [size, tally]

theorem tally_mono {weight weight' : κ → υ → Nat} (le : ∀ k v, weight k v ≤ weight' k v)
    (d : Dict κ υ) : tally weight d ≤ tally weight' d :=
  List.sum_le_sum fun e _ => le e.1 e.2

def retain (keep : κ → υ → Bool) (d : Dict κ υ) : Dict κ υ :=
  ⟨d.entries.filter fun e => keep e.1 e.2, d.nodupKeys.sublist List.filter_sublist⟩

theorem size_retain_le (keep : κ → υ → Bool) (d : Dict κ υ) : size (retain keep d) ≤ size d :=
  List.length_filter_le _ _

variable {d : Dict κ υ}

theorem size_le_of_subset {d' : Dict κ υ} (subset : ∀ k, k ∈ d → k ∈ d') : size d ≤ size d' := by
  have keys : d.keys.length ≤ d'.keys.length :=
    (List.subperm_of_subset d.keys_nodup fun k member => subset k member).length_le
  simpa [AList.keys, List.keys, size] using keys

def mapValues (f : υ → ω) (d : Dict κ υ) : Dict κ ω :=
  ⟨d.entries.map fun e => ⟨e.1, f e.2⟩, d.nodupKeys.map₂ (fun _ => f)⟩

def mapWithKey (f : κ → υ → ω) (d : Dict κ υ) : Dict κ ω :=
  ⟨d.entries.map fun e => ⟨e.1, f e.1 e.2⟩, d.nodupKeys.map₂ f⟩

def Each (p : κ → υ → Prop) (d : Dict κ υ) : Prop := ∀ e ∈ d.entries, p e.1 e.2

instance (p : κ → υ → Prop) [∀ k v, Decidable (p k v)] (d : Dict κ υ) : Decidable (Each p d) :=
  inferInstanceAs (Decidable (∀ e ∈ d.entries, p e.1 e.2))

variable {k : κ} {v : υ}

theorem mem_pairs {rows : List ((_ : κ) × υ)} :
    (k, v) ∈ rows.map (fun row => (row.1, row.2)) ↔ ⟨k, v⟩ ∈ rows := by
  constructor
  · intro member
    obtain ⟨⟨_, _⟩, inside, same⟩ := List.mem_map.mp member
    cases same
    exact inside
  · exact fun inside => List.mem_map.mpr ⟨⟨k, v⟩, inside, rfl⟩

variable [DecidableEq κ]

variable {p : κ → υ → Prop}

theorem Each.erase (each : Each p d) (k : κ) :
    Each p (d.erase k) :=
  fun e member => each e (List.kerase_sublist k d.entries |>.subset member)

theorem each_insert (each : Each p d) :
    Each p (d.insert k v) ↔ p k v := by
  have entries : (d.insert k v).entries = ⟨k, v⟩ :: (d.erase k).entries := rfl
  unfold Each
  rw [entries, List.forall_mem_cons]
  exact and_iff_left (each.erase k)

theorem Each.lookup (each : Each p d) (found : d.lookup k = some v) : p k v :=
  each ⟨k, v⟩ (AList.mem_lookup_iff.mp found)

theorem lookup_mapWithKey (f : κ → υ → ω) (d : Dict κ υ) (k : κ) :
    (mapWithKey f d).lookup k = (d.lookup k).map (f k) :=
  List.dlookup_map₂ (f := f) k

theorem lookup_mapValues (f : υ → ω) (d : Dict κ υ) (k : κ) :
    (mapValues f d).lookup k = (d.lookup k).map f :=
  List.dlookup_map₂ (f := fun _ => f) k

section
variable (d : Dict κ υ) (k k' : κ) (v : υ)

theorem lookup_insert_ite : (d.insert k v).lookup k' = if k' = k then some v else d.lookup k' := by
  split_ifs with same
  · rw [same, AList.lookup_insert]
  · exact AList.lookup_insert_ne same

theorem lookup_erase_ite : (d.erase k).lookup k' = if k' = k then none else d.lookup k' := by
  split_ifs with same
  · rw [same, AList.lookup_erase]
  · exact AList.lookup_erase_ne same

theorem lookup_insert_getD (default : υ) :
    (fun k' => ((d.insert k v).lookup k').getD default) =
      Function.update (fun k' => (d.lookup k').getD default) k v := by
  funext k'
  rw [lookup_insert_ite, Function.update_apply]
  split_ifs <;> rfl

theorem lookup_erase_getD (default : υ) :
    (fun k' => ((d.erase k).lookup k').getD default) =
      Function.update (fun k' => (d.lookup k').getD default) k default := by
  funext k'
  rw [lookup_erase_ite, Function.update_apply]
  split_ifs <;> rfl

end

theorem lookup_retain (keep : κ → υ → Bool) (d : Dict κ υ) (k : κ) :
    (retain keep d).lookup k = (d.lookup k).filter (keep k) := by
  have entry (v : υ) : (retain keep d).lookup k = some v ↔ d.lookup k = some v ∧ keep k v := by
    rw [← Option.mem_def, ← Option.mem_def, AList.mem_lookup_iff, AList.mem_lookup_iff]
    exact List.mem_filter
  apply Option.ext
  intro v
  rw [Option.filter_eq_some_iff, entry]

theorem view_foldl_entries {σ τ : Type*} (move : σ → κ → υ → σ) (view : σ → κ → τ)
    (shown : τ → υ → τ) (hit : ∀ s k v, view (move s k v) k = shown (view s k) v)
    (miss : ∀ s k v k', k' ≠ k → view (move s k v) k' = view s k') (d : Dict κ υ) (s : σ) (k : κ) :
    view (d.entries.foldl (fun s e => move s e.1 e.2) s) k =
      ((d.lookup k).map (shown (view s k))).getD (view s k) := by
  obtain ⟨entries, nodup⟩ := d
  show _ = ((List.dlookup k entries).map (shown (view s k))).getD (view s k)
  induction entries generalizing s with
  | nil => rfl
  | cons e _ ih =>
    have restNodup := List.nodupKeys_of_nodupKeys_cons nodup
    rw [List.foldl_cons, ih _ restNodup]
    by_cases same : k = e.1
    · subst same
      rw [List.dlookup_eq_none.mpr (List.notMem_keys_of_nodupKeys_cons nodup), List.dlookup_cons_eq]
      exact hit s e.1 e.2
    · rw [List.dlookup_cons_ne _ _ same, miss s e.1 e.2 k same]

def assign (f : κ → υ) (keys : List κ) (d : Dict κ υ) : Dict κ υ :=
  keys.foldl (fun d k => d.insert k (f k)) d

theorem lookup_assign (f : κ → υ) (keys : List κ) (d : Dict κ υ) (k : κ) :
    (assign f keys d).lookup k = if k ∈ keys then some (f k) else d.lookup k := by
  induction keys generalizing d with
  | nil => rfl
  | cons k' _ ih =>
    rw [assign, List.foldl_cons, ← assign, ih, lookup_insert_ite]
    by_cases same : k = k'
    · subst same
      simp
    · simp [same]

def values (d : Dict κ υ) : List υ := d.entries.map fun e => e.2

def index (key : υ → κ) (items : List υ) (d : Dict κ υ) : Dict κ υ :=
  items.foldl (fun d item => d.insert (key item) item) d

variable {key : υ → κ} {items : List υ}

theorem lookup_index_of_notMem (d : Dict κ υ) (absent : k ∉ items.map key) :
    (index key items d).lookup k = d.lookup k := by
  induction items generalizing d with
  | nil => rfl
  | cons _ _ ih =>
    rw [List.map_cons, List.mem_cons, not_or] at absent
    rw [index, List.foldl_cons, ← index, ih _ absent.2, AList.lookup_insert_ne absent.1]

theorem lookup_index (distinct : (items.map key).Nodup) {item : υ} (member : item ∈ items)
    (d : Dict κ υ) :
    (index key items d).lookup (key item) = some item := by
  induction items generalizing d with
  | nil => cases member
  | cons _ _ ih =>
    rw [List.map_cons, List.nodup_cons] at distinct
    rw [index, List.foldl_cons, ← index]
    rcases List.mem_cons.mp member with rfl | later
    · rw [lookup_index_of_notMem _ distinct.1, AList.lookup_insert]
    · exact ih distinct.2 later _

theorem values_index_perm (distinct : (items.map key).Nodup) (d : Dict κ υ)
    (fresh : ∀ item ∈ items, key item ∉ d) :
    (values (index key items d)).Perm (items ++ values d) := by
  induction items generalizing d with
  | nil => exact .refl _
  | cons first _ ih =>
    rw [List.map_cons, List.nodup_cons] at distinct
    have inserted : values (d.insert (key first) first) = first :: values d := by
      unfold values
      rw [AList.entries_insert_of_notMem (fresh first List.mem_cons_self)]
      rfl
    refine (ih distinct.2 _ ?_).trans ?_
    · intro item member present
      rcases (AList.mem_insert d).mp present with same | before
      · exact distinct.1 (same ▸ List.mem_map_of_mem member)
      · exact fresh item (List.mem_cons_of_mem first member) before
    · rw [inserted]
      exact List.perm_middle

theorem size_insert (d : Dict κ υ) (k : κ) (v : υ) :
    size (d.insert k v) = size (d.erase k) + 1 := rfl

theorem size_erase_of_notMem (absent : k ∉ d) :
    size (d.erase k) = size d :=
  congrArg List.length (List.kerase_of_notMem_keys absent)

theorem size_erase_of_mem (present : k ∈ d) :
    size (d.erase k) + 1 = size d := by
  obtain ⟨v, before, after, _, split, erased⟩ :=
    List.exists_of_kerase (AList.mem_keys.mp present)
  have shape : (d.erase k).entries = before ++ after := erased
  simp only [size, shape, split, List.length_append, List.length_cons]
  omega

theorem size_insert_of_mem (v : υ) (present : k ∈ d) :
    size (d.insert k v) = size d := by
  rw [size_insert, size_erase_of_mem present]

theorem size_insert_of_notMem (v : υ) (absent : k ∉ d) :
    size (d.insert k v) = size d + 1 := by
  rw [size_insert, size_erase_of_notMem absent]

theorem mem_iff_lookup : k ∈ d ↔ ∃ v, d.lookup k = some v := by
  rw [← AList.lookup_isSome, Option.isSome_iff_exists]

variable (weight : κ → υ → Nat)

theorem tally_erase (d : Dict κ υ) (k : κ) :
    tally weight (d.erase k) + ((d.lookup k).map (weight k)).getD 0 = tally weight d := by
  by_cases present : k ∈ d
  · obtain ⟨v, before, after, _, split, erased⟩ :=
      List.exists_of_kerase (AList.mem_keys.mp present)
    have found : d.lookup k = some v := by
      have member : (⟨k, v⟩ : Sigma fun _ : κ => υ) ∈ d.entries := by simp [split]
      exact AList.mem_lookup_iff.mpr member
    have shape : (d.erase k).entries = before ++ after := erased
    simp only [tally, found, shape, split, Option.map_some, Option.getD_some, List.map_append,
      List.map_cons, List.sum_append, List.sum_cons]
    omega
  · have kept : (d.erase k).entries = d.entries := List.kerase_of_notMem_keys present
    simp [tally, kept, AList.lookup_eq_none.mpr present]

theorem tally_congr {weight : κ → υ → Nat} {d' : Dict κ υ}
    (same : ∀ k, (d'.lookup k).map (weight k) = (d.lookup k).map (weight k)) :
    tally weight d' = tally weight d := by
  have weights : (mapWithKey weight d').entries.Perm (mapWithKey weight d).entries := by
    apply List.lookup_ext (mapWithKey weight d').nodupKeys (mapWithKey weight d).nodupKeys
    intro k n
    change n ∈ (mapWithKey weight d').lookup k ↔ n ∈ (mapWithKey weight d).lookup k
    rw [lookup_mapWithKey, lookup_mapWithKey, same]
  have sums := (weights.map fun e => e.2).sum_eq
  simpa [mapWithKey, tally, Function.comp_def] using sums

theorem tally_update {weight : κ → υ → Nat} {d' : Dict κ υ} (k : κ)
    (others : ∀ k', k' ≠ k → (d'.lookup k').map (weight k') = (d.lookup k').map (weight k')) :
    tally weight d' + ((d.lookup k).map (weight k)).getD 0 =
      tally weight d + ((d'.lookup k).map (weight k)).getD 0 := by
  have rest : tally weight (d'.erase k) = tally weight (d.erase k) := by
    apply tally_congr
    intro k'
    rw [lookup_erase_ite, lookup_erase_ite]
    by_cases same : k' = k
    · rw [if_pos same, if_pos same]
    · rw [if_neg same, if_neg same, others k' same]
  rw [← tally_erase weight d k, ← tally_erase weight d' k, rest]
  omega

theorem weight_le_tally (found : d.lookup k = some v) : weight k v ≤ tally weight d := by
  have split := tally_erase weight d k
  rw [found] at split
  exact Nat.le.intro ((Nat.add_comm _ _).trans split)

theorem tally_pos_iff (d : Dict κ υ) :
    0 < tally weight d ↔ ∃ k v, d.lookup k = some v ∧ 0 < weight k v := by
  constructor
  · intro positive
    obtain ⟨n, member, heavy⟩ := List.sum_pos_iff_exists_pos_nat.mp positive
    obtain ⟨entry, inside, rfl⟩ := List.mem_map.mp member
    exact ⟨entry.1, entry.2, AList.mem_lookup_iff.mpr inside, heavy⟩
  · rintro ⟨k, v, found, positive⟩
    exact positive.trans_le (weight_le_tally weight found)

def inner (d : Dict κ (Dict ι υ)) (k : κ) : Dict ι υ := (d.lookup k).getD ∅

def entryCount (d : Dict κ (Dict ι υ)) : Nat := (d.entries.map fun e => size e.2).sum

section
variable (d : Dict κ (Dict ι υ)) (k k' : κ) (m : Dict ι υ)

theorem inner_insert : inner (d.insert k m) k' = if k' = k then m else inner d k' := by
  unfold inner
  rw [lookup_insert_ite]
  split_ifs <;> rfl

theorem inner_erase : inner (d.erase k) k' = if k' = k then ∅ else inner d k' := by
  unfold inner
  rw [lookup_erase_ite]
  split_ifs <;> rfl

theorem entryCount_erase : entryCount (d.erase k) + size (inner d k) = entryCount d := by
  rw [← show ((d.lookup k).map size).getD 0 = size (inner d k) from ?_]
  · exact tally_erase (fun _ => size) d k
  · unfold inner
    cases d.lookup k <;> rfl

theorem entryCount_insert :
    entryCount (d.insert k m) + size (inner d k) = entryCount d + size m := by
  rw [← entryCount_erase d k]
  have shape : (d.insert k m).entries = ⟨k, m⟩ :: (d.erase k).entries := rfl
  simp only [entryCount, shape, List.map_cons, List.sum_cons]
  omega

theorem size_inner_le_entryCount : size (inner d k) ≤ entryCount d := by
  have split := entryCount_erase d k
  omega

theorem inner_store : inner (if size m = 0 then d.erase k else d.insert k m) k' =
      if k' = k then m else inner d k' := by
  by_cases empty : size m = 0
  · have nothing : m = ∅ := AList.ext (List.length_eq_zero_iff.mp empty)
    rw [if_pos empty, inner_erase, nothing]
  · rw [if_neg empty, inner_insert]

theorem entryCount_store :
    entryCount (if size m = 0 then d.erase k else d.insert k m) + size (inner d k) =
      entryCount d + size m := by
  by_cases empty : size m = 0
  · rw [if_pos empty, entryCount_erase, empty, Nat.add_zero]
  · rw [if_neg empty, entryCount_insert]

end

variable [DecidableEq ι]

def nested (d : Dict κ (Dict ι υ)) (k : κ) (i : ι) : Option υ := (inner d k).lookup i

section
variable (d : Dict κ (Dict ι υ)) (k : κ)

theorem nested_insert (k' : κ) (m : Dict ι υ) (i : ι) :
    nested (d.insert k m) k' i = if k' = k then m.lookup i else nested d k' i := by
  unfold nested
  rw [inner_insert]
  split_ifs <;> rfl

theorem nested_erase (k' : κ) (i : ι) :
    nested (d.erase k) k' i = if k' = k then none else nested d k' i := by
  unfold nested
  rw [inner_erase]
  split_ifs <;> rfl

theorem nested_store (k' : κ) (m : Dict ι υ) (i : ι) :
    nested (if size m = 0 then d.erase k else d.insert k m) k' i =
      if k' = k then m.lookup i else nested d k' i := by
  unfold nested
  rw [inner_store]
  split_ifs <;> rfl

end

end Dict

end Telemt.Foundation
