import Mathlib.Data.List.Sort

namespace Telemt.Foundation

/-! # Stable sort by a key -/

section SortByKey
variable {α κ : Type*} [LinearOrder κ] (key : α → κ) (values : List α)

def sortByKey : List α := values.insertionSort fun a b => key a ≤ key b

theorem sortByKey_perm : (sortByKey key values).Perm values :=
  List.perm_insertionSort _ values

theorem sortByKey_pairwise : (sortByKey key values).Pairwise fun a b => key a ≤ key b := by
  exact List.pairwise_insertionSort _ values

@[simp] theorem mem_sortByKey {values : List α} {a : α} : a ∈ sortByKey key values ↔ a ∈ values :=
  (sortByKey_perm key values).mem_iff

end SortByKey

/-!
# The first hit after a stable sort by rank

Values are sorted by falling rank, those of one rank in the order they came in, and searched from the
front.
-/

variable {α : Type*} (rank : α → Nat) (hit : α → Bool) (values : List α)

def byFallingRank : List α := values.insertionSort fun a b => rank b ≤ rank a

def bestHit : Option α := (byFallingRank rank values).find? hit

theorem byFallingRank_perm : (byFallingRank rank values).Perm values :=
  List.perm_insertionSort _ values

theorem byFallingRank_pairwise :
    (byFallingRank rank values).Pairwise fun a b => rank b ≤ rank a := by
  exact List.pairwise_insertionSort _ values

variable {rank hit} {values : List α} {a : α}

theorem bestHit_eq_none : bestHit rank hit values = none ↔ ∀ b ∈ values, hit b = false := by
  unfold bestHit
  rw [List.find?_eq_none]
  constructor
  · intro missed b member
    exact Bool.eq_false_iff.mpr (missed b ((byFallingRank_perm rank values).mem_iff.mpr member))
  · intro missed b member
    exact Bool.eq_false_iff.mp (missed b ((byFallingRank_perm rank values).mem_iff.mp member))

theorem bestHit_spec (found : bestHit rank hit values = some a) :
    a ∈ values ∧ hit a = true ∧ ∀ b ∈ values, hit b = true → rank b ≤ rank a := by
  obtain ⟨accepted, _, _, split, missed⟩ := List.find?_eq_some_iff_append.mp found
  have sorted := byFallingRank_pairwise rank values
  rw [split, List.pairwise_append, List.pairwise_cons] at sorted
  refine ⟨?_, accepted, ?_⟩
  · rw [← (byFallingRank_perm rank values).mem_iff, split]
    simp
  · intro b member hits
    rw [← (byFallingRank_perm rank values).mem_iff, split] at member
    rcases List.mem_append.mp member with early | late
    · have missedB := missed b early
      rw [hits] at missedB
      cases missedB
    · rcases List.mem_cons.mp late with rfl | later
      · exact le_rfl
      · exact sorted.2.1.1 b later

theorem find?_orderedInsert_first (accepted : hit a = true)
    (best : ∀ b ∈ values, hit b = true → rank b ≤ rank a) :
    (values.orderedInsert (fun a b => rank b ≤ rank a) a).find? hit = some a := by
  induction values with
  | nil => simp [accepted]
  | cons b _ ih =>
    rw [List.orderedInsert_cons]
    split_ifs with here
    · rw [List.find?_cons_of_pos accepted]
    · -- Something of a higher rank stands before the place of `a`, and it is no hit.
      have missed : hit b ≠ true := fun hits => here (best b List.mem_cons_self hits)
      rw [List.find?_cons_of_neg missed]
      exact ih fun c member => best c (List.mem_cons_of_mem b member)

theorem bestHit_cons_of_best (accepted : hit a = true)
    (best : ∀ b ∈ values, hit b = true → rank b ≤ rank a) :
    bestHit rank hit (a :: values) = some a := by
  apply find?_orderedInsert_first accepted
  intro b member hits
  exact best b ((byFallingRank_perm rank values).mem_iff.mp member) hits

end Telemt.Foundation
