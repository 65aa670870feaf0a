import Mathlib.Data.List.Rotate

namespace Telemt.Foundation

/-! # The first hit from a rotating start -/

variable {α : Type*} {values : List α}

variable {start : Nat} (hit : α → Bool)

theorem filter_rotate (bound : start ≤ values.length) : (values.rotate start).filter hit =
      (values.filter hit).rotate ((values.take start).countP hit) := by
  rw [List.rotate_eq_drop_append_take bound, List.filter_append, List.countP_eq_length_filter]
  conv_rhs => rw [← List.take_append_drop start values, List.filter_append]
  rw [List.take_left' (List.length_take_of_le bound)]
  exact (List.rotate_append_length_eq _ _).symm

theorem find?_rotate (bound : start ≤ values.length) (some_hit : 0 < values.countP hit) :
    (values.rotate start).find? hit =
      (values.filter hit)[(values.take start).countP hit % values.countP hit]? := by
  rw [← List.head?_filter, filter_rotate hit bound, ← List.rotate_mod, List.head?_rotate]
  · rw [← List.countP_eq_length_filter]
  · rw [← List.countP_eq_length_filter]
    exact Nat.mod_lt _ some_hit

def Leads (p : α → Bool) (values : List α) : Prop :=
  values.Pairwise fun a b => p b = true → p a = true

variable {p : α → Bool}

section
variable (leads : Leads p values)
include leads

theorem Leads.filter : Leads p (values.filter hit) :=
  List.Pairwise.filter hit leads

theorem Leads.split : values.filter p ++ values.filter (fun a => !p a) = values := by
  induction values with
  | nil => rfl
  | cons a rest ih =>
    obtain ⟨first, leads⟩ := List.pairwise_cons.mp leads
    cases holds : p a with
    | true =>
      rw [List.filter_cons_of_pos holds, List.filter_cons_of_neg (by simp [holds]),
        List.cons_append, ih leads]
    | false =>
      have none_later : ∀ b ∈ rest, p b = false := by
        intro b member
        by_contra later
        rw [first b member (eq_true_of_ne_false later)] at holds
        cases holds
      rw [List.filter_eq_nil_iff.mpr, List.filter_eq_self.mpr, List.nil_append]
      · intro b member
        rcases List.mem_cons.mp member with rfl | later
        · simp [holds]
        · simp [none_later b later]
      · intro b member
        rcases List.mem_cons.mp member with rfl | later
        · simp [holds]
        · simp [none_later b later]

theorem Leads.getElem_iff {i : Nat} (bound : i < values.length) :
    p values[i] = true ↔ i < values.countP p := by
  induction values generalizing i with
  | nil => cases bound
  | cons a rest ih =>
    obtain ⟨first, leads⟩ := List.pairwise_cons.mp leads
    cases holds : p a with
    | true =>
      rw [List.countP_cons_of_pos holds]
      cases i with
      | zero => simpa using holds
      | succ i => simpa using ih leads (Nat.lt_of_succ_lt_succ bound)
    | false =>
      have none_later : ∀ b ∈ rest, ¬ p b = true := by
        intro b member later
        rw [first b member later] at holds
        cases holds
      have count : rest.countP p = 0 := List.countP_eq_zero.mpr none_later
      rw [List.countP_cons_of_neg (by simp [holds]), count]
      refine iff_of_false ?_ (Nat.not_lt_zero i)
      rcases List.mem_cons.mp (List.getElem_mem bound) with same | later
      · rw [same, holds]
        decide
      · exact none_later _ later

theorem first_hit_leads_iff {hit : α → Bool} {a : α} (bound : start ≤ values.length)
    (found : (values.rotate start).find? hit = some a) :
    p a = true ↔
      (values.take start).countP hit % values.countP hit <
        values.countP fun b => hit b && p b := by
  have member := List.mem_of_find?_eq_some found
  have some_hit : 0 < values.countP hit :=
    List.countP_pos_iff.mpr ⟨a, List.mem_rotate.mp member, List.find?_some found⟩
  rw [find?_rotate hit bound some_hit] at found
  obtain ⟨place, rfl⟩ := List.getElem?_eq_some_iff.mp found
  rw [(leads.filter hit).getElem_iff place, List.countP_filter]
  simp only [Bool.and_comm]

end

end Telemt.Foundation
