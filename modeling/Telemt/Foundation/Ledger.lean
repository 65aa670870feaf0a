import Mathlib.Algebra.BigOperators.Fin
import Mathlib.Algebra.Order.BigOperators.Group.Finset

namespace Telemt.Foundation

/-! # A shared counter with reservations -/

variable {σ : Type*} (held : σ → Nat)

def outstanding (holders : List σ) : Nat := (holders.map held).sum

def Balanced (start spent counter : Nat) (holders : List σ) : Prop :=
  counter = start + spent + outstanding held holders

variable {holders : List σ} {i : Nat} {h : σ}

theorem outstanding_eraseIdx (position : holders[i]? = some h) :
    outstanding held holders = outstanding held (holders.eraseIdx i) + held h := by
  induction holders generalizing i with
  | nil => cases position
  | cons _ _ ih =>
    cases i with
    | zero =>
      cases position
      simp only [outstanding, List.eraseIdx_cons_zero, List.map_cons, List.sum_cons]
      omega
    | succ i =>
      have others := @ih i position
      simp only [outstanding, List.eraseIdx_cons_succ, List.map_cons, List.sum_cons] at others ⊢
      omega

theorem outstanding_set (h' : σ) (position : holders[i]? = some h) :
    outstanding held (holders.set i h') + held h = outstanding held holders + held h' := by
  obtain ⟨inside, _⟩ := List.getElem?_eq_some_iff.mp position
  have stored : (holders.set i h')[i]? = some h' := List.getElem?_set_self inside
  rw [outstanding_eraseIdx held stored, outstanding_eraseIdx held position, List.eraseIdx_set_eq]
  omega

theorem outstanding_append_singleton (holders : List σ) (h : σ) :
    outstanding held (holders ++ [h]) = outstanding held holders + held h := by
  simp [outstanding]

theorem held_le_outstanding (member : h ∈ holders) :
    held h ≤ outstanding held holders :=
  List.le_sum_of_mem (List.mem_map_of_mem member)

theorem outstanding_eq_zero (free : ∀ h ∈ holders, held h = 0) :
    outstanding held holders = 0 := by
  apply List.sum_eq_zero
  intro amount member
  obtain ⟨h, present, rfl⟩ := List.mem_map.mp member
  exact free h present

variable {held} {start spent counter : Nat} {holders : List σ} {h : σ}

section
variable (balanced : Balanced held start spent counter holders)
include balanced

theorem Balanced.held_le (member : h ∈ holders) : held h ≤ counter := by
  have kept := held_le_outstanding held member
  unfold Balanced at balanced
  omega

theorem Balanced.join (free : held h = 0) : Balanced held start spent counter (holders ++ [h]) := by
  unfold Balanced at balanced ⊢
  rw [outstanding_append_singleton, free]
  exact balanced

theorem Balanced.exchange {moved counter' : Nat} {h' : σ} (position : holders[i]? = some h)
    (law : counter' + held h = counter + held h' + moved) :
    Balanced held start (spent + moved) counter' (holders.set i h') := by
  have changed := outstanding_set held h' position
  unfold Balanced at balanced ⊢
  omega

end

end Telemt.Foundation
