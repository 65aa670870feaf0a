import Mathlib.Data.List.Basic

namespace Telemt.Foundation.Checked

/-!
# Code whose accesses are checked

A computation that indexes, slices, adds offsets or loops either gives its result or names the fault
it ran into.
-/

inductive Fault
  | indexOutOfRange
  | overflow
  | outOfTurns
  deriving DecidableEq, Repr

variable {α β : Type}

def index (xs : List α) (i : Nat) : Except Fault α :=
  match xs[i]? with
  | some x => .ok x
  | none => .error .indexOutOfRange

def range (xs : List α) (start stop : Nat) : Except Fault (List α) :=
  if start ≤ stop ∧ stop ≤ xs.length then .ok ((xs.drop start).take (stop - start))
  else .error .indexOutOfRange

def add (limit a b : Nat) : Except Fault Nat :=
  if a + b < limit then .ok (a + b) else .error .overflow

@[simp] theorem ok_bind (a : α) (f : α → Except Fault β) : (Except.ok a >>= f) = f a := rfl

theorem index_eq_ok {xs : List α} {i : Nat} (inside : i < xs.length) (default : α) :
    index xs i = .ok (xs.getD i default) := by
  simp [index, inside]

theorem range_eq_ok {xs : List α} {start len : Nat} (inside : start + len ≤ xs.length) :
    range xs start (start + len) = .ok ((xs.drop start).take len) := by
  simp [range, inside]

theorem add_eq_ok {limit a b : Nat} (small : a + b < limit) : add limit a b = .ok (a + b) :=
  if_pos small

theorem ite_ok {c : Prop} [Decidable c] {a b : Except Fault α} {x y : α} (yes : c → a = .ok x)
    (no : ¬ c → b = .ok y) : (if c then a else b) = .ok (if c then x else y) := by
  split <;> simp [*]

variable {ε : Type}

def refuse : Option ε → Except ε Unit
  | some error => .error error
  | none => .ok ()

def refuseIf (bad : Prop) [Decidable bad] (error : ε) : Except ε Unit :=
  if bad then .error error else .ok ()

def refuseFirst (check : α → Option ε) (rows : List α) : Except ε Unit :=
  refuse (rows.findSome? check)

theorem bind_eq_ok {x : Except ε α} {f : α → Except ε β} {b : β} :
    (x >>= f) = .ok b ↔ ∃ a, x = .ok a ∧ f a = .ok b := by
  cases x with
  | error =>
    constructor
    · rintro ⟨⟩
    · rintro ⟨_, ⟨⟩, _⟩
  | ok a =>
    constructor
    · intro ran
      exact ⟨a, rfl, ran⟩
    · rintro ⟨_, ⟨⟩, ran⟩
      exact ran

variable {u : Unit}

theorem refuse_eq_ok {error : Option ε} : refuse error = .ok u ↔ error = none := by
  cases error <;> simp [refuse]

theorem refuseIf_eq_ok {bad : Prop} [Decidable bad] {error : ε} :
    refuseIf bad error = .ok u ↔ ¬bad := by
  by_cases refused : bad <;> simp [refuseIf, refused]

theorem refuseFirst_eq_ok {check : α → Option ε} {rows : List α} :
    refuseFirst check rows = .ok u ↔ ∀ row ∈ rows, check row = none := by
  rw [refuseFirst, refuse_eq_ok, List.findSome?_eq_none_iff]

end Telemt.Foundation.Checked
