import Telemt.Foundation.Bytes

namespace Telemt.Foundation

/-! # Where the parts of a message lie -/

section Lists
variable {α : Type*} {xs part first second : List α} {pos : Nat}

def Holds (xs : List α) (pos : Nat) (part : List α) : Prop := ∃ rest, xs.drop pos = part ++ rest

theorem holds_self (xs : List α) : Holds xs 0 xs := ⟨[], by simp⟩

theorem holds_append :
    Holds xs pos (first ++ second) ↔
      Holds xs pos first ∧ Holds xs (pos + first.length) second := by
  constructor
  · rintro ⟨rest, parts⟩
    refine ⟨⟨second ++ rest, by rw [parts, List.append_assoc]⟩, rest, ?_⟩
    rw [← List.drop_drop, parts, List.append_assoc, List.drop_left]
  · rintro ⟨⟨_, found⟩, rest, parts⟩
    rw [← List.drop_drop, found, List.drop_left] at parts
    exact ⟨rest, by rw [found, parts, List.append_assoc]⟩

theorem holds_cons {x : α} :
    Holds xs pos (x :: part) ↔ Holds xs pos [x] ∧ Holds xs (pos + 1) part :=
  @holds_append α xs [x] part pos

theorem Holds.getElem? {x : α} (held : Holds xs pos [x]) : xs[pos]? = some x := by
  obtain ⟨_, parts⟩ := held
  rw [← Nat.add_zero pos, ← List.getElem?_drop, parts]
  rfl

theorem Holds.take_drop (held : Holds xs pos part) : (xs.drop pos).take part.length = part := by
  obtain ⟨_, parts⟩ := held
  rw [parts, List.take_left]

theorem length_le_flatMap {β : Type*} {f : β → List α} (nonempty : ∀ y, 0 < (f y).length)
    (ys : List β) : ys.length ≤ (ys.flatMap f).length := by
  induction ys with
  | nil => simp
  | cons y =>
    have := nonempty y
    simp only [List.flatMap_cons, List.length_append, List.length_cons]
    omega

end Lists

def be16Bytes (n : Nat) : Bytes := [UInt8.ofNat (n / 256), UInt8.ofNat n]

def be24Bytes (n : Nat) : Bytes := [UInt8.ofNat (n / 65536), UInt8.ofNat (n / 256), UInt8.ofNat n]

@[simp] theorem be16Bytes_length (n : Nat) : (be16Bytes n).length = 2 := rfl

@[simp] theorem be24Bytes_length (n : Nat) : (be24Bytes n).length = 3 := rfl

end Telemt.Foundation
