import Telemt.Foundation.Bytes

namespace Telemt.Foundation

/-! # Length-prefixed messages -/

variable (width : Nat)

def takeExactly (input : Bytes) : Option (Bytes × Bytes) :=
  if input.length < width then none else some (input.take width, input.drop width)

def counted (content : Bytes) : Bytes :=
  (leBytes width content.length).reverse ++ content

def takeCounted (input : Bytes) : Option (Bytes × Bytes) := do
  let (count, rest) ← takeExactly width input
  takeExactly (beNat count) rest

variable {β : Type*}

def readAll (one : Bytes → Option (β × Bytes)) : Nat → Bytes → Option (List β)
  | _, [] => some []
  | 0, _ :: _ => none
  | fuel + 1, b :: input => do
      let (value, rest) ← one (b :: input)
      let values ← readAll one fuel rest
      return value :: values

theorem takeExactly_append {width : Nat} {part : Bytes} (sized : part.length = width)
    (rest : Bytes) : takeExactly width (part ++ rest) = some (part, rest) := by
  subst sized
  simp [takeExactly]

@[simp] theorem counted_length (content : Bytes) :
    (counted width content).length = width + content.length := by
  simp [counted]

theorem takeCounted_counted {width : Nat} {content : Bytes} (fits : content.length < 256 ^ width)
    (rest : Bytes) : takeCounted width (counted width content ++ rest) = some (content, rest) := by
  have count : beNat (leBytes width content.length).reverse = content.length := by
    rw [beNat, List.reverse_reverse, leNat_leBytes fits]
  rw [takeCounted, counted, List.append_assoc, takeExactly_append (by simp)]
  show takeExactly (beNat (leBytes width content.length).reverse) (content ++ rest) = _
  rw [count, takeExactly_append rfl]

theorem readAll_flatMap {one : Bytes → Option (β × Bytes)} {encode : β → Bytes} {formed : β → Prop}
    (reads : ∀ value rest, formed value → one (encode value ++ rest) = some (value, rest))
    (nonempty : ∀ value, encode value ≠ []) {values : List β} (all : ∀ value ∈ values, formed value)
    {fuel : Nat} (enough : values.length ≤ fuel) :
    readAll one fuel (values.flatMap encode) = some values := by
  induction values generalizing fuel with
  | nil => cases fuel <;> rfl
  | cons value values ih =>
    cases fuel with
    | zero => simp at enough
    | succ =>
      rw [List.forall_mem_cons] at all
      obtain ⟨b, _, first⟩ := List.exists_cons_of_ne_nil (nonempty value)
      have read := reads value (values.flatMap encode) all.1
      rw [List.flatMap_cons]
      rw [first, List.cons_append] at read ⊢
      rw [readAll, read]
      simp [ih all.2 (by simpa using enough)]

end Telemt.Foundation
