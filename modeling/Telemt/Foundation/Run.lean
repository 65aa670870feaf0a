import Mathlib.Data.Option.Basic
import Mathlib.Logic.Relation

namespace Telemt.Foundation

/-!
# Runs of a machine whose moves are chosen by labels

A label that is not enabled in a state makes the whole run undefined, so a statement about every
defined run is a statement about every schedule of enabled moves. `Guarded step ok` says that every
move of a run satisfies `ok` in the state it is taken in.
-/

variable {σ α : Type*}

def runFrom (step : σ → α → Option σ) : σ → List α → Option σ
  | s, [] => some s
  | s, a :: labels => (step s a).bind fun t => runFrom step t labels

def Guarded (step : σ → α → Option σ) (ok : σ → α → Prop) : σ → List α → Prop
  | _, [] => True
  | s, a :: labels => ok s a ∧ ∀ t, step s a = some t → Guarded step ok t labels

def Guarded.decide (step : σ → α → Option σ) (ok : σ → α → Prop) [∀ s a, Decidable (ok s a)] :
    (s : σ) → (labels : List α) → Decidable (Guarded step ok s labels)
  | _, [] => isTrue trivial
  | s, a :: labels =>
    match moved : step s a with
    | none => decidable_of_iff (ok s a)
        ⟨fun h => ⟨h, fun t moved' => by rw [moved] at moved'; cases moved'⟩, And.left⟩
    | some t =>
      have := Guarded.decide step ok t labels
      decidable_of_iff (ok s a ∧ Guarded step ok t labels)
        ⟨fun h => ⟨h.1, fun t' moved' => by rw [moved] at moved'; cases moved'; exact h.2⟩,
          fun h => ⟨h.1, h.2 t moved⟩⟩

instance (step : σ → α → Option σ) (ok : σ → α → Prop) [∀ s a, Decidable (ok s a)] (s : σ)
    (labels : List α) : Decidable (Guarded step ok s labels) :=
  Guarded.decide step ok s labels

theorem runFrom_cons (step : σ → α → Option σ) (s : σ) (a : α) (labels : List α) :
    runFrom step s (a :: labels) = (step s a).bind fun t => runFrom step t labels := rfl

variable {step : σ → α → Option σ} {s u : σ} {a : α} {labels : List α}

theorem runFrom_cons_eq_some :
    runFrom step s (a :: labels) = some u ↔
      ∃ t, step s a = some t ∧ runFrom step t labels = some u := by
  rw [runFrom_cons, Option.bind_eq_some_iff]

variable {ok : σ → α → Prop} {t : σ}

theorem runFrom_invariant (inv : σ → Prop)
    (keep : ∀ s a t, ok s a → inv s → step s a = some t → inv t)
    (guarded : Guarded step ok s labels) (start : inv s) (run : runFrom step s labels = some t) :
    inv t := by
  induction labels generalizing s with
  | nil => exact Option.some.inj run ▸ start
  | cons a _ ih =>
    obtain ⟨next, moved, rest⟩ := runFrom_cons_eq_some.mp run
    exact ih (guarded.2 next moved) (keep s a next guarded.1 start moved) rest

theorem runFrom_total {inv : σ → Prop}
    (keep : ∀ s a, inv s → ∃ t, step s a = some t ∧ inv t) (start : inv s) (labels : List α) :
    ∃ t, runFrom step s labels = some t ∧ inv t := by
  induction labels generalizing s with
  | nil => exact ⟨s, rfl, start⟩
  | cons a _ ih =>
    obtain ⟨next, moved, kept⟩ := keep s a start
    obtain ⟨t, rest, held⟩ := ih kept
    exact ⟨t, runFrom_cons_eq_some.mpr ⟨next, moved, rest⟩, held⟩

theorem Guarded.and {ok' : σ → α → Prop} (first : Guarded step ok s labels)
    (second : Guarded step ok' s labels) :
    Guarded step (fun s a => ok s a ∧ ok' s a) s labels := by
  induction labels generalizing s with
  | nil => trivial
  | cons a _ ih =>
    refine ⟨⟨first.1, second.1⟩, ?_⟩
    intro t moved
    exact ih (first.2 t moved) (second.2 t moved)

theorem guarded_congr {ok' : σ → α → Prop} (same : ∀ s a t, step s a = some t → (ok s a ↔ ok' s a))
    (run : runFrom step s labels = some u) :
    Guarded step ok s labels ↔ Guarded step ok' s labels := by
  induction labels generalizing s with
  | nil => exact Iff.rfl
  | cons a _ ih =>
    obtain ⟨next, moved, rest⟩ := runFrom_cons_eq_some.mp run
    apply and_congr (same s a next moved)
    apply forall₂_congr
    intro t moved'
    rw [moved] at moved'
    cases moved'
    exact ih rest

variable {first : List α}

theorem guarded_append {second : List α} (run : runFrom step s first = some t) :
    Guarded step ok s (first ++ second) ↔ Guarded step ok s first ∧ Guarded step ok t second := by
  induction first generalizing s with
  | nil =>
    cases run
    exact ⟨fun guarded => ⟨trivial, guarded⟩, And.right⟩
  | cons a _ ih =>
    obtain ⟨next, moved, rest⟩ := runFrom_cons_eq_some.mp run
    have only (next' : σ) (moved' : step s a = some next') : next' = next :=
      Option.some.inj (moved'.symm.trans moved)
    constructor
    · rintro ⟨here, later⟩
      obtain ⟨before, after⟩ := (ih rest).mp (later next moved)
      exact ⟨⟨here, fun next' moved' => only next' moved' ▸ before⟩, after⟩
    · rintro ⟨⟨here, later⟩, after⟩
      refine ⟨here, fun next' moved' => ?_⟩
      rw [only next' moved']
      exact (ih rest).mpr ⟨later next moved, after⟩

theorem guarded_append_singleton (guarded : Guarded step ok s (labels ++ [a]))
    (run : runFrom step s labels = some t) : Guarded step ok s labels ∧ ok t a := by
  obtain ⟨before, last⟩ := (guarded_append run).mp guarded
  exact ⟨before, last.1⟩

theorem guarded_of_mem (all : ∀ a ∈ labels, ∀ s, ok s a) (s : σ) : Guarded step ok s labels := by
  induction labels generalizing s with
  | nil => trivial
  | cons a _ ih =>
    refine ⟨all a List.mem_cons_self s, ?_⟩
    intro t _
    exact ih (fun b member => all b (List.mem_cons_of_mem a member)) t

/-- Where a step keeps the invariant exactly when it meets `ok`, a run stays inside the invariant
exactly when all its steps meet `ok`. -/
theorem guarded_iff_reached {inv : σ → Prop}
    (exact_ : ∀ s a t, inv s → step s a = some t → (inv t ↔ ok s a)) (start : inv s)
    (run : runFrom step s labels = some t) :
    Guarded step ok s labels ↔
      ∀ first rest u, labels = first ++ rest → runFrom step s first = some u → inv u := by
  induction labels generalizing s with
  | nil =>
    refine ⟨fun _ first rest u split reached => ?_, fun _ => trivial⟩
    obtain ⟨rfl, _⟩ := List.append_eq_nil_iff.mp split.symm
    cases reached
    exact start
  | cons a labels ih =>
    obtain ⟨next, moved, later⟩ := runFrom_cons_eq_some.mp run
    constructor
    · intro guarded first rest u split reached
      have kept : inv next := (exact_ s a next start moved).mpr guarded.1
      cases first with
      | nil =>
        cases reached
        exact start
      | cons b first =>
        obtain ⟨rfl, tails⟩ := List.cons.inj split
        obtain ⟨next', moved', reached⟩ := runFrom_cons_eq_some.mp reached
        cases moved.symm.trans moved'
        exact (ih kept later).mp (guarded.2 next moved) first rest u tails reached
    · intro always
      have kept : inv next := always [a] labels next rfl
        (runFrom_cons_eq_some.mpr ⟨next, moved, rfl⟩)
      refine ⟨(exact_ s a next start moved).mp kept, fun next' moved' => ?_⟩
      cases moved.symm.trans moved'
      refine (ih kept later).mpr fun first rest u split reached => ?_
      exact always (a :: first) rest u (by rw [split]; rfl)
        (runFrom_cons_eq_some.mpr ⟨next, moved, reached⟩)

-- By moves that are `allowed`, whichever they are.
def Reachable (step : σ → α → Option σ) (allowed : α → Prop) : σ → σ → Prop :=
  Relation.ReflTransGen fun s t => ∃ a, allowed a ∧ step s a = some t

theorem Reachable.run {allowed : α → Prop} (reached : Reachable step allowed s t) :
    ∃ labels, (∀ a ∈ labels, allowed a) ∧ runFrom step s labels = some t := by
  induction reached using Relation.ReflTransGen.head_induction_on with
  | refl => exact ⟨[], List.forall_mem_nil _, rfl⟩
  | head move _ ih =>
    obtain ⟨a, fits, moved⟩ := move
    obtain ⟨labels, all, rest⟩ := ih
    exact ⟨a :: labels, List.forall_mem_cons.mpr ⟨fits, all⟩,
      runFrom_cons_eq_some.mpr ⟨_, moved, rest⟩⟩

/-!
## Runs that emit

A step also emits values; a run emits what its steps emit, in order.
-/

variable {β : Type*}

def transduce (step : σ → α → Option (σ × List β)) : σ → List α → Option (σ × List β)
  | s, [] => some (s, [])
  | s, a :: labels =>
    (step s a).bind fun moved =>
      (transduce step moved.1 labels).map fun rest => (rest.1, moved.2 ++ rest.2)

variable {out : List β}

theorem transduce_cons_eq_some {step : σ → α → Option (σ × List β)} :
    transduce step s (a :: labels) = some (u, out) ↔
      ∃ t first rest, step s a = some (t, first) ∧ transduce step t labels = some (u, rest) ∧
        out = first ++ rest := by
  rw [transduce, Option.bind_eq_some_iff]
  constructor
  · rintro ⟨⟨t, first⟩, moved, mapped⟩
    obtain ⟨⟨_, rest⟩, ran, same⟩ := Option.map_eq_some_iff.mp mapped
    cases same
    exact ⟨t, first, rest, moved, ran, rfl⟩
  · rintro ⟨t, first, _, moved, ran, rfl⟩
    exact ⟨(t, first), moved, by rw [ran]; rfl⟩

theorem transduce_append {step : σ → α → Option (σ × List β)} {before : List β}
    (ran : transduce step s first = some (t, before)) (second : List α) :
    transduce step s (first ++ second) =
      (transduce step t second).map fun rest => (rest.1, before ++ rest.2) := by
  induction first generalizing s before with
  | nil =>
    cases ran
    cases nothing : transduce step t second with
    | none | some rest => exact nothing
  | cons a _ ih =>
    obtain ⟨_, _, _, moved, ranRest, rfl⟩ := transduce_cons_eq_some.mp ran
    rw [List.cons_append, transduce, moved, Option.bind_some, ih ranRest, Option.map_map]
    cases transduce step t second with
    | none => rfl
    | some later => exact congrArg (fun out => some (later.1, out)) (List.append_assoc _ _ _).symm

theorem transduce_append_eq_some {step : σ → α → Option (σ × List β)} {second : List α} :
    transduce step s (first ++ second) = some (u, out) ↔
      ∃ t before after, transduce step s first = some (t, before) ∧
        transduce step t second = some (u, after) ∧ out = before ++ after := by
  constructor
  · intro ran
    induction first generalizing s out with
    | nil => exact ⟨s, [], out, rfl, ran, rfl⟩
    | cons a _ ih =>
      obtain ⟨t, emitted, _, moved, ranRest, rfl⟩ := transduce_cons_eq_some.mp ran
      obtain ⟨mid, before, after, ran₁, ran₂, rfl⟩ := ih ranRest
      refine ⟨mid, emitted ++ before, after, ?_, ran₂, (List.append_assoc _ _ _).symm⟩
      exact transduce_cons_eq_some.mpr ⟨t, emitted, before, moved, ran₁, rfl⟩
  · rintro ⟨t, _, _, ran₁, ran₂, rfl⟩
    rw [transduce_append ran₁, ran₂]
    rfl

theorem transduce_rel {step : σ → α → Option (σ × List β)} {rel : σ → List β → σ → Prop}
    (done : ∀ s, rel s [] s) (one : ∀ s a t out, step s a = some (t, out) → rel s out t)
    (comp : ∀ s t u out out', rel s out t → rel t out' u → rel s (out ++ out') u)
    (ran : transduce step s labels = some (t, out)) :
    rel s out t := by
  induction labels generalizing s out with
  | nil =>
    cases ran
    exact done t
  | cons a _ ih =>
    obtain ⟨next, emitted, rest, moved, ranRest, rfl⟩ := transduce_cons_eq_some.mp ran
    exact comp s next t emitted rest (one s a next emitted moved) (ih ranRest)

theorem transduce_step_of_mem {step : σ → α → Option (σ × List β)}
    (ran : transduce step s labels = some (t, out)) (member : a ∈ labels) :
    ∃ u moved, step u a = some moved := by
  induction labels generalizing s out with
  | nil => exact absurd member List.not_mem_nil
  | cons b _ ih =>
    obtain ⟨_, _, _, moved, ranRest, _⟩ := transduce_cons_eq_some.mp ran
    rcases List.mem_cons.mp member with rfl | later
    · exact ⟨s, _, moved⟩
    · exact ih ranRest later

def moves (step : σ → α → Option (σ × List β)) (s : σ) (a : α) : Option σ := (step s a).map Prod.fst

theorem runFrom_moves {step : σ → α → Option (σ × List β)}
    (ran : transduce step s labels = some (t, out)) : runFrom (moves step) s labels = some t := by
  induction labels generalizing s out with
  | nil =>
    cases ran
    rfl
  | cons a _ ih =>
    obtain ⟨next, _, _, moved, ran, _⟩ := transduce_cons_eq_some.mp ran
    exact runFrom_cons_eq_some.mpr ⟨next, by rw [moves, moved]; rfl, ih ran⟩

/-!
## Loops

A turn goes round again or leaves with a result; it may itself be undefined. `loop_spec` is the rule
of total correctness.
-/

variable {ρ : Type*}

def loop (turn : σ → Option (σ ⊕ ρ)) : Nat → σ → Option ρ
  | 0, _ => none
  | fuel + 1, s =>
    match turn s with
    | none => none
    | some (.inl t) => loop turn fuel t
    | some (.inr result) => some result

theorem loop_spec {turn : σ → Option (σ ⊕ ρ)} (rank : σ → Nat) (inv : σ → Prop)
    (spec : σ → ρ → Prop)
    (turns : ∀ s, inv s → (∃ result, turn s = some (.inr result) ∧ spec s result) ∨ ∃ t, turn s =
      some (.inl t) ∧ inv t ∧ rank t < rank s ∧ ∀ result, spec t result → spec s result)
    {fuel : Nat} (start : inv s) (enough : rank s < fuel) :
    ∃ result, loop turn fuel s = some result ∧ spec s result := by
  induction fuel generalizing s with
  | zero => exact absurd enough (Nat.not_lt_zero _)
  | succ _ ih =>
    rcases turns s start with ⟨result, left, met⟩ | ⟨t, again, kept, lower, back⟩
    · exact ⟨result, by rw [loop, left], met⟩
    · obtain ⟨result, ran, met⟩ := ih kept (Nat.lt_of_lt_of_le lower (Nat.le_of_lt_succ enough))
      exact ⟨result, by rw [loop, again]; exact ran, back result met⟩

/-- A history that ends in `hits` times a value, and the value once more. -/
theorem replicate_suffix_concat {hits more : Nat} {value : α} {history : List α}
    (backed : List.replicate hits value <:+ history) (fewer : more ≤ hits + 1) :
    List.replicate more value <:+ history ++ [value] := by
  cases more with
  | zero => exact List.nil_suffix
  | succ =>
    rw [List.replicate_succ']
    obtain ⟨before, rfl⟩ := backed
    refine List.IsSuffix.trans ?_ ⟨before, (List.append_assoc _ _ _).symm⟩
    obtain ⟨extra, rfl⟩ := Nat.exists_eq_add_of_le' (Nat.le_of_succ_le_succ fewer)
    exact ⟨List.replicate extra value, by rw [← List.append_assoc, List.replicate_append_replicate]⟩

end Telemt.Foundation
