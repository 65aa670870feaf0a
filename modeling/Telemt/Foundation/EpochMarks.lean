import Mathlib.Data.Finset.Card

namespace Telemt.Foundation

/-! # Counting the visitors of an epoch -/

variable {α : Type*} [DecidableEq α]

structure EpochMarks (α : Type*) where
  epoch : Nat
  count : Nat
  mark : α → Nat

def visitorsIn (epoch : Nat) (log : List (Nat × α)) : Finset α :=
  ((log.filter fun visit => visit.1 = epoch).map Prod.snd).toFinset

theorem mem_visitorsIn {epoch : Nat} {log : List (Nat × α)} {a : α} :
    a ∈ visitorsIn epoch log ↔ (epoch, a) ∈ log := by
  simp [visitorsIn]

theorem visitorsIn_cons (epoch : Nat) (a : α) (log : List (Nat × α)) :
    visitorsIn epoch ((epoch, a) :: log) = insert a (visitorsIn epoch log) := by
  simp [visitorsIn]

namespace EpochMarks
variable (m : EpochMarks α)

def sync (now : Nat) : EpochMarks α :=
  if m.epoch < now then { m with epoch := now, count := 0 } else m

def note (now : Nat) (a : α) : EpochMarks α :=
  if m.mark a < now then { m with mark := Function.update m.mark a now, count := m.count + 1 } else m

def visit (now : Nat) (a : α) : EpochMarks α := (m.sync now).note now a

structure Exact (m : EpochMarks α) (log : List (Nat × α)) : Prop where
  logged : ∀ visit ∈ log, 0 < visit.1 ∧ visit.1 ≤ m.epoch
  marked : ∀ a, m.mark a ≤ m.epoch
  seen : 0 < m.epoch → ∀ a, m.mark a = m.epoch ↔ (m.epoch, a) ∈ log
  counted : m.count = (visitorsIn m.epoch log).card

variable {m : EpochMarks α} {log : List (Nat × α)} {now : Nat} {a : α}

omit [DecidableEq α] in
theorem sync_epoch (later : m.epoch ≤ now) : (m.sync now).epoch = now := by
  unfold sync
  split_ifs with older
  · rfl
  · exact le_antisymm later (Nat.le_of_not_lt older)

@[simp] theorem note_epoch : (m.note now a).epoch = m.epoch := by
  unfold note
  split_ifs <;> rfl

theorem visit_epoch (later : m.epoch ≤ now) : (m.visit now a).epoch = now := by
  rw [visit, note_epoch, sync_epoch later]

theorem exact_empty : Exact ⟨0, 0, fun _ => 0⟩ ([] : List (Nat × α)) where
  logged := nofun
  marked _ := le_rfl
  seen positive := absurd positive (Nat.lt_irrefl 0)
  counted := rfl

theorem Exact.sync (exact_ : m.Exact log) (later : m.epoch ≤ now) : (m.sync now).Exact log := by
  unfold EpochMarks.sync
  split_ifs with older
  · -- Nobody has visited the new epoch.
    have unseen (a : α) : (now, a) ∉ log := by
      intro member
      exact absurd (exact_.logged _ member).2 (Nat.not_le.mpr older)
    constructor
    · intro visit member
      exact ⟨(exact_.logged visit member).1, (exact_.logged visit member).2.trans later⟩
    · intro a
      exact (exact_.marked a).trans later
    · intro _ a
      exact iff_of_false ((exact_.marked a).trans_lt older).ne (unseen a)
    · have nobody : visitorsIn now log = ∅ :=
        Finset.eq_empty_of_forall_notMem fun a member => unseen a (mem_visitorsIn.mp member)
      rw [nobody, Finset.card_empty]
  · exact exact_

theorem Exact.note (exact_ : m.Exact log) (current : m.epoch = now) (positive : 0 < now) :
    (m.note now a).Exact ((now, a) :: log) := by
  subst current
  have logged : ∀ visit ∈ (m.epoch, a) :: log, 0 < visit.1 ∧ visit.1 ≤ m.epoch := by
    intro visit member
    rcases List.mem_cons.mp member with rfl | old
    · exact ⟨positive, le_rfl⟩
    · exact exact_.logged visit old
  unfold EpochMarks.note
  split_ifs with older
  · have unseen : a ∉ visitorsIn m.epoch log := by
      intro member
      exact older.ne ((exact_.seen positive a).mpr (mem_visitorsIn.mp member))
    refine ⟨logged, ?_, ?_, ?_⟩
    · intro b
      dsimp only
      rw [Function.update_apply]
      split_ifs
      · exact le_rfl
      · exact exact_.marked b
    · intro _ b
      dsimp only
      rw [Function.update_apply, List.mem_cons, Prod.mk.injEq]
      split_ifs with same
      · exact iff_of_true rfl (.inl ⟨rfl, same⟩)
      · rw [exact_.seen positive b]
        simp [same]
    · rw [visitorsIn_cons, Finset.card_insert_of_notMem unseen, ← exact_.counted]
  · have seen : (m.epoch, a) ∈ log :=
      (exact_.seen positive a).mp (le_antisymm (exact_.marked a) (Nat.le_of_not_lt older))
    refine ⟨logged, exact_.marked, ?_, ?_⟩
    · intro _ b
      rw [exact_.seen positive b, List.mem_cons, Prod.mk.injEq]
      constructor
      · exact .inr
      · rintro (⟨_, rfl⟩ | member)
        · exact seen
        · exact member
    · rw [visitorsIn_cons, Finset.insert_eq_of_mem (mem_visitorsIn.mpr seen)]
      exact exact_.counted

theorem Exact.visit (exact_ : m.Exact log) (later : m.epoch ≤ now) (positive : 0 < now) :
    (m.visit now a).Exact ((now, a) :: log) :=
  (exact_.sync later).note (sync_epoch later) positive

theorem Exact.forget (exact_ : m.Exact log) (unseen : ∀ epoch, (epoch, a) ∉ log) :
    Exact { m with mark := Function.update m.mark a 0 } log := by
  refine ⟨exact_.logged, ?_, ?_, exact_.counted⟩
  · intro b
    dsimp only
    rw [Function.update_apply]
    split_ifs
    · exact Nat.zero_le _
    · exact exact_.marked b
  · intro positive b
    dsimp only at positive ⊢
    rw [Function.update_apply]
    split_ifs with same
    · subst same
      exact iff_of_false positive.ne (unseen m.epoch)
    · exact exact_.seen positive b

end EpochMarks

end Telemt.Foundation
