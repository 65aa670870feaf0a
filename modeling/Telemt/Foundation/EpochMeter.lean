import Telemt.Foundation.Ledger

namespace Telemt.Foundation

/-!
# A budget that starts anew in every epoch

The meter moves to a later epoch in two moves: the first changes the epoch, the second clears the
count. Nothing is granted while anyone is `clearing` between the two.
-/

structure Meter where
  epoch : Nat := 0
  used : Nat := 0
  deriving DecidableEq, Repr

structure MeterHolder where
  epoch : Nat := 0
  held : Nat := 0
  clearing : Bool := false
  deriving DecidableEq, Repr

inductive MeterMove (cap : Nat) (quiet : Prop) : Meter → MeterHolder → Meter → MeterHolder → Prop
  | stay (m : Meter) (h : MeterHolder) : MeterMove cap quiet m h m h
  | advance (m : Meter) (h : MeterHolder) (epoch : Nat) (later : m.epoch < epoch) :
      MeterMove cap quiet m h ⟨epoch, m.used⟩ { h with clearing := true }
  | clear (m : Meter) (h : MeterHolder) (clearing : h.clearing = true) :
      MeterMove cap quiet m h ⟨m.epoch, 0⟩ { h with clearing := false }
  | grant (m : Meter) (h : MeterHolder) (amount : Nat) (free : quiet) (fresh : h.held = 0)
      (fits : m.used + amount ≤ cap) :
      MeterMove cap quiet m h ⟨m.epoch, m.used + amount⟩ { h with epoch := m.epoch, held := amount }
  | giveBack (m : Meter) (h : MeterHolder) (bytes : Nat) (owned : bytes ≤ h.held)
      (timely : h.epoch = m.epoch) :
      MeterMove cap quiet m h ⟨m.epoch, m.used - bytes⟩ { h with held := h.held - bytes }

def MeterHolder.heldIn (epoch : Nat) (h : MeterHolder) : Nat := if h.epoch = epoch then h.held else 0

def grantedIn (epoch : Nat) (holders : List MeterHolder) : Nat :=
  outstanding (MeterHolder.heldIn epoch) holders

def Quiet (holders : List MeterHolder) : Prop := ∀ h ∈ holders, h.clearing = false

structure WithinBudget (cap : Nat) (m : Meter) (holders : List MeterHolder) : Prop where
  used_le : m.used ≤ cap
  granted_le : ∀ epoch, grantedIn epoch holders ≤ cap
  future : ∀ epoch, m.epoch < epoch → grantedIn epoch holders = 0
  current : grantedIn m.epoch holders ≤ m.used
  clearing : ¬Quiet holders → grantedIn m.epoch holders = 0

namespace WithinBudget
variable {cap : Nat} {m m' : Meter} {holders : List MeterHolder} {i : Nat} {h h' : MeterHolder}

theorem grantedIn_set (position : holders[i]? = some h) (epoch : Nat) :
    grantedIn epoch (holders.set i h') + h.heldIn epoch = grantedIn epoch holders + h'.heldIn epoch :=
  outstanding_set _ h' position

theorem grantedIn_set_of_same (position : holders[i]? = some h) {epoch : Nat}
    (same : h'.heldIn epoch = h.heldIn epoch) :
    grantedIn epoch (holders.set i h') = grantedIn epoch holders := by
  have changed := @grantedIn_set holders i h h' position epoch
  omega

theorem quiet_set (quiet : Quiet holders) (still : h'.clearing = false) : Quiet (holders.set i h') := by
  intro holder member
  rcases List.mem_or_eq_of_mem_set member with old | rfl
  · exact quiet holder old
  · exact still

theorem fresh (cap : Nat) : WithinBudget cap {} [] where
  used_le := Nat.zero_le _
  granted_le _ := Nat.zero_le _
  future _ _ := rfl
  current := le_rfl
  clearing _ := rfl

theorem join (within : WithinBudget cap m holders) (unused : h.held = 0) (still : h.clearing = false) :
    WithinBudget cap m (holders ++ [h]) := by
  have same (epoch : Nat) : grantedIn epoch (holders ++ [h]) = grantedIn epoch holders := by
    unfold grantedIn
    rw [outstanding_append_singleton]
    simp [MeterHolder.heldIn, unused]
  refine ⟨within.used_le, ?_, ?_, ?_, ?_⟩
  · intro epoch
    rw [same]
    exact within.granted_le epoch
  · intro epoch later
    rw [same]
    exact within.future epoch later
  · rw [same]
    exact within.current
  · intro disturbed
    rw [same]
    apply within.clearing
    intro quiet
    apply disturbed
    intro holder member
    rcases List.mem_append.mp member with old | new
    · exact quiet holder old
    · rw [List.mem_singleton.mp new]
      exact still

section
variable (within : WithinBudget cap m holders) (position : holders[i]? = some h)
include within position

theorem advance {epoch : Nat} (later : m.epoch < epoch) :
    WithinBudget cap ⟨epoch, m.used⟩ (holders.set i { h with clearing := true }) := by
  have same (e : Nat) : grantedIn e (holders.set i { h with clearing := true }) = grantedIn e holders :=
    grantedIn_set_of_same position rfl
  have none := within.future epoch later
  refine ⟨within.used_le, ?_, ?_, ?_, ?_⟩
  · intro e
    rw [same]
    exact within.granted_le e
  · intro e further
    rw [same]
    exact within.future e (later.trans further)
  · rw [same, none]
    exact Nat.zero_le _
  · intro _
    rw [same]
    exact none

theorem clear (busy : h.clearing = true) :
    WithinBudget cap ⟨m.epoch, 0⟩ (holders.set i { h with clearing := false }) := by
  have same (e : Nat) : grantedIn e (holders.set i { h with clearing := false }) = grantedIn e holders :=
    grantedIn_set_of_same position rfl
  have nothing : grantedIn m.epoch holders = 0 := by
    apply within.clearing
    intro quiet
    rw [quiet h (List.mem_of_getElem? position)] at busy
    cases busy
  refine ⟨Nat.zero_le _, ?_, ?_, ?_, ?_⟩
  · intro e
    rw [same]
    exact within.granted_le e
  · intro e further
    rw [same]
    exact within.future e further
  · rw [same]
    exact nothing.le
  · intro _
    rw [same]
    exact nothing

theorem grant {amount : Nat} (quiet : Quiet holders) (unused : h.held = 0)
    (fits : m.used + amount ≤ cap) :
    WithinBudget cap ⟨m.epoch, m.used + amount⟩
      (holders.set i { h with epoch := m.epoch, held := amount }) := by
  have before (e : Nat) : h.heldIn e = 0 := by simp [MeterHolder.heldIn, unused]
  have other (e : Nat) (differs : m.epoch ≠ e) :
      grantedIn e (holders.set i { h with epoch := m.epoch, held := amount }) = grantedIn e holders := by
    apply grantedIn_set_of_same position
    rw [before, MeterHolder.heldIn, if_neg differs]
  have here : grantedIn m.epoch (holders.set i { h with epoch := m.epoch, held := amount }) =
      grantedIn m.epoch holders + amount := by
    have changed := @grantedIn_set holders i h { h with epoch := m.epoch, held := amount } position m.epoch
    rw [before, MeterHolder.heldIn, if_pos rfl] at changed
    exact changed
  have current := within.current
  refine ⟨fits, ?_, ?_, ?_, ?_⟩
  · intro e
    by_cases now : m.epoch = e
    · rw [← now, here]
      omega
    · rw [other e now]
      exact within.granted_le e
  · intro e further
    rw [other e (Nat.ne_of_lt further)]
    exact within.future e further
  · rw [here]
    exact Nat.add_le_add_right current amount
  · intro disturbed
    apply absurd _ disturbed
    apply quiet_set quiet
    exact quiet h (List.mem_of_getElem? position)

theorem giveBack {bytes : Nat} (owned : bytes ≤ h.held) (timely : h.epoch = m.epoch) :
    WithinBudget cap ⟨m.epoch, m.used - bytes⟩ (holders.set i { h with held := h.held - bytes }) := by
  have other (e : Nat) (differs : m.epoch ≠ e) :
      grantedIn e (holders.set i { h with held := h.held - bytes }) = grantedIn e holders := by
    apply grantedIn_set_of_same position
    unfold MeterHolder.heldIn
    rw [timely, if_neg differs, if_neg differs]
  have here : grantedIn m.epoch (holders.set i { h with held := h.held - bytes }) + bytes =
      grantedIn m.epoch holders := by
    have changed := @grantedIn_set holders i h { h with held := h.held - bytes } position m.epoch
    unfold MeterHolder.heldIn at changed
    rw [if_pos timely, if_pos timely] at changed
    dsimp only at changed
    omega
  have current := within.current
  refine ⟨(Nat.sub_le _ _).trans within.used_le, ?_, ?_, ?_, ?_⟩
  · intro e
    have bound := within.granted_le e
    by_cases now : m.epoch = e
    · subst now
      omega
    · rw [other e now]
      exact bound
  · intro e further
    rw [other e (Nat.ne_of_lt further)]
    exact within.future e further
  · show grantedIn m.epoch (holders.set i { h with held := h.held - bytes }) ≤ m.used - bytes
    omega
  · intro disturbed
    have nothing := within.clearing fun quiet =>
      disturbed (quiet_set quiet (quiet h (List.mem_of_getElem? position)))
    show grantedIn m.epoch (holders.set i { h with held := h.held - bytes }) = 0
    omega

theorem move (moved : MeterMove cap (Quiet holders) m h m' h') :
    WithinBudget cap m' (holders.set i h') := by
  cases moved with
  | stay =>
    obtain ⟨_, rfl⟩ := List.getElem?_eq_some_iff.mp position
    rw [List.set_getElem_self]
    exact within
  | advance _ later => exact within.advance position later
  | clear clearing => exact within.clear position clearing
  | grant _ free unused fits => exact within.grant position free unused fits
  | giveBack _ owned timely => exact within.giveBack position owned timely

end

end WithinBudget

end Telemt.Foundation
