import Telemt.DirectRelay.QuotaAccounting

namespace Telemt.DirectRelay
open Foundation

def CutsOff (io : StatsIo) (effect : Effect) : Prop :=
  effect.returned = some .quotaError ∨ io.quotaExceeded = false ∧ effect.session.quotaExceeded = true

instance (io : StatsIo) (effect : Effect) : Decidable (CutsOff io effect) :=
  inferInstanceAs (Decidable (_ ∨ _))

-- A `poll_read` is about to reserve what it computed on admission, and that much is not left.
def StatsIo.ReadReserveRefused (limit quotaUsed : Nat) (io : StatsIo) : Prop :=
  match io.phase with
  | .readReserve _ desired _ _ => limit - quotaUsed < desired
  | _ => False

namespace StatsIo
variable {limit quotaUsed : Nat} {io : StatsIo} {effect : Effect} {counter : Nat}

theorem not_cutsOff_goto {phase : Phase} : ¬CutsOff io (io.goto counter phase) := by
  rintro (returned | ⟨lowered, raised⟩)
  · cases returned
  · exact absurd (lowered.symm.trans raised) Bool.false_ne_true

theorem not_cutsOff_finish {result : PollResult} (other : result ≠ .quotaError) :
    ¬CutsOff io (io.finish counter result) := by
  rintro (returned | ⟨lowered, raised⟩)
  · exact other (Option.some.inj returned)
  · exact absurd (lowered.symm.trans raised) Bool.false_ne_true

theorem FreeMove.cutsOff (free : io.held = 0) (move : FreeMove limit quotaUsed io effect)
    (cut : CutsOff io effect) :
    io.quotaExceeded = true ∨ io.ReadReserveRefused limit quotaUsed ∨
      limit ≤ quotaUsed ∧ io.held = 0 := by
  cases move with
  | @finish result exceeded =>
    by_cases error : result = .quotaError
    · exact .inl (exceeded error)
    · exact absurd cut (not_cutsOff_finish error)
  | goto | reserve => exact absurd cut not_cutsOff_goto
  | cutOff short =>
    rcases short with full | ⟨remaining, desired, spins, rounds, phase, refused⟩
    · exact .inr (.inr ⟨full, free⟩)
    · right; left
      unfold ReadReserveRefused
      rw [phase]
      exact refused

theorem not_cutsOff_onInner {direction : Direction} {remaining reserved : Nat} {result : InnerResult}
    (taken : io.onInner quotaUsed direction remaining reserved result = some effect) :
    ¬CutsOff io effect := by
  cases result with
  | pending | err => cases taken; exact not_cutsOff_goto
  | ok n =>
    unfold onInner at taken
    dsimp only at taken
    split_ifs at taken
    cases taken
    exact not_cutsOff_goto

theorem not_cutsOff_afterRefund {direction : Direction} {remaining : Nat}
    {result : InnerResult} : ¬CutsOff io (io.afterRefund counter direction remaining result) := by
  cases result with
  | pending | err => exact not_cutsOff_finish PollResult.noConfusion
  | ok n =>
    unfold afterRefund
    dsimp only
    generalize noteCharge io.quotaBytesSinceCheck remaining n = noted
    cases direction with
    | read =>
      dsimp only
      split_ifs
      · exact not_cutsOff_finish PollResult.noConfusion
      · exact @not_cutsOff_goto { io with quotaBytesSinceCheck := noted.1 } _ _
    | write =>
      split_ifs
      · exact not_cutsOff_finish PollResult.noConfusion
      · exact @not_cutsOff_goto { io with quotaBytesSinceCheck := noted.1 } _ _
      · exact @not_cutsOff_finish { io with quotaBytesSinceCheck := noted.1 } _ _
          PollResult.noConfusion

theorem step_cutsOff {action : Action}
    (taken : io.step limit quotaUsed action = some effect) (cut : CutsOff io effect) :
    io.quotaExceeded = true ∨ io.ReadReserveRefused limit quotaUsed ∨
      limit ≤ quotaUsed ∧ io.held = 0 := by
  rcases step_cases taken with ⟨free, _, move⟩ | ⟨_, _, _, _, answered⟩ | ⟨_, _, _, _, rfl⟩
  · exact move.cutsOff free cut
  · exact absurd cut (not_cutsOff_onInner answered)
  · exact absurd cut not_cutsOff_afterRefund

end StatsIo

def UserTraffic.heldByOthers (s : UserTraffic) (i : Nat) : Nat :=
  Foundation.outstanding StatsIo.held (s.sessions.eraseIdx i)

theorem cut_off_only_when_counter_full (limit start : Nat) (events : List Event) (s : UserTraffic)
    (i : Nat) (io : StatsIo) (action : Action) (effect : Effect)
    (run : runFrom (UserTraffic.step limit) { quotaUsed := start } events = some s)
    (present : s.sessions[i]? = some io) (taken : s.effectOf limit i action = some effect)
    (cut : CutsOff io effect) (available : ¬io.ReadReserveRefused limit s.quotaUsed) :
    io.quotaExceeded = true ∨ limit ≤ start + transferred events + s.heldByOthers i := by
  have moved : io.step limit s.quotaUsed action = some effect := by
    rw [UserTraffic.effectOf, present] at taken
    exact taken
  rcases StatsIo.step_cutsOff moved cut with exceeded | refused | ⟨full, free⟩
  · exact .inl exceeded
  · exact absurd refused available
  · have books := (UserTraffic.books_of_run run).balanced
    have others := outstanding_eraseIdx StatsIo.held present
    rw [free, Nat.add_zero] at others
    rw [Foundation.Balanced, others] at books
    exact .inr (full.trans books.le)

def readAgainstRead : List Event :=
  [.open, .open, .act 0 (.pollRead 10 true), .act 0 .load, .act 0 (.reserve false false),
    .act 1 (.pollRead 10 true)]

theorem cut_off_while_other_read_holds_quota :
    ∃ s io effect, runFrom (UserTraffic.step 10) { quotaUsed := 0 } readAgainstRead = some s ∧
      s.sessions[1]? = some io ∧ s.effectOf 10 1 .load = some effect ∧ CutsOff io effect ∧
      (io.quotaExceeded = true ∨ 10 ≤ 0 + transferred readAgainstRead + s.heldByOthers 1) := by
  refine ⟨_, _, _, rfl, rfl, rfl, .inl rfl, ?_⟩
  apply cut_off_only_when_counter_full 10 0 readAgainstRead _ 1 _ .load _ rfl rfl rfl (.inl rfl)
  intro refused
  exact refused

-- It is cut off although nothing is ever transferred: the first read finds no data and gives back
-- what it reserved.
theorem cut_off_before_any_transfer :
    ∃ s io effect t, runFrom (UserTraffic.step 10) { quotaUsed := 0 } readAgainstRead = some s ∧
      s.sessions[1]? = some io ∧ s.effectOf 10 1 .load = some effect ∧
      effect.returned = some .quotaError ∧ io.quotaExceeded = false ∧
      effect.session.quotaExceeded = true ∧ ¬10 ≤ 0 + transferred readAgainstRead ∧
      runFrom (UserTraffic.step 10) (s.apply 1 effect) [.act 0 (.inner .pending), .act 0 .refund] =
        some t ∧ t.quotaUsed = 0 :=
  ⟨_, _, _, _, rfl, rfl, rfl, rfl, rfl, rfl, by decide, rfl, rfl⟩

end Telemt.DirectRelay
