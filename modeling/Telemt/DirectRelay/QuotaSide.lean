import Telemt.DirectRelay.Waits

namespace Telemt.DirectRelay

/-!
# The quota side of a waiting call

`WaitingIo` and `StatsIo` are two views of one call. Given the answers of one quota counter, each function
of the first that looks at it takes the call to the phase, the answer and the flag that the function of
the second does.
-/

def Phase.wait : Phase → WaitPhase
  | .idle | .settle _ _ _ _ | .check _ => .idle
  | .emptyRead => .emptyRead
  | .readAdmission bufRemaining _ => .readAdmission bufRemaining
  | .readReserve _ desired spins rounds => .readReserve desired spins rounds
  | .writeAdmission len rounds => .writeAdmission len rounds
  | .writeReserve len _ desired spins rounds => .writeReserve len desired spins rounds
  | .inner .read _ reserved => .readInner reserved
  | .inner .write _ reserved => .writeInner reserved

/-- The phase and the answer of a call. The debt of a read that has its answer is settled after the call
of `StatsIo`. -/
def WaitingIo.quotaView (w : WaitingIo) : WaitPhase × Option PollResult :=
  match w.phase with
  | .settling (.answer n) => (.idle, some (.ready n))
  | phase => (phase, w.returned)

structure WaitingIo.Mirrors (w : WaitingIo) (effect : Effect) : Prop where
  view : w.quotaView = (effect.session.phase.wait, effect.returned)
  exceeded : w.quotaExceeded = effect.session.quotaExceeded

def refusal : Except QuotaReserveError Nat → Option QuotaReserveError
  | .ok _ => none
  | .error error => some error

-- The call with the check that it may end with, of a counter that others have moved meanwhile.
def Effect.checked (limit quotaUsed : Nat) (effect : Effect) : Effect :=
  match effect.session.phase with
  | .check n => effect.session.checkQuota limit quotaUsed n
  | _ => effect

namespace WaitingIo
variable {limit quotaUsed n : Nat} {w next : WaitingIo} {io : StatsIo}

theorem mirrors_checkQuota (view : next.quotaView = (.idle, some (.ready n)))
    (flag : next.quotaExceeded = (io.quotaExceeded || decide (limit ≤ quotaUsed))) :
    next.Mirrors (io.checkQuota limit quotaUsed n) := by
  refine ⟨?_, flag.trans ?_⟩
  all_goals
    unfold StatsIo.checkQuota
    split_ifs with reached
  · exact view
  · exact view
  · rw [decide_eq_true reached, Bool.or_true]
    rfl
  · rw [decide_eq_false reached, Bool.or_false]
    rfl

variable (same : w.quotaExceeded = io.quotaExceeded)
include same

theorem mirrors_admitRead {bufRemaining : Nat} (room : 0 < bufRemaining) :
    (w.admitRead limit quotaUsed bufRemaining).Mirrors
      (io.admitRead limit quotaUsed bufRemaining) := by
  unfold WaitingIo.admitRead StatsIo.admitRead
  by_cases left : limit - quotaUsed = 0
  · simp only [left, Nat.min_zero, if_true]
    exact ⟨rfl, rfl⟩
  · simp only [left, show min bufRemaining (limit - quotaUsed) ≠ 0 by omega, if_false]
    exact ⟨rfl, same⟩

theorem mirrors_admitWrite (len rounds : Nat) :
    (w.admitWrite limit quotaUsed len rounds).Mirrors
      (io.admitWrite limit quotaUsed len rounds) := by
  unfold WaitingIo.admitWrite StatsIo.admitWrite
  dsimp only
  split_ifs
  · exact ⟨rfl, rfl⟩
  · exact ⟨rfl, same⟩
  · exact ⟨rfl, same⟩

variable (remaining desired spins rounds : Nat) (raceLost : Bool) (moment : Moment)

theorem mirrors_reserveRead {waitOver : Bool}
    (waits : (w.quotaWait.arm w.epochStart moment.armed false false).isPending moment.polled = !waitOver) :
    (w.reserveRead desired spins rounds (refusal (quotaTryReserve quotaUsed desired limit raceLost))
      moment).Mirrors
      (io.reserveRead limit quotaUsed remaining desired spins rounds raceLost waitOver) := by
  unfold WaitingIo.reserveRead StatsIo.reserveRead
  rcases quotaTryReserve quotaUsed desired limit raceLost with (_ | _) | _
  · exact ⟨rfl, rfl⟩
  · cases waitOver
    all_goals
      simp only [refusal, waits, Bool.not_true, Bool.not_false, Bool.false_eq_true, if_true, if_false]
      split_ifs <;> exact ⟨rfl, same⟩
  · exact ⟨rfl, same⟩

theorem mirrors_reserveWrite (len : Nat) :
    (w.reserveWrite len desired spins rounds
      (refusal (quotaTryReserve quotaUsed desired limit raceLost)) moment).Mirrors
      (io.reserveWrite limit quotaUsed len remaining desired spins rounds raceLost) := by
  have ended : (w.endReserveRound len rounds moment).Mirrors
      (io.endReserveRound quotaUsed len rounds) := by
    unfold WaitingIo.endReserveRound StatsIo.endReserveRound
    split_ifs <;> exact ⟨rfl, same⟩
  unfold WaitingIo.reserveWrite StatsIo.reserveWrite
  rcases quotaTryReserve quotaUsed desired limit raceLost with (_ | _) | _
  · exact ended
  · dsimp only [refusal]
    split_ifs
    · exact ⟨rfl, same⟩
    · exact ended
  · exact ⟨rfl, same⟩

variable {reserved refunded : Nat} {result : InnerResult}

theorem mirrors_onEmptyRead (moved : w.onEmptyRead result = some next) :
    ∃ effect, io.onEmptyRead quotaUsed result = some effect ∧ next.Mirrors effect := by
  cases result with
  | pending | err =>
    cases moved
    exact ⟨_, rfl, rfl, same⟩
  | ok n =>
    unfold onEmptyRead at moved
    dsimp only at moved
    split_ifs at moved with none
    cases moved
    exact ⟨_, if_pos none, rfl, same⟩

variable (limited : w.quotaLimit = some limit)
include limited

theorem mirrors_startQuota (len : Nat) :
    (w.startQuota len).Mirrors (io.goto quotaUsed (.writeAdmission len 0)) := by
  simp only [startQuota, limited]
  exact ⟨rfl, same⟩

theorem mirrors_settled (within : io.quotaExceeded = false) (bufRemaining : Nat) :
    (w.settled (.read bufRemaining)).Mirrors (io.pollRead quotaUsed bufRemaining true) := by
  rw [StatsIo.pollRead, if_neg (Bool.eq_false_iff.mp within)]
  cases bufRemaining with
  | zero => exact ⟨rfl, same⟩
  | succ =>
    simp only [settled, limited]
    exact ⟨rfl, same⟩

theorem mirrors_onReadInner
    (moved : w.onReadInner reserved (decide (limit ≤ quotaUsed)) result = some next) :
    next.Mirrors ((io.afterRefund refunded .read remaining result).checked limit quotaUsed) := by
  cases result with
  | pending | err =>
    cases moved
    exact ⟨rfl, same⟩
  | ok n =>
    unfold onReadInner at moved
    dsimp only at moved
    split_ifs at moved with _ none <;> cases moved
    · subst none
      exact ⟨rfl, same⟩
    all_goals
      rw [StatsIo.afterRefund, if_neg none]
      apply mirrors_checkQuota rfl
      simp [WaitingIo.goto, StatsIo.goto, WaitingIo.finish, markFull, limited, same]

theorem mirrors_onWriteInner {full : Bool}
    (checks : ∀ n, result = .ok n → full = ((StatsIo.noteCharge io.quotaBytesSinceCheck remaining n).2 &&
      decide (limit ≤ quotaUsed)))
    (moved : w.onWriteInner reserved full result = some next) :
    next.Mirrors ((io.afterRefund refunded .write remaining result).checked limit quotaUsed) := by
  cases result with
  | pending | err =>
    cases moved
    exact ⟨rfl, same⟩
  | ok n =>
    unfold onWriteInner at moved
    dsimp only at moved
    rw [checks n rfl] at moved
    split_ifs at moved with _ none <;> cases moved
    · subst none
      exact ⟨rfl, same⟩
    all_goals
      rw [StatsIo.afterRefund, if_neg none]
      dsimp only
      split_ifs with due
      · apply mirrors_checkQuota rfl
        simp [StatsIo.goto, WaitingIo.finish, markFull, limited, same, due]
      · refine ⟨rfl, Eq.trans ?_ same⟩
        simp [WaitingIo.finish, markFull, due]

end WaitingIo

end Telemt.DirectRelay
