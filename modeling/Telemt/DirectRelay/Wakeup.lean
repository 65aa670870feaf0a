import Telemt.DirectRelay.Waits

namespace Telemt.DirectRelay
open Foundation

/-! # Is the task woken again? -/

namespace WaitingIo
variable {io next : WaitingIo} {event : WaitEvent}

def Woken (io : WaitingIo) : Prop := io.returned = some .pending → io.wakerRegistered = true

def givesUpAt (io : WaitingIo) : WaitEvent → Option Moment
  | .reserve error moment =>
    match io.phase with
    | .writeReserve _ _ spins rounds =>
      if quotaReserveMaxRounds ≤ rounds + 1 ∧ (error = some .limitExceeded ∨
          (error = some .contended ∧ quotaReserveSpinRetries ≤ spins + 1)) then some moment
      else none
    | _ => none
  | _ => none

def QuotaSleepRuns (io : WaitingIo) (event : WaitEvent) : Prop :=
  ∀ moment ∈ io.givesUpAt event, io.wakerRegistered = true ∨
    (io.quotaWait.arm io.epochStart moment.armed false false).isPending moment.polled = true

@[simp] theorem woken_goto (io : WaitingIo) (phase : WaitPhase) : (io.goto phase).Woken := by
  intro pending
  cases pending

@[simp] theorem woken_finish (io : WaitingIo) (result : PollResult) :
    (io.finish result).Woken ↔ (result = .pending → io.wakerRegistered = true) := by
  simp [Woken, finish]

-- Each poll of a sleep registers the waker as `wakenBy` does.
theorem registered_wakenBy {wait : RateWaitState} {now : Instant} :
    (io.wakenBy wait now).wakerRegistered = true ↔
      io.wakerRegistered = true ∨ wait.isPending now = true := by
  simp [wakenBy]

theorem woken_pollRead (bufRemaining : Nat) : (io.pollRead bufRemaining).Woken := by
  unfold pollRead
  dsimp only
  split_ifs <;> simp

variable (after : AfterSettling)

theorem woken_settled : (io.settled after).Woken := by
  cases after with
  | read bufRemaining =>
    cases bufRemaining with
    | zero => exact woken_goto _ _
    | succ =>
      simp only [settled]
      split <;> exact woken_goto _ _
  | answer n => simp [settled]

theorem woken_unsettled (registered : io.wakerRegistered = true) (after : AfterSettling) :
    (io.unsettled after).Woken := by
  cases after <;> simp [unsettled, registered]

theorem woken_consumeUp (granted : Nat) (blockedUser blockedCidr : Bool)
    (moment : Moment) : (io.consumeUp after granted blockedUser blockedCidr moment).Woken := by
  unfold consumeUp
  dsimp only
  split_ifs with granted pending
  · exact woken_goto _ _
  · refine woken_unsettled ?_ after
    exact registered_wakenBy.mpr (.inr pending)
  · exact woken_goto _ _

theorem woken_settle (now : Instant) : (io.settle after now).Woken := by
  unfold settle
  split_ifs with free pending
  · exact woken_settled after
  · refine woken_unsettled ?_ after
    exact registered_wakenBy.mpr (.inr pending)
  · exact woken_settled after

theorem woken_admitRead (limit quotaUsed bufRemaining : Nat) :
    (io.admitRead limit quotaUsed bufRemaining).Woken := by
  unfold admitRead cutOff
  dsimp only
  split_ifs <;> simp

theorem woken_reserveRead (desired spins rounds : Nat) (error : Option QuotaReserveError)
    (moment : Moment) : (io.reserveRead desired spins rounds error moment).Woken := by
  unfold reserveRead cutOff
  split
  · exact woken_goto _ _
  · simp
  · dsimp only
    split_ifs with spin round pending
    · exact woken_goto _ _
    · exact woken_goto _ _
    · exact fun _ => registered_wakenBy.mpr (.inr pending)
    · exact woken_goto _ _

variable {result : InnerResult}

theorem woken_onReadInner {readLimit : Nat} {full : Bool}
    (moved : io.onReadInner readLimit full result = some next) : next.Woken := by
  unfold onReadInner at moved
  split at moved
  · cases moved
    simp
  · cases moved
    simp
  · dsimp only at moved
    split_ifs at moved <;> cases moved <;> simp

theorem woken_startQuota (len : Nat) : (io.startQuota len).Woken := by
  unfold startQuota
  split <;> exact woken_goto _ _

theorem woken_pollWrite (len : Nat) : (io.pollWrite len).Woken := by
  unfold pollWrite
  dsimp only
  split_ifs
  · simp
  · exact woken_goto _ _
  · exact woken_startQuota len

theorem woken_consumeDown (len granted : Nat) (blockedUser blockedCidr : Bool) (moment : Moment) :
    (io.consumeDown len granted blockedUser blockedCidr moment).Woken := by
  unfold consumeDown
  dsimp only
  split_ifs with granted pending
  · exact woken_startQuota _
  · exact fun _ => registered_wakenBy.mpr (.inr pending)
  · exact woken_goto _ _

theorem woken_admitWrite (limit quotaUsed len rounds : Nat) :
    (io.admitWrite limit quotaUsed len rounds).Woken := by
  unfold admitWrite cutOff
  dsimp only
  split_ifs <;> simp

theorem woken_giveUp (moment : Moment) :
    (io.giveUp moment).Woken ↔ io.wakerRegistered = true ∨
      (io.quotaWait.arm io.epochStart moment.armed false false).isPending moment.polled = true := by
  unfold giveUp
  rw [woken_finish]
  exact (forall_prop_of_true rfl).trans registered_wakenBy

theorem woken_onWriteInner {len : Nat} {full : Bool}
    (moved : io.onWriteInner len full result = some next) : next.Woken := by
  unfold onWriteInner at moved
  split at moved
  · cases moved
    simp
  · cases moved
    simp
  · split_ifs at moved <;> cases moved <;> simp

theorem woken_onEmptyRead (moved : io.onEmptyRead result = some next) :
    next.Woken := by
  unfold onEmptyRead at moved
  split at moved
  · cases moved
    simp
  · cases moved
    simp
  · split_ifs at moved
    cases moved
    simp

theorem quotaSleepRuns_of_none (other : io.givesUpAt event = none) : io.QuotaSleepRuns event := by
  intro moment gaveUp
  rw [other] at gaveUp
  cases gaveUp

theorem woken_reserveWrite_iff {len desired spins rounds : Nat}
    (at_ : io.phase = .writeReserve len desired spins rounds) (error : Option QuotaReserveError)
    (moment : Moment) :
    (io.reserveWrite len desired spins rounds error moment).Woken ↔
      io.QuotaSleepRuns (.reserve error moment) := by
  have endRound : (io.endReserveRound len rounds moment).Woken ↔
      (quotaReserveMaxRounds ≤ rounds + 1 → io.wakerRegistered = true ∨
        (io.quotaWait.arm io.epochStart moment.armed false false).isPending moment.polled = true) := by
    unfold endReserveRound
    split_ifs with last
    · rw [woken_giveUp, forall_prop_of_true last]
    · exact iff_of_true (woken_goto _ _) fun reached => absurd reached last
  unfold reserveWrite QuotaSleepRuns
  simp only [givesUpAt, at_]
  cases error with
  | none => simp
  | some error =>
    cases error with
    | limitExceeded => simpa using endRound
    | contended =>
      by_cases spin : spins + 1 < quotaReserveSpinRetries
      · simp [spin, Nat.not_le.mpr spin]
      · simpa [spin, Nat.not_lt.mp spin] using endRound

theorem woken_step_iff (moved : io.step event = some next) : next.Woken ↔ io.QuotaSleepRuns event := by
  cases event with
  | tick now =>
    unfold step at moved
    dsimp only at moved
    split_ifs at moved
    cases moved
    refine iff_of_true ?_ (quotaSleepRuns_of_none rfl)
    intro pending
    cases pending
  | pollRead =>
    unfold step at moved
    dsimp only at moved
    split_ifs at moved
    cases moved
    exact iff_of_true (woken_pollRead _) (quotaSleepRuns_of_none rfl)
  | pollWrite len =>
    unfold step at moved
    dsimp only at moved
    split_ifs at moved
    cases moved
    exact iff_of_true (woken_pollWrite _) (quotaSleepRuns_of_none rfl)
  | consume _ _ _ moment =>
    refine iff_of_true ?_ (quotaSleepRuns_of_none rfl)
    obtain ⟨after, _, rfl⟩ | ⟨len, _, rfl⟩ := step_consume moved
    · exact woken_consumeUp _ _ _ _ _
    · exact woken_consumeDown _ _ _ _ _
  | settle =>
    refine iff_of_true ?_ (quotaSleepRuns_of_none rfl)
    obtain ⟨_, _, _, rfl⟩ | ⟨_, rfl⟩ := step_settle moved
    · exact woken_settle _ _
    · exact woken_startQuota _
  | load =>
    refine iff_of_true ?_ (quotaSleepRuns_of_none rfl)
    obtain ⟨_, _, ⟨_, _, rfl⟩ | ⟨len, rounds, _, rfl⟩⟩ := step_load moved
    · exact woken_admitRead _ _ _
    · exact woken_admitWrite _ _ _ _
  | reserve error moment =>
    obtain ⟨_, _, _, here, rfl⟩ | ⟨len, _, _, _, here, rfl⟩ :=
      step_reserve moved
    · refine iff_of_true (woken_reserveRead _ _ _ _ _) (quotaSleepRuns_of_none ?_)
      simp only [givesUpAt, here]
    · exact woken_reserveWrite_iff here error moment
  | inner =>
    refine iff_of_true ?_ (quotaSleepRuns_of_none rfl)
    obtain ⟨_, moved⟩ | ⟨_, _, moved⟩ | ⟨_, _, moved⟩ := step_inner moved
    · exact woken_onEmptyRead moved
    · exact woken_onReadInner moved
    · exact woken_onWriteInner moved

end WaitingIo

open WaitingIo

theorem pending_call_woken_iff (io last : WaitingIo) (events : List WaitEvent)
    (run : runFrom WaitingIo.step io events = some last) :
    Guarded WaitingIo.step (fun io event => ∀ next, io.step event = some next → next.Woken) io events ↔
      Guarded WaitingIo.step QuotaSleepRuns io events := by
  apply guarded_congr _ run
  intro io event next moved
  constructor
  · intro woken
    exact (woken_step_iff moved).mp (woken next moved)
  · intro runs next' moved'
    exact (woken_step_iff moved').mpr runs

instance (io : WaitingIo) (event : WaitEvent) : Decidable (io.QuotaSleepRuns event) :=
  inferInstanceAs (Decidable (∀ moment ∈ io.givesUpAt event, _ ∨ _))

def contendedWrite (now : Instant) : List WaitEvent :=
  .pollWrite 10 :: (List.replicate quotaReserveMaxRounds (.load 0 ::
    List.replicate quotaReserveSpinRetries (.reserve (some .contended) ⟨now, now⟩))).flatten

def limitedIo : WaitingIo := { hasLease := false, quotaLimit := some 100 }

theorem first_contended_write_woken :
    Guarded WaitingIo.step (fun io event => ∀ next, io.step event = some next → next.Woken) limitedIo
      (contendedWrite 0) := by
  obtain ⟨last, run⟩ : ∃ last, runFrom WaitingIo.step limitedIo (contendedWrite 0) = some last :=
    Option.isSome_iff_exists.mp (by decide +kernel)
  exact (pending_call_woken_iff limitedIo last (contendedWrite 0) run).mpr (by decide +kernel)

-- The sleep armed by the first write runs out after 20 ms, before the second one.
theorem second_contended_write_lost :
    ∃ last, runFrom WaitingIo.step limitedIo
        (contendedWrite 0 ++ .tick 25000000 :: contendedWrite 25000000) = some last ∧
      last.returned = some .pending ∧ last.wakerRegistered = false ∧
      last.c2sWait.sleep = none ∧ last.s2cWait.sleep = none ∧ last.quotaWait.sleep = none :=
  ⟨{ limitedIo with clock := 25000000, returned := some .pending }, by decide +kernel, rfl, rfl, rfl,
    rfl, rfl⟩

end Telemt.DirectRelay
