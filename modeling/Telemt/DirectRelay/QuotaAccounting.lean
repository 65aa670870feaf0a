import Telemt.DirectRelay.StatsIo

namespace Telemt.DirectRelay
open Foundation

def Exchange (limit quotaUsed reported : Nat) (io : StatsIo) (effect : Effect) : Prop :=
  effect.quotaUsed + io.held = quotaUsed + effect.session.held + reported ∧
    effect.quotaUsed ≤ max limit quotaUsed

namespace StatsIo
variable {limit quotaUsed : Nat} {io : StatsIo} {effect : Effect}

@[simp] theorem held_goto (phase : Phase) :
    (io.goto quotaUsed phase).session.held = { io with phase := phase }.held := rfl

theorem quotaTryReserve_ok {bytes next : Nat} {raceLost : Bool}
    (reserved : quotaTryReserve quotaUsed bytes limit raceLost = .ok next) :
    next = quotaUsed + bytes ∧ bytes ≤ limit - quotaUsed := by
  unfold quotaTryReserve at reserved
  split_ifs at reserved with exceeded
  cases reserved
  exact ⟨rfl, Nat.le_of_not_lt exceeded⟩

theorem quotaTryReserve_limitExceeded {bytes : Nat} {raceLost : Bool}
    (refused : quotaTryReserve quotaUsed bytes limit raceLost = .error .limitExceeded) :
    limit - quotaUsed < bytes := by
  unfold quotaTryReserve at refused
  split_ifs at refused with exceeded
  · exact exceeded
  · cases refused

inductive FreeMove (limit quotaUsed : Nat) (io : StatsIo) : Effect → Prop
  | finish {result : PollResult} (exceeded : result = .quotaError → io.quotaExceeded = true) :
      FreeMove limit quotaUsed io (io.finish quotaUsed result)
  | cutOff {result : PollResult}
      (short : limit ≤ quotaUsed ∨ ∃ remaining desired spins rounds,
        io.phase = .readReserve remaining desired spins rounds ∧ limit - quotaUsed < desired) :
      FreeMove limit quotaUsed io ({ io with quotaExceeded := true }.finish quotaUsed result)
  | goto {phase : Phase} (still : { io with phase := phase }.held = 0) :
      FreeMove limit quotaUsed io (io.goto quotaUsed phase)
  | reserve {direction : Direction} {remaining bytes : Nat} (fits : bytes ≤ limit - quotaUsed) :
      FreeMove limit quotaUsed io (io.goto (quotaUsed + bytes) (.inner direction remaining bytes))

theorem FreeMove.pollRead (bufRemaining : Nat) (debtSettled : Bool) :
    FreeMove limit quotaUsed io (io.pollRead quotaUsed bufRemaining debtSettled) := by
  unfold StatsIo.pollRead
  split_ifs with exceeded
  · exact .finish fun _ => exceeded
  · exact .finish PollResult.noConfusion
  · exact .goto rfl
  · exact .goto rfl

theorem FreeMove.admitRead {bufRemaining : Nat} (room : 0 < bufRemaining) :
    FreeMove limit quotaUsed io (io.admitRead limit quotaUsed bufRemaining) := by
  unfold StatsIo.admitRead
  dsimp only
  split_ifs
  · exact .cutOff (.inl (by omega))
  · exact .cutOff (.inl (by omega))
  · exact .goto rfl

theorem FreeMove.reserveRead {remaining desired spins rounds : Nat}
    (phase : io.phase = .readReserve remaining desired spins rounds) (raceLost waitOver : Bool) :
    FreeMove limit quotaUsed io
      (io.reserveRead limit quotaUsed remaining desired spins rounds raceLost waitOver) := by
  unfold StatsIo.reserveRead
  split
  · rename_i next reserved
    obtain ⟨rfl, fits⟩ := quotaTryReserve_ok reserved
    exact .reserve fits
  · rename_i refused
    exact .cutOff (.inr ⟨_, _, _, _, phase, quotaTryReserve_limitExceeded refused⟩)
  · split_ifs
    · exact .goto rfl
    · exact .goto rfl
    · exact .goto rfl
    · exact .finish PollResult.noConfusion

theorem FreeMove.pollWrite {len : Nat} {granted : Option Nat}
    (taken : io.pollWrite quotaUsed len granted = some effect) :
    FreeMove limit quotaUsed io effect := by
  unfold StatsIo.pollWrite at taken
  cases granted with
  | none =>
    split_ifs at taken with exceeded <;> cases taken
    · exact .finish fun _ => exceeded
    · exact .finish PollResult.noConfusion
  | some =>
    dsimp only at taken
    split_ifs at taken with exceeded <;> cases taken
    · exact .finish fun _ => exceeded
    · exact .goto rfl

theorem FreeMove.admitWrite (len rounds : Nat) :
    FreeMove limit quotaUsed io (io.admitWrite limit quotaUsed len rounds) := by
  unfold StatsIo.admitWrite
  dsimp only
  split_ifs
  · exact .cutOff (.inl (by omega))
  · exact .goto rfl
  · exact .goto rfl

theorem FreeMove.endReserveRound (len rounds : Nat) :
    FreeMove limit quotaUsed io (io.endReserveRound quotaUsed len rounds) := by
  unfold StatsIo.endReserveRound
  split_ifs
  · exact .finish PollResult.noConfusion
  · exact .goto rfl

theorem FreeMove.reserveWrite (len remaining desired spins rounds : Nat) (raceLost : Bool) :
    FreeMove limit quotaUsed io
      (io.reserveWrite limit quotaUsed len remaining desired spins rounds raceLost) := by
  unfold StatsIo.reserveWrite
  split
  · rename_i next reserved
    obtain ⟨rfl, fits⟩ := quotaTryReserve_ok reserved
    exact .reserve fits
  · exact FreeMove.endReserveRound len rounds
  · split_ifs
    · exact .goto rfl
    · exact FreeMove.endReserveRound len rounds

theorem FreeMove.onEmptyRead {result : InnerResult}
    (taken : io.onEmptyRead quotaUsed result = some effect) :
    (Action.inner result).reported = 0 ∧ FreeMove limit quotaUsed io effect := by
  cases result with
  | pending | err => cases taken; exact ⟨rfl, .finish PollResult.noConfusion⟩
  | ok n =>
    unfold StatsIo.onEmptyRead at taken
    dsimp only at taken
    split_ifs at taken with nothing
    cases taken
    exact ⟨nothing, .finish PollResult.noConfusion⟩

theorem FreeMove.checkQuota (n : Nat) :
    FreeMove limit quotaUsed io (io.checkQuota limit quotaUsed n) := by
  unfold StatsIo.checkQuota
  split_ifs with full
  · exact .cutOff (.inl full)
  · exact .finish PollResult.noConfusion

theorem step_cases {action : Action} (taken : io.step limit quotaUsed action = some effect) :
    (io.held = 0 ∧ action.reported = 0 ∧ FreeMove limit quotaUsed io effect) ∨
      (∃ direction remaining result, action = .inner result ∧
        io.onInner quotaUsed direction remaining io.held result = some effect) ∨
      ∃ direction remaining result, action = .refund ∧
        effect = io.afterRefund (refundReservedQuotaBytes quotaUsed io.held) direction remaining
          result := by
  obtain ⟨_, _, phase⟩ := io
  cases phase <;> cases action <;> simp only [step, Option.some.injEq, reduceCtorEq] at taken
  case idle.pollRead => exact .inl ⟨rfl, rfl, taken ▸ FreeMove.pollRead _ _⟩
  case idle.pollWrite => exact .inl ⟨rfl, rfl, FreeMove.pollWrite taken⟩
  case emptyRead.inner => exact .inl ⟨rfl, FreeMove.onEmptyRead taken⟩
  case readAdmission.load bufRemaining room =>
    exact .inl ⟨rfl, rfl, taken ▸ FreeMove.admitRead room⟩
  case readReserve.reserve => exact .inl ⟨rfl, rfl, taken ▸ FreeMove.reserveRead rfl _ _⟩
  case writeAdmission.load => exact .inl ⟨rfl, rfl, taken ▸ FreeMove.admitWrite _ _⟩
  case writeReserve.reserve => exact .inl ⟨rfl, rfl, taken ▸ FreeMove.reserveWrite _ _ _ _ _ _⟩
  case inner.inner => exact .inr (.inl ⟨_, _, _, rfl, taken⟩)
  case settle.refund => exact .inr (.inr ⟨_, _, _, rfl, taken.symm⟩)
  case check.load => exact .inl ⟨rfl, rfl, taken ▸ FreeMove.checkQuota _⟩

theorem FreeMove.exchange (free : io.held = 0) (move : FreeMove limit quotaUsed io effect) :
    Exchange limit quotaUsed 0 io effect := by
  cases move with
  | finish | cutOff => exact ⟨by rw [free]; rfl, Nat.le_max_right _ _⟩
  | goto still => exact ⟨by rw [free, held_goto, still]; rfl, Nat.le_max_right _ _⟩
  | @reserve _ _ bytes fits =>
    refine ⟨by rw [free]; rfl, ?_⟩
    show quotaUsed + bytes ≤ max limit quotaUsed
    omega

theorem exchange_onInner {direction : Direction} {remaining : Nat} {result : InnerResult}
    (taken : io.onInner quotaUsed direction remaining io.held result = some effect) :
    Exchange limit quotaUsed (Action.inner result).reported io effect := by
  cases result with
  | pending | err => cases taken; exact ⟨rfl, Nat.le_max_right _ _⟩
  | ok n =>
    unfold onInner at taken
    dsimp only at taken
    split_ifs at taken with offered
    cases taken
    refine ⟨?_, Nat.le_max_right _ _⟩
    show quotaUsed + io.held = quotaUsed + (io.held - n) + n
    omega

theorem afterRefund_settled (direction : Direction) (remaining : Nat) (result : InnerResult) :
    (io.afterRefund quotaUsed direction remaining result).quotaUsed = quotaUsed ∧
      (io.afterRefund quotaUsed direction remaining result).session.held = 0 := by
  cases result with
  | pending | err => exact ⟨rfl, rfl⟩
  | ok n =>
    unfold afterRefund
    dsimp only
    cases direction with
    | read | write => split_ifs <;> exact ⟨rfl, rfl⟩

theorem exchange_afterRefund (kept : io.held ≤ quotaUsed) (direction : Direction) (remaining : Nat)
    (result : InnerResult) :
    Exchange limit quotaUsed 0 io
      (io.afterRefund (refundReservedQuotaBytes quotaUsed io.held) direction remaining result) := by
  obtain ⟨counter, free⟩ :=
    @afterRefund_settled (refundReservedQuotaBytes quotaUsed io.held) io direction remaining result
  unfold Exchange
  rw [counter, free]
  unfold refundReservedQuotaBytes
  omega

theorem step_exchange {action : Action} (kept : io.held ≤ quotaUsed)
    (taken : io.step limit quotaUsed action = some effect) :
    Exchange limit quotaUsed action.reported io effect := by
  rcases step_cases taken with ⟨free, silent, move⟩ | ⟨_, _, result, rfl, answered⟩ |
    ⟨direction, remaining, result, rfl, rfl⟩
  · rw [silent]
    exact move.exchange free
  · exact exchange_onInner answered
  · exact exchange_afterRefund kept direction remaining result

end StatsIo

namespace UserTraffic

structure Books (limit start spent : Nat) (s : UserTraffic) : Prop where
  balanced : Foundation.Balanced StatsIo.held start spent s.quotaUsed s.sessions
  bounded : s.quotaUsed ≤ max limit start

variable {limit start spent : Nat} {s t : UserTraffic}

theorem step_act {i : Nat} {action : Action} (taken : s.step limit (.act i action) = some t) :
    ∃ io effect, s.sessions[i]? = some io ∧ io.step limit s.quotaUsed action = some effect ∧
      t = s.apply i effect := by
  obtain ⟨effect, moved, rfl⟩ := Option.map_eq_some_iff.mp taken
  obtain ⟨io, present, moved⟩ := Option.bind_eq_some_iff.mp moved
  exact ⟨io, effect, present, moved, rfl⟩

theorem Books.step (books : Books limit start spent s) {event : Event}
    (taken : s.step limit event = some t) : Books limit start (spent + event.reported) t := by
  cases event with
  | «open» =>
    cases taken
    exact ⟨books.balanced.join rfl, books.bounded⟩
  | act i =>
    obtain ⟨io, _, present, moved, rfl⟩ := step_act taken
    have member : io ∈ s.sessions := List.mem_of_getElem? present
    obtain ⟨law, bound⟩ := StatsIo.step_exchange (books.balanced.held_le member) moved
    refine ⟨books.balanced.exchange present law, bound.trans ?_⟩
    exact Nat.max_le.mpr ⟨Nat.le_max_left _ _, books.bounded⟩

theorem Books.run {events : List Event} (books : Books limit start spent s)
    (run : runFrom (UserTraffic.step limit) s events = some t) :
    Books limit start (spent + transferred events) t := by
  induction events generalizing s spent with
  | nil =>
    cases run
    exact books
  | cons _ _ ih =>
    obtain ⟨_, taken, rest⟩ := runFrom_cons_eq_some.mp run
    have after := ih (books.step taken) rest
    rw [Nat.add_assoc] at after
    exact after

theorem books_of_run {events : List Event}
    (run : runFrom (UserTraffic.step limit) { quotaUsed := start } events = some s) :
    Books limit start (transferred events) s := by
  have fresh : Books limit start 0 { quotaUsed := start } := ⟨rfl, Nat.le_max_right _ _⟩
  have after := fresh.run run
  rw [Nat.zero_add] at after
  exact after

theorem outstanding_of_noCallInProgress (quiet : s.NoCallInProgress) : s.outstanding = 0 := by
  apply outstanding_eq_zero
  intro io member
  unfold StatsIo.held
  rw [quiet io member]

end UserTraffic

theorem quota_used_accounts_for_transfers (limit start : Nat) (events : List Event) (s : UserTraffic)
    (run : runFrom (UserTraffic.step limit) { quotaUsed := start } events = some s) :
    (start ≤ limit → s.quotaUsed ≤ limit) ∧ s.quotaUsed ≤ max limit start ∧
      (s.NoCallInProgress → s.quotaUsed = start + transferred events) := by
  have books := UserTraffic.books_of_run run
  have bounded := books.bounded
  refine ⟨fun below => by omega, bounded, ?_⟩
  intro quiet
  have settled : s.quotaUsed = start + transferred events + s.outstanding := books.balanced
  rw [UserTraffic.outstanding_of_noCallInProgress quiet] at settled
  exact settled

def readAgainstWrite : List Event :=
  [.open, .open, .act 0 (.pollRead 8 true), .act 1 (.pollWrite 3 (some 3)), .act 1 .load,
    .act 1 (.reserve true false), .act 1 (.reserve false false), .act 0 .load,
    .act 0 (.reserve false false), .act 1 (.inner (.ok 2)), .act 0 (.inner .pending),
    .act 1 .refund, .act 0 .refund, .act 1 .load]

theorem read_against_write_accounted :
    ∃ s, runFrom (UserTraffic.step 10) { quotaUsed := 1 } readAgainstWrite = some s ∧
      s.quotaUsed ≤ 10 ∧ s.quotaUsed = 1 + transferred readAgainstWrite := by
  have ends : ((runFrom (UserTraffic.step 10) { quotaUsed := 1 } readAgainstWrite).map fun s =>
      decide s.NoCallInProgress) = some true := by decide +kernel
  obtain ⟨s, run, quiet⟩ := Option.map_eq_some_iff.mp ends
  obtain ⟨below, _, settled⟩ := quota_used_accounts_for_transfers 10 1 readAgainstWrite s run
  exact ⟨s, run, below (by decide), settled (of_decide_eq_true quiet)⟩

end Telemt.DirectRelay
