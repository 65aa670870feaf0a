import Telemt.DirectRelay.Wakeup
import Telemt.TrafficLimiter.Requests

namespace Telemt.DirectRelay
open Foundation

/-! # Does the traffic lease count what is relayed? -/

structure RateLedger where
  upGranted : Nat := 0
  downGranted : Nat := 0
  downRefunded : Nat := 0
  bytesRead : Nat := 0
  bytesWritten : Nat := 0
  lastRead : Nat := 0

def RateLedger.refund (ledger : RateLedger) (bytes : Nat) : RateLedger :=
  { ledger with downRefunded := ledger.downRefunded + bytes }

structure ShapedIo where
  io : WaitingIo
  shaperReservedBytes : Nat := 0
  ledger : RateLedger := {}

-- `quota_exceeded` is shared with the other half of the relay, which may set it at any time.
inductive ShapedEvent
  | call (event : WaitEvent)
  | exceed

namespace ShapedIo
variable (s : ShapedIo)

def refund (bytes : Nat) : ShapedIo := { s with ledger := s.ledger.refund bytes }

def onConsume (granted : Nat) : ShapedIo :=
  match s.io.phase with
  | .settling _ => { s with ledger := { s.ledger with upGranted := s.ledger.upGranted + granted } }
  | .shaping _ =>
    { s with
      shaperReservedBytes := granted
      ledger := { s.ledger with downGranted := s.ledger.downGranted + granted } }
  | _ => s

def onLoad (quotaUsed : Nat) : ShapedIo :=
  match s.io.phase, s.io.quotaLimit with
  | .writeAdmission _ _, some limit =>
    if limit - quotaUsed = 0 then s.refund s.shaperReservedBytes else s
  | _, _ => s

def onInner (result : InnerResult) : ShapedIo :=
  match s.io.phase, result with
  | .readInner _, .ok n =>
    { s with ledger := { s.ledger with bytesRead := s.ledger.bytesRead + n, lastRead := n } }
  | .writeInner _, .ok n =>
    let s := if s.shaperReservedBytes > n then s.refund (s.shaperReservedBytes - n) else s
    { s with ledger := { s.ledger with bytesWritten := s.ledger.bytesWritten + n } }
  | .writeInner _, _ => if s.shaperReservedBytes > 0 then s.refund s.shaperReservedBytes else s
  | _, _ => s

def book : WaitEvent → ShapedIo
  | .pollWrite _ => { s with shaperReservedBytes := 0 }
  | .consume granted _ _ _ => s.onConsume granted
  | .load quotaUsed => s.onLoad quotaUsed
  | .reserve error moment =>
    if (s.io.givesUpAt (.reserve error moment)).isSome then s.refund s.shaperReservedBytes else s
  | .inner result _ => s.onInner result
  | _ => s

def step : ShapedEvent → Option ShapedIo
  | .call event => (s.io.step event).map fun io => { s.book event with io := io }
  | .exceed => some { s with io := { s.io with quotaExceeded := true } }

def requested : Option Nat :=
  match s.io.phase with
  | .settling _ => some s.io.c2sRateDebtBytes
  | .shaping len => some len
  | _ => none

/-- A lease grants at most what it is asked for, and the length of a buffer is a `usize`. -/
def Answered : ShapedEvent → Prop
  | .call (.pollRead bufRemaining) => bufRemaining < 2 ^ 64
  | .call (.consume granted _ _ _) => ∀ asked ∈ s.requested, granted ≤ asked
  | _ => True

instance (event : ShapedEvent) : Decidable (s.Answered event) := by
  unfold Answered
  split <;> infer_instance

theorem answered_by_limiter {ι κ σ : Type} [DecidableEq ι] [DecidableEq κ] [DecidableEq σ]
    {rates : TrafficLimiter.Rates ι κ} {events : List (TrafficLimiter.Event ι κ σ)}
    {limiter : TrafficLimiter.Limiter ι κ σ}
    (run : runFrom (TrafficLimiter.Limiter.step rates) {} events = some limiter) {s : ShapedIo}
    {i : Nat} {call : TrafficLimiter.Call ι κ σ}
    (asked : (events.flatMap TrafficLimiter.Limiter.requestOf)[i]? = s.requested)
    (answer : limiter.calls[i]? = some call) (moment : Moment) :
    s.Answered (.call (.consume call.granted call.blockedUser call.blockedCidr moment)) := by
  intro requested request
  have start : TrafficLimiter.Limiter.AllWithin [] ({} : TrafficLimiter.Limiter ι κ σ) := .nil
  have all := start.run run
  obtain ⟨inside, rfl⟩ := List.getElem?_eq_some_iff.mp answer
  obtain ⟨inRequests, rfl⟩ := List.getElem?_eq_some_iff.mp (asked.trans request)
  exact (all.get inRequests inside).1

end ShapedIo

namespace WaitPhase

def held (reserved : Nat) : WaitPhase → Nat
  | .writeAdmission _ _ => reserved
  | .writeReserve _ _ _ _ => reserved
  | .writeInner _ => reserved
  | _ => 0

def Fits (debt reserved : Nat) : WaitPhase → Prop
  | .settling (.read bufRemaining) => bufRemaining < 2 ^ 64
  | .readAdmission bufRemaining => bufRemaining < 2 ^ 64 ∧ debt = 0
  | .readReserve desired _ _ => desired < 2 ^ 64 ∧ debt = 0
  | .readInner readLimit => readLimit < 2 ^ 64 ∧ debt = 0
  | .shaping _ => reserved = 0
  | .writeAdmission len _ => len ≤ reserved
  | .writeReserve len desired _ _ => len ≤ reserved ∧ desired ≤ reserved
  | .writeInner len => len ≤ reserved
  | _ => True

end WaitPhase

namespace WaitingIo

structure Goes (io next : WaitingIo) (reserved held : Nat) : Prop where
  lease : next.hasLease = io.hasLease
  debt : next.c2sRateDebtBytes = io.c2sRateDebtBytes
  fits : next.phase.Fits io.c2sRateDebtBytes reserved
  held : next.phase.held reserved = held

variable {io moved next : WaitingIo} {reserved : Nat}

def SameDebt (io moved : WaitingIo) : Prop :=
  moved.hasLease = io.hasLease ∧ moved.c2sRateDebtBytes = io.c2sRateDebtBytes

theorem goes_goto {phase : WaitPhase} (same : io.SameDebt moved)
    (fits : phase.Fits io.c2sRateDebtBytes reserved) :
    io.Goes (moved.goto phase) reserved (phase.held reserved) :=
  ⟨same.1, same.2, fits, rfl⟩

theorem goes_finish {result : PollResult} (same : io.SameDebt moved) :
    io.Goes (moved.finish result) reserved 0 :=
  ⟨same.1, same.2, trivial, rfl⟩

theorem goes_pollRead {bufRemaining : Nat} (small : bufRemaining < 2 ^ 64) :
    io.Goes (io.pollRead bufRemaining) reserved 0 := by
  unfold pollRead
  dsimp only
  split_ifs
  · exact goes_finish ⟨rfl, rfl⟩
  · exact goes_goto ⟨rfl, rfl⟩ small

variable {after : AfterSettling}

theorem goes_settled (same : io.SameDebt moved) (clear : io.c2sRateDebtBytes = 0)
    (fits : (WaitPhase.settling after).Fits io.c2sRateDebtBytes reserved) :
    io.Goes (moved.settled after) reserved 0 := by
  cases after with
  | read bufRemaining =>
    cases bufRemaining with
    | zero => exact goes_goto same trivial
    | succ =>
      simp only [settled]
      split
      · exact goes_goto same ⟨fits, clear⟩
      · exact goes_goto same ⟨fits, clear⟩
  | answer n => exact goes_finish same

theorem goes_unsettled (same : io.SameDebt moved) :
    io.Goes (moved.unsettled after) reserved 0 := by
  cases after with
  | read bufRemaining | answer n => exact goes_finish same

theorem goes_consumeUp {granted : Nat} {blockedUser blockedCidr : Bool} {moment : Moment}
    (fits : (WaitPhase.settling after).Fits io.c2sRateDebtBytes reserved) :
    { io with c2sRateDebtBytes := io.c2sRateDebtBytes - granted }.Goes
      (io.consumeUp after granted blockedUser blockedCidr moment) reserved 0 := by
  have still (debt : Nat) : (WaitPhase.settling after).Fits debt reserved := by
    cases after with
    | read => exact fits
    | answer n => trivial
  unfold consumeUp
  dsimp only
  split_ifs with some_
  · exact goes_goto ⟨rfl, rfl⟩ (still _)
  · obtain rfl : granted = 0 := Nat.eq_zero_of_not_pos some_
    exact goes_unsettled ⟨rfl, rfl⟩
  · obtain rfl : granted = 0 := Nat.eq_zero_of_not_pos some_
    exact goes_goto ⟨rfl, rfl⟩ (still _)

theorem goes_settle {now : Instant} (lease : io.hasLease = true) (clear : io.c2sRateDebtBytes = 0)
    (fits : (WaitPhase.settling after).Fits io.c2sRateDebtBytes reserved) :
    io.Goes (io.settle after now) reserved 0 := by
  unfold settle
  split_ifs with none_ pending
  · simp [lease] at none_
  · exact goes_unsettled ⟨rfl, rfl⟩
  · exact goes_settled ⟨rfl, rfl⟩ clear fits

theorem goes_cutOff : io.Goes io.cutOff reserved 0 := goes_finish ⟨rfl, rfl⟩

theorem goes_admitRead {limit quotaUsed bufRemaining : Nat}
    (fits : (WaitPhase.readAdmission bufRemaining).Fits io.c2sRateDebtBytes reserved) :
    io.Goes (io.admitRead limit quotaUsed bufRemaining) reserved 0 := by
  unfold admitRead
  dsimp only
  split_ifs
  · exact goes_cutOff
  · exact goes_goto ⟨rfl, rfl⟩ ⟨(min_le_left _ _).trans_lt fits.1, fits.2⟩

theorem goes_reserveRead {desired spins rounds : Nat} {error : Option QuotaReserveError}
    {moment : Moment}
    (fits : (WaitPhase.readReserve desired spins rounds).Fits io.c2sRateDebtBytes reserved) :
    io.Goes (io.reserveRead desired spins rounds error moment) reserved 0 := by
  unfold reserveRead
  split
  · exact goes_goto ⟨rfl, rfl⟩ fits
  · exact goes_cutOff
  · dsimp only
    split_ifs
    · exact goes_goto ⟨rfl, rfl⟩ fits
    · exact goes_goto ⟨rfl, rfl⟩ fits
    · exact goes_finish ⟨rfl, rfl⟩
    · exact goes_goto ⟨rfl, rfl⟩ fits

end WaitingIo

def InnerResult.bytes : InnerResult → Nat
  | .ok n => n
  | .pending => 0
  | .err => 0

namespace WaitingIo
variable {io next : WaitingIo} {reserved : Nat} {result : InnerResult} {full : Bool}

theorem goes_onEmptyRead (answered : io.onEmptyRead result = some next) :
    io.Goes next reserved 0 := by
  unfold onEmptyRead at answered
  split at answered
  · cases answered
    exact goes_finish ⟨rfl, rfl⟩
  · cases answered
    exact goes_finish ⟨rfl, rfl⟩
  · split_ifs at answered
    cases answered
    exact goes_finish ⟨rfl, rfl⟩

theorem goes_onReadInner {readLimit : Nat} (lease : io.hasLease = true)
    (fits : (WaitPhase.readInner readLimit).Fits io.c2sRateDebtBytes reserved)
    (answered : io.onReadInner readLimit full result = some next) :
    { io with c2sRateDebtBytes := result.bytes }.Goes next reserved 0 := by
  obtain ⟨_, clear⟩ := fits
  cases result with
  | pending | err =>
    cases answered
    exact goes_finish ⟨rfl, clear⟩
  | ok n =>
    unfold onReadInner at answered
    dsimp only at answered
    split_ifs at answered with tooMany nothing leased <;> cases answered
    · exact goes_finish ⟨rfl, clear.trans nothing.symm⟩
    · -- Nothing is owed when a read begins, so the sum does not saturate.
      have exact_ : min (io.c2sRateDebtBytes + n) (2 ^ 64 - 1) = n := by omega
      exact goes_goto ⟨rfl, exact_⟩ trivial
    · exact absurd lease leased

variable {len : Nat}

theorem goes_startQuota {moved : WaitingIo} (same : io.SameDebt moved) (atMost : len ≤ reserved) :
    io.Goes (moved.startQuota len) reserved reserved := by
  unfold startQuota
  split
  · exact goes_goto same atMost
  · exact goes_goto same atMost

theorem goes_pollWrite (lease : io.hasLease = true) :
    io.Goes (io.pollWrite len) 0 0 := by
  unfold pollWrite
  dsimp only
  split_ifs
  · exact goes_finish ⟨rfl, rfl⟩
  · exact goes_goto ⟨rfl, rfl⟩ rfl

theorem goes_consumeDown {granted : Nat} {blockedUser blockedCidr : Bool} {moment : Moment} :
    io.Goes (io.consumeDown len granted blockedUser blockedCidr moment) granted granted := by
  unfold consumeDown
  dsimp only
  split_ifs with some_
  · exact goes_startQuota ⟨rfl, rfl⟩ (min_le_left _ _)
  · obtain rfl : granted = 0 := Nat.eq_zero_of_not_pos some_
    exact goes_finish ⟨rfl, rfl⟩
  · obtain rfl : granted = 0 := Nat.eq_zero_of_not_pos some_
    exact goes_goto ⟨rfl, rfl⟩ rfl

theorem goes_admitWrite {limit quotaUsed rounds : Nat} (atMost : len ≤ reserved) :
    io.Goes (io.admitWrite limit quotaUsed len rounds) reserved
      (if limit - quotaUsed = 0 then 0 else reserved) := by
  unfold admitWrite
  dsimp only
  split_ifs
  · exact goes_cutOff
  · exact goes_goto ⟨rfl, rfl⟩ (Nat.zero_le _)
  · exact goes_goto ⟨rfl, rfl⟩ ⟨atMost, (min_le_right _ _).trans atMost⟩

theorem goes_endReserveRound {rounds : Nat} {moment : Moment} (atMost : len ≤ reserved) :
    io.Goes (io.endReserveRound len rounds moment) reserved
      (if quotaReserveMaxRounds ≤ rounds + 1 then 0 else reserved) := by
  unfold endReserveRound
  split_ifs
  · exact goes_finish ⟨rfl, rfl⟩
  · exact goes_goto ⟨rfl, rfl⟩ atMost

theorem goes_reserveWrite {desired spins rounds : Nat} {error : Option QuotaReserveError}
    {moment : Moment} (here : io.phase = .writeReserve len desired spins rounds)
    (fits : (WaitPhase.writeReserve len desired spins rounds).Fits io.c2sRateDebtBytes reserved) :
    io.Goes (io.reserveWrite len desired spins rounds error moment) reserved
      (if (io.givesUpAt (.reserve error moment)).isSome then 0 else reserved) := by
  have ended := @goes_endReserveRound io reserved len rounds moment fits.1
  unfold reserveWrite
  simp only [givesUpAt, here]
  cases error with
  | none =>
    have reservedNow : io.Goes (io.goto (.writeInner desired)) reserved reserved :=
      goes_goto ⟨rfl, rfl⟩ fits.2
    simpa using reservedNow
  | some error =>
    cases error with
    | limitExceeded =>
      by_cases last : quotaReserveMaxRounds ≤ rounds + 1
      · simpa [last] using ended
      · simpa [last] using ended
    | contended =>
      by_cases spin : spins + 1 < quotaReserveSpinRetries
      · have again : io.Goes (io.goto (.writeReserve len desired (spins + 1) rounds)) reserved
            reserved := goes_goto ⟨rfl, rfl⟩ fits
        simpa [spin, Nat.not_le.mpr spin] using again
      · by_cases last : quotaReserveMaxRounds ≤ rounds + 1
        · simpa [spin, Nat.not_lt.mp spin, last] using ended
        · simpa [spin, Nat.not_lt.mp spin, last] using ended

theorem goes_onWriteInner (answered : io.onWriteInner len full result = some next) :
    result.bytes ≤ len ∧ io.Goes next reserved 0 := by
  cases result with
  | pending | err =>
    cases answered
    exact ⟨Nat.zero_le _, goes_finish ⟨rfl, rfl⟩⟩
  | ok n =>
    unfold onWriteInner at answered
    dsimp only at answered
    split_ifs at answered with tooMany nothing <;> cases answered
    · exact ⟨Nat.le_of_not_lt tooMany, goes_finish ⟨rfl, rfl⟩⟩
    · exact ⟨Nat.le_of_not_lt tooMany, goes_finish ⟨rfl, rfl⟩⟩
    · exact ⟨Nat.le_of_not_lt tooMany, goes_finish ⟨rfl, rfl⟩⟩

end WaitingIo

namespace ShapedIo
variable {s t : ShapedIo}

structure Balanced (s : ShapedIo) : Prop where
  lease : s.io.hasLease = true
  up : s.ledger.upGranted + s.io.c2sRateDebtBytes = s.ledger.bytesRead
  ahead : s.io.c2sRateDebtBytes ≤ s.ledger.lastRead
  down : s.ledger.downGranted = s.ledger.downRefunded + s.ledger.bytesWritten +
    s.io.phase.held s.shaperReservedBytes
  fits : s.io.phase.Fits s.io.c2sRateDebtBytes s.shaperReservedBytes

variable {next io : WaitingIo}

theorem Balanced.goes {reserved held : Nat} {ledger : RateLedger}
    (goes : io.Goes next reserved held) (lease : io.hasLease = true)
    (up : ledger.upGranted + io.c2sRateDebtBytes = ledger.bytesRead)
    (ahead : io.c2sRateDebtBytes ≤ ledger.lastRead)
    (down : ledger.downGranted = ledger.downRefunded + ledger.bytesWritten + held) :
    Balanced { io := next, shaperReservedBytes := reserved, ledger := ledger } where
  lease := goes.lease.trans lease
  up := by
    rw [goes.debt]
    exact up
  ahead := goes.debt.le.trans ahead
  down := by
    dsimp only
    rw [goes.held]
    exact down
  fits := by
    rw [goes.debt]
    exact goes.fits

theorem Balanced.moves {held : Nat} (balanced : s.Balanced)
    (goes : s.io.Goes next s.shaperReservedBytes held)
    (same : held = s.io.phase.held s.shaperReservedBytes) : Balanced { s with io := next } :=
  .goes goes balanced.lease balanced.up balanced.ahead (same ▸ balanced.down)

theorem Balanced.onConsume (balanced : s.Balanced) {granted : Nat} {blockedUser blockedCidr : Bool}
    {moment : Moment}
    (answered : s.Answered (.call (.consume granted blockedUser blockedCidr moment)))
    (moved : s.io.step (.consume granted blockedUser blockedCidr moment) = some io) :
    Balanced { s.onConsume granted with io := io } := by
  obtain ⟨lease, up, ahead, down, fits⟩ := balanced
  obtain ⟨_, here, rfl⟩ | ⟨_, here, rfl⟩ := WaitingIo.step_consume moved
  · simp only [ShapedIo.onConsume, here] at down fits ⊢
    have atMost : granted ≤ s.io.c2sRateDebtBytes := answered _ (by rw [requested, here]; rfl)
    refine .goes (WaitingIo.goes_consumeUp fits) lease ?_ ((Nat.sub_le _ _).trans ahead) down
    show s.ledger.upGranted + granted + (s.io.c2sRateDebtBytes - granted) = s.ledger.bytesRead
    omega
  · simp only [ShapedIo.onConsume, here] at down ⊢
    exact .goes WaitingIo.goes_consumeDown lease up ahead (congrArg (· + granted) down)

theorem Balanced.onSettle (balanced : s.Balanced) {now : Instant}
    (moved : s.io.step (.settle now) = some io) : Balanced { s with io := io } := by
  have fits := balanced.fits
  obtain ⟨_, here, owed, rfl⟩ | ⟨here, rfl⟩ := WaitingIo.step_settle moved
  · rw [here] at fits
    have clear : s.io.c2sRateDebtBytes = 0 := by
      rw [not_and] at owed
      exact Nat.eq_zero_of_not_pos (owed balanced.lease)
    exact balanced.moves (WaitingIo.goes_settle balanced.lease clear fits) (by rw [here]; rfl)
  · rw [here] at fits
    refine balanced.moves (WaitingIo.goes_startQuota ⟨rfl, rfl⟩ (Nat.zero_le _)) ?_
    rw [here]
    exact fits

theorem Balanced.refund (balanced : s.Balanced) (goes : s.io.Goes next s.shaperReservedBytes 0)
    (writing : s.io.phase.held s.shaperReservedBytes = s.shaperReservedBytes) :
    Balanced { s.refund s.shaperReservedBytes with io := next } := by
  refine .goes goes balanced.lease balanced.up balanced.ahead ?_
  show s.ledger.downGranted =
    s.ledger.downRefunded + s.shaperReservedBytes + s.ledger.bytesWritten + 0
  have down := balanced.down
  omega

theorem Balanced.onLoad (balanced : s.Balanced) {quotaUsed : Nat}
    (moved : s.io.step (.load quotaUsed) = some io) :
    Balanced { s.onLoad quotaUsed with io := io } := by
  have fits := balanced.fits
  unfold ShapedIo.onLoad
  obtain ⟨limit, limited, ⟨_, here, rfl⟩ | ⟨len, rounds, here, rfl⟩⟩ :=
    WaitingIo.step_load moved
  · rw [here] at fits
    rw [here, limited]
    exact balanced.moves (WaitingIo.goes_admitRead fits) (by rw [here]; rfl)
  · rw [here] at fits
    rw [here, limited]
    have goes :=
      @WaitingIo.goes_admitWrite s.io s.shaperReservedBytes len limit quotaUsed rounds fits
    dsimp only
    split_ifs at goes ⊢
    · exact balanced.refund goes (by rw [here]; rfl)
    · exact balanced.moves goes (by rw [here]; rfl)

theorem Balanced.onReserve (balanced : s.Balanced) {error : Option QuotaReserveError}
    {moment : Moment} (moved : s.io.step (.reserve error moment) = some io) :
    Balanced { s.book (.reserve error moment) with io := io } := by
  have fits := balanced.fits
  unfold ShapedIo.book
  obtain ⟨desired, spins, rounds, here, rfl⟩ | ⟨len, desired, spins, rounds, here, rfl⟩ :=
    WaitingIo.step_reserve moved
  · rw [here] at fits
    have stays : s.io.givesUpAt (.reserve error moment) = none := by
      simp only [WaitingIo.givesUpAt, here]
    dsimp only
    rw [stays]
    exact balanced.moves (WaitingIo.goes_reserveRead fits) (by rw [here]; rfl)
  · rw [here] at fits
    have goes := @WaitingIo.goes_reserveWrite s.io s.shaperReservedBytes len desired spins rounds error
      moment here fits
    dsimp only
    split_ifs at goes ⊢
    · exact balanced.refund goes (by rw [here]; rfl)
    · exact balanced.moves goes (by rw [here]; rfl)

theorem onInner_write {len : Nat} (here : s.io.phase = .writeInner len) (result : InnerResult) :
    s.onInner result = { s with
      ledger := { s.ledger with
        downRefunded := s.ledger.downRefunded + (s.shaperReservedBytes - result.bytes)
        bytesWritten := s.ledger.bytesWritten + result.bytes } } := by
  have none_ (n : Nat) (atMost : ¬s.shaperReservedBytes > n) : s.shaperReservedBytes - n = 0 := by omega
  cases result with
  | ok n =>
    simp only [ShapedIo.onInner, here]
    split_ifs with left
    · rfl
    · rw [InnerResult.bytes, none_ n left]
      rfl
  | pending | err =>
    simp only [ShapedIo.onInner, here]
    split_ifs with left
    · rfl
    · rw [InnerResult.bytes, none_ 0 left]
      rfl

theorem Balanced.onInner (balanced : s.Balanced) {result : InnerResult} {full : Bool}
    (moved : s.io.step (.inner result full) = some io) :
    Balanced { s.onInner result with io := io } := by
  obtain ⟨lease, up, ahead, down, fits⟩ := balanced
  obtain ⟨here, moved⟩ | ⟨_, here, moved⟩ | ⟨len, here, moved⟩ := WaitingIo.step_inner moved
  · simp only [ShapedIo.onInner, here] at down ⊢
    exact .goes (WaitingIo.goes_onEmptyRead moved) lease up ahead down
  · rw [here] at fits down
    have goes := WaitingIo.goes_onReadInner lease fits moved
    have clear : s.io.c2sRateDebtBytes = 0 := fits.2
    rw [clear] at up
    cases result with
    | ok n =>
      simp only [ShapedIo.onInner, here]
      exact .goes goes lease (congrArg (· + n) up) le_rfl down
    | pending | err =>
      simp only [ShapedIo.onInner, here]
      exact .goes goes lease up (Nat.zero_le _) down
  · obtain ⟨atMost, goes⟩ :=
      @WaitingIo.goes_onWriteInner s.io io s.shaperReservedBytes result full len moved
    rw [here] at fits down
    have written : result.bytes ≤ s.shaperReservedBytes := atMost.trans fits
    rw [onInner_write here]
    refine .goes goes lease up ahead ?_
    calc s.ledger.downGranted
        = s.ledger.downRefunded + s.ledger.bytesWritten + s.shaperReservedBytes := down
      _ = s.ledger.downRefunded + (s.shaperReservedBytes - result.bytes) +
          (s.ledger.bytesWritten + result.bytes) + 0 := by omega

theorem Balanced.step {event : ShapedEvent} (balanced : s.Balanced) (answered : s.Answered event)
    (taken : s.step event = some t) : t.Balanced := by
  cases event with
  | exceed =>
    cases taken
    exact ⟨balanced.lease, balanced.up, balanced.ahead, balanced.down, balanced.fits⟩
  | call event =>
    obtain ⟨_, moved, rfl⟩ := Option.map_eq_some_iff.mp taken
    cases event with
    | tick now =>
      unfold WaitingIo.step at moved
      dsimp only at moved
      split_ifs at moved
      cases moved
      exact ⟨balanced.lease, balanced.up, balanced.ahead, balanced.down, balanced.fits⟩
    | pollRead =>
      unfold WaitingIo.step at moved
      dsimp only at moved
      split_ifs at moved with idle
      cases moved
      exact balanced.moves (WaitingIo.goes_pollRead answered) (by rw [idle]; rfl)
    | pollWrite =>
      unfold WaitingIo.step at moved
      dsimp only at moved
      split_ifs at moved with idle
      cases moved
      have down := balanced.down
      rw [idle] at down
      exact .goes (WaitingIo.goes_pollWrite balanced.lease) balanced.lease balanced.up balanced.ahead
        down
    | consume _ _ _ moment => exact balanced.onConsume answered moved
    | settle => exact balanced.onSettle moved
    | load => exact balanced.onLoad moved
    | reserve => exact balanced.onReserve moved
    | inner => exact balanced.onInner moved

def new (quotaLimit : Option Nat) (quotaExceeded : Bool) (epochStart clock : Instant) : ShapedIo :=
  { io :=
      { hasLease := true
        quotaLimit := quotaLimit
        quotaExceeded := quotaExceeded
        epochStart := epochStart
        clock := clock } }

theorem balanced_new (quotaLimit : Option Nat) (quotaExceeded : Bool) (epochStart clock : Instant) :
    (new quotaLimit quotaExceeded epochStart clock).Balanced where
  lease := rfl
  up := rfl
  ahead := le_rfl
  down := rfl
  fits := trivial

end ShapedIo

theorem rate_shaping_is_exact (quotaLimit : Option Nat) (quotaExceeded : Bool)
    (epochStart clock : Instant) (events : List ShapedEvent) (s : ShapedIo)
    (answered : Guarded ShapedIo.step ShapedIo.Answered
      (ShapedIo.new quotaLimit quotaExceeded epochStart clock) events)
    (run : runFrom ShapedIo.step (ShapedIo.new quotaLimit quotaExceeded epochStart clock) events =
      some s) :
    (s.io.phase = .idle →
        s.ledger.downGranted = s.ledger.downRefunded + s.ledger.bytesWritten) ∧
      s.ledger.upGranted + s.io.c2sRateDebtBytes = s.ledger.bytesRead ∧
      (∀ readLimit, s.io.phase = .readInner readLimit → s.io.c2sRateDebtBytes = 0) ∧
      s.ledger.bytesRead ≤ s.ledger.upGranted + s.ledger.lastRead := by
  have balanced : s.Balanced := by
    apply runFrom_invariant ShapedIo.Balanced _ answered (ShapedIo.balanced_new _ _ _ _) run
    intro s event t answered balanced moved
    exact balanced.step answered moved
  obtain ⟨_, up, ahead, down, fits⟩ := balanced
  refine ⟨?_, up, ?_, ?_⟩
  · intro idle
    rw [idle] at down
    exact down
  · intro readLimit here
    rw [here] at fits
    exact fits.2
  · rw [← up]
    exact Nat.add_le_add_left ahead _

def meteredRelay : List ShapedEvent :=
  [.call (.pollRead 10), .call (.settle 0), .call (.load 0), .call (.reserve none ⟨0, 0⟩),
    .call (.inner (.ok 4) false), .call (.consume 3 false false ⟨0, 0⟩),
    .call (.consume 0 true false ⟨0, 0⟩), .call (.pollWrite 8), .call (.consume 5 false false ⟨0, 0⟩),
    .call (.load 4), .call (.reserve none ⟨0, 0⟩), .call (.inner (.ok 2) false)]

theorem metered_relay_is_exact :
    ∃ s, runFrom ShapedIo.step (ShapedIo.new (some 100) false 0 0) meteredRelay = some s ∧
      s.io.c2sRateDebtBytes = 1 ∧ s.ledger.downGranted = s.ledger.downRefunded + s.ledger.bytesWritten ∧
      s.ledger.upGranted + s.io.c2sRateDebtBytes = s.ledger.bytesRead := by
  have reached : (runFrom ShapedIo.step (ShapedIo.new (some 100) false 0 0) meteredRelay).map
      (fun s => (s.io.phase, s.io.c2sRateDebtBytes)) = some (.idle, 1) := by decide +kernel
  obtain ⟨s, run, left⟩ := Option.map_eq_some_iff.mp reached
  obtain ⟨idle, debt⟩ := Prod.mk.inj left
  obtain ⟨down, up, _⟩ :=
    rate_shaping_is_exact (some 100) false 0 0 meteredRelay s (by decide +kernel) run
  exact ⟨s, run, debt, down idle, up⟩

end Telemt.DirectRelay
