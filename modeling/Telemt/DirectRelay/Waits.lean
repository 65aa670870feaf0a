import Telemt.Basic
import Telemt.DirectRelay.StatsIo
import Telemt.TrafficLimiter.Buckets

namespace Telemt.DirectRelay
open Foundation TrafficLimiter

/-!
# The waits of `StatsIo`

The same calls as in `StatsIo`, seen from the task that polls them: which sleeps are armed and polled
and whether the waker of the call is registered anywhere when it returns `Pending`. What the traffic
lease, the quota counter and the inner stream answer is chosen by the event, and so is the time at
which a sleep is armed and polled.
-/

def nanosPerMs : Nat := 1000000

def nextRefillDelay (epochStart now : Instant) : Duration :=
  let elapsedMs := now.durationSince epochStart / nanosPerMs
  max (fairEpochMs - elapsedMs % fairEpochMs) 1 * nanosPerMs

structure RateWaitState where
  sleep : Option Instant := none
  startedAt : Option Instant := none
  blockedUser : Bool := false
  blockedCidr : Bool := false
  deriving DecidableEq, Repr

-- When a sleep is armed, if it is not armed already, and when it is polled.
structure Moment where
  armed : Instant
  polled : Instant

namespace RateWaitState
variable (wait : RateWaitState)

def record : RateWaitState :=
  match wait.startedAt with
  | none => wait
  | some _ => { wait with startedAt := none, blockedUser := false, blockedCidr := false }

def arm (epochStart now : Instant) (blockedUser blockedCidr : Bool) : RateWaitState :=
  let armed :=
    match wait.sleep with
    | some _ => wait
    | none =>
      { wait with
        sleep := some (now + nextRefillDelay epochStart now)
        startedAt := some now }
  { armed with
    blockedUser := armed.blockedUser || blockedUser
    blockedCidr := armed.blockedCidr || blockedCidr }

-- A sleep whose deadline has not passed is pending, and only then it keeps the waker.
def isPending (now : Instant) : Bool :=
  match wait.sleep with
  | none => false
  | some deadline => decide (now < deadline)

def poll (now : Instant) : RateWaitState :=
  match wait.sleep with
  | none => wait
  | some deadline => if now < deadline then wait else { wait with sleep := none }.record

end RateWaitState

inductive AfterSettling
  | read (bufRemaining : Nat)
  | answer (n : Nat)
  deriving DecidableEq, Repr

inductive WaitPhase
  | idle
  | settling (next : AfterSettling)
  | emptyRead
  | readAdmission (bufRemaining : Nat)
  | readReserve (desired spins rounds : Nat)
  | readInner (readLimit : Nat)
  | shaping (len : Nat)
  | writeAdmission (len rounds : Nat)
  | writeReserve (len desired spins rounds : Nat)
  | writeInner (len : Nat)
  deriving DecidableEq, Repr

structure WaitingIo where
  hasLease : Bool
  quotaLimit : Option Nat
  epochStart : Instant := 0
  clock : Instant := 0
  quotaExceeded : Bool := false
  c2sRateDebtBytes : Nat := 0
  c2sWait : RateWaitState := {}
  s2cWait : RateWaitState := {}
  quotaWait : RateWaitState := {}
  phase : WaitPhase := .idle
  wakerRegistered : Bool := false
  returned : Option PollResult := none
  deriving DecidableEq, Repr

inductive WaitEvent
  | tick (now : Instant)
  | pollRead (bufRemaining : Nat)
  | pollWrite (len : Nat)
  | consume (granted : Nat) (blockedUser blockedCidr : Bool) (moment : Moment)
  | settle (now : Instant)
  | load (quotaUsed : Nat)
  | reserve (error : Option QuotaReserveError) (moment : Moment)
  | inner (result : InnerResult) (full : Bool)

namespace WaitingIo
variable (io : WaitingIo)

def goto (phase : WaitPhase) : WaitingIo :=
  { io with phase := phase, returned := none }

def finish (result : PollResult) : WaitingIo :=
  { io with phase := .idle, returned := some result }

def cutOff : WaitingIo := { io with quotaExceeded := true }.finish .quotaError

def follows (moment : Moment) : Prop :=
  io.clock ≤ moment.armed ∧ moment.armed ≤ moment.polled

instance (moment : Moment) : Decidable (io.follows moment) :=
  inferInstanceAs (Decidable (_ ∧ _))

variable (wait : RateWaitState) (now : Instant)

-- A poll of a sleep hands over the waker of the call if the sleep is pending.
def wakenBy : WaitingIo :=
  { io with clock := now, wakerRegistered := io.wakerRegistered || wait.isPending now }

def pollC2s : WaitingIo :=
  { io.wakenBy wait now with c2sWait := wait.poll now }

def pollS2c : WaitingIo :=
  { io.wakenBy wait now with s2cWait := wait.poll now }

def pollQuota : WaitingIo :=
  { io.wakenBy wait now with quotaWait := wait.poll now }

def pollRead (bufRemaining : Nat) : WaitingIo :=
  let io := { io with wakerRegistered := false }
  if io.quotaExceeded then io.finish .quotaError else io.goto (.settling (.read bufRemaining))

def settled : AfterSettling → WaitingIo
  | .read 0 => io.goto .emptyRead
  | .read bufRemaining =>
    match io.quotaLimit with
    | none => io.goto (.readInner bufRemaining)
    | some _ => io.goto (.readAdmission bufRemaining)
  | .answer n => io.finish (.ready n)

-- The debt of bytes that have been passed on already holds up the next read, not this one.
def unsettled : AfterSettling → WaitingIo
  | .read _ => io.finish .pending
  | .answer n => io.finish (.ready n)

def consumeUp (next : AfterSettling) (granted : Nat) (blockedUser blockedCidr : Bool)
    (moment : Moment) : WaitingIo :=
  if 0 < granted then
    { io with c2sRateDebtBytes := io.c2sRateDebtBytes - granted }.goto (.settling next)
  else
    let wait := io.c2sWait.arm io.epochStart moment.armed blockedUser blockedCidr
    let polled := io.pollC2s wait moment.polled
    if wait.isPending moment.polled then polled.unsettled next else polled.goto (.settling next)

def settle (next : AfterSettling) (now : Instant) : WaitingIo :=
  if !io.hasLease then { io with c2sRateDebtBytes := 0 }.settled next
  else
    let polled := io.pollC2s io.c2sWait now
    if io.c2sWait.isPending now then polled.unsettled next else polled.settled next

def admitRead (limit quotaUsed bufRemaining : Nat) : WaitingIo :=
  let readLimit := min bufRemaining (limit - quotaUsed)
  if readLimit = 0 then io.cutOff else io.goto (.readReserve readLimit 0 0)

def reserveRead (desired spins rounds : Nat) (error : Option QuotaReserveError) (moment : Moment) :
    WaitingIo :=
  match error with
  | none => io.goto (.readInner desired)
  | some .limitExceeded => io.cutOff
  | some .contended =>
    if spins + 1 < quotaReserveSpinRetries then io.goto (.readReserve desired (spins + 1) rounds)
    else if rounds + 1 < quotaReserveMaxRounds then io.goto (.readReserve desired 0 (rounds + 1))
    else
      let wait := io.quotaWait.arm io.epochStart moment.armed false false
      let polled := io.pollQuota wait moment.polled
      if wait.isPending moment.polled then polled.finish .pending
      else polled.goto (.readReserve desired 0 0)

-- `full` says that the quota counter is found at its limit.
def markFull (full : Bool) : WaitingIo :=
  { io with quotaExceeded := io.quotaExceeded || (io.quotaLimit.isSome && full) }

def onReadInner (readLimit : Nat) (full : Bool) : InnerResult → Option WaitingIo
  | .pending => some ({ io with wakerRegistered := true }.finish .pending)
  | .err => some (io.finish .ioError)
  | .ok n =>
    if readLimit < n then none
    else if n = 0 then some (io.finish (.ready 0))
    else
      let io := io.markFull full
      if io.hasLease then
        some ({ io with
          c2sRateDebtBytes := min (io.c2sRateDebtBytes + n) (2 ^ 64 - 1) }.goto
            (.settling (.answer n)))
      else some (io.finish (.ready n))

def startQuota (len : Nat) : WaitingIo :=
  match io.quotaLimit with
  | none => io.goto (.writeInner len)
  | some _ => io.goto (.writeAdmission len 0)

def pollWrite (len : Nat) : WaitingIo :=
  let io := { io with wakerRegistered := false }
  if io.quotaExceeded then io.finish .quotaError
  else if io.hasLease then io.goto (.shaping len)
  else io.startQuota len

def consumeDown (len granted : Nat) (blockedUser blockedCidr : Bool) (moment : Moment) : WaitingIo :=
  if 0 < granted then (io.pollS2c io.s2cWait moment.polled).startQuota (min granted len)
  else
    let wait := io.s2cWait.arm io.epochStart moment.armed blockedUser blockedCidr
    let polled := io.pollS2c wait moment.polled
    if wait.isPending moment.polled then polled.finish .pending else polled.goto (.shaping len)

def admitWrite (limit quotaUsed len rounds : Nat) : WaitingIo :=
  let remaining := limit - quotaUsed
  if remaining = 0 then io.cutOff
  else if len = 0 then io.goto (.writeInner 0)
  else io.goto (.writeReserve len (min remaining len) 0 rounds)

-- The answer of the sleep is ignored: the call returns `Pending` in either case.
def giveUp (moment : Moment) : WaitingIo :=
  (io.pollQuota (io.quotaWait.arm io.epochStart moment.armed false false) moment.polled).finish
    .pending

def endReserveRound (len rounds : Nat) (moment : Moment) : WaitingIo :=
  if quotaReserveMaxRounds ≤ rounds + 1 then io.giveUp moment
  else io.goto (.writeAdmission len (rounds + 1))

def reserveWrite (len desired spins rounds : Nat) (error : Option QuotaReserveError)
    (moment : Moment) : WaitingIo :=
  match error with
  | none => io.goto (.writeInner desired)
  | some .limitExceeded => io.endReserveRound len rounds moment
  | some .contended =>
    if spins + 1 < quotaReserveSpinRetries then
      io.goto (.writeReserve len desired (spins + 1) rounds)
    else io.endReserveRound len rounds moment

def onWriteInner (len : Nat) (full : Bool) : InnerResult → Option WaitingIo
  | .pending => some ({ io with wakerRegistered := true }.finish .pending)
  | .err => some (io.finish .ioError)
  | .ok n =>
    if len < n then none
    else if n = 0 then some (io.finish (.ready 0))
    else
      let recorded := if io.hasLease then io.s2cWait.record else io.s2cWait
      some (({ io with s2cWait := recorded }.markFull full).finish (.ready n))

def onEmptyRead : InnerResult → Option WaitingIo
  | .pending => some ({ io with wakerRegistered := true }.finish .pending)
  | .err => some (io.finish .ioError)
  | .ok n => if n = 0 then some (io.finish (.ready 0)) else none

def step : WaitEvent → Option WaitingIo
  | .tick now =>
    if io.clock ≤ now then some { io with clock := now, returned := none } else none
  | .pollRead bufRemaining => if io.phase = .idle then some (io.pollRead bufRemaining) else none
  | .pollWrite len => if io.phase = .idle then some (io.pollWrite len) else none
  | .consume granted blockedUser blockedCidr moment =>
    if io.follows moment ∧ io.hasLease then
      match io.phase with
      | .settling next =>
        if 0 < io.c2sRateDebtBytes then
          some (io.consumeUp next granted blockedUser blockedCidr moment)
        else none
      | .shaping len =>
        if 0 < len then some (io.consumeDown len granted blockedUser blockedCidr moment)
        else none
      | _ => none
    else none
  | .settle now =>
    if io.clock ≤ now then
      match io.phase with
      | .settling next =>
        if io.hasLease ∧ 0 < io.c2sRateDebtBytes then none else some (io.settle next now)
      | .shaping 0 => some ((io.pollS2c io.s2cWait now).startQuota 0)
      | _ => none
    else none
  | .load quotaUsed =>
    match io.phase, io.quotaLimit with
    | .readAdmission bufRemaining, some limit => some (io.admitRead limit quotaUsed bufRemaining)
    | .writeAdmission len rounds, some limit => some (io.admitWrite limit quotaUsed len rounds)
    | _, _ => none
  | .reserve error moment =>
    if io.follows moment then
      match io.phase with
      | .readReserve desired spins rounds =>
        some (io.reserveRead desired spins rounds error moment)
      | .writeReserve len desired spins rounds =>
        some (io.reserveWrite len desired spins rounds error moment)
      | _ => none
    else none
  | .inner result full =>
    match io.phase with
    | .emptyRead => io.onEmptyRead result
    | .readInner readLimit => io.onReadInner readLimit full result
    | .writeInner len => io.onWriteInner len full result
    | _ => none

variable {io next : WaitingIo}

theorem step_consume {granted : Nat} {blockedUser blockedCidr : Bool} {moment : Moment}
    (moved : io.step (.consume granted blockedUser blockedCidr moment) = some next) :
    (∃ after, io.phase = .settling after ∧
        next = io.consumeUp after granted blockedUser blockedCidr moment) ∨
      ∃ len, io.phase = .shaping len ∧
        next = io.consumeDown len granted blockedUser blockedCidr moment := by
  unfold step at moved
  dsimp only at moved
  split at moved
  · split at moved
    · rename_i after here
      split_ifs at moved
      cases moved
      exact .inl ⟨after, here, rfl⟩
    · rename_i len here
      split_ifs at moved
      cases moved
      exact .inr ⟨len, here, rfl⟩
    · cases moved
  · cases moved

theorem step_settle {now : Instant} (moved : io.step (.settle now) = some next) :
    (∃ after, io.phase = .settling after ∧ ¬(io.hasLease = true ∧ 0 < io.c2sRateDebtBytes) ∧
        next = io.settle after now) ∨
      io.phase = .shaping 0 ∧ next = (io.pollS2c io.s2cWait now).startQuota 0 := by
  unfold step at moved
  dsimp only at moved
  split at moved
  · split at moved
    · rename_i after here
      split_ifs at moved with owed
      cases moved
      exact .inl ⟨after, here, owed, rfl⟩
    · rename_i here
      cases moved
      exact .inr ⟨here, rfl⟩
    · cases moved
  · cases moved

theorem step_load {quotaUsed : Nat} (moved : io.step (.load quotaUsed) = some next) :
    ∃ limit, io.quotaLimit = some limit ∧
      ((∃ bufRemaining, io.phase = .readAdmission bufRemaining ∧
          next = io.admitRead limit quotaUsed bufRemaining) ∨
        ∃ len rounds, io.phase = .writeAdmission len rounds ∧
          next = io.admitWrite limit quotaUsed len rounds) := by
  unfold step at moved
  dsimp only at moved
  split at moved
  · rename_i bufRemaining limit here limited
    cases moved
    exact ⟨limit, limited, .inl ⟨bufRemaining, here, rfl⟩⟩
  · rename_i len rounds limit here limited
    cases moved
    exact ⟨limit, limited, .inr ⟨len, rounds, here, rfl⟩⟩
  · cases moved

theorem step_reserve {error : Option QuotaReserveError} {moment : Moment}
    (moved : io.step (.reserve error moment) = some next) :
    (∃ desired spins rounds, io.phase = .readReserve desired spins rounds ∧
        next = io.reserveRead desired spins rounds error moment) ∨
      ∃ len desired spins rounds, io.phase = .writeReserve len desired spins rounds ∧
        next = io.reserveWrite len desired spins rounds error moment := by
  unfold step at moved
  dsimp only at moved
  split_ifs at moved
  split at moved
  · rename_i desired spins rounds here
    cases moved
    exact .inl ⟨desired, spins, rounds, here, rfl⟩
  · rename_i len desired spins rounds here
    cases moved
    exact .inr ⟨len, desired, spins, rounds, here, rfl⟩
  · cases moved

theorem step_inner {result : InnerResult} {full : Bool}
    (moved : io.step (.inner result full) = some next) :
    (io.phase = .emptyRead ∧ io.onEmptyRead result = some next) ∨
      (∃ readLimit, io.phase = .readInner readLimit ∧
        io.onReadInner readLimit full result = some next) ∨
      ∃ len, io.phase = .writeInner len ∧ io.onWriteInner len full result = some next := by
  unfold step at moved
  dsimp only at moved
  split at moved
  · rename_i here
    exact .inl ⟨here, moved⟩
  · rename_i readLimit here
    exact .inr (.inl ⟨readLimit, here, moved⟩)
  · rename_i len here
    exact .inr (.inr ⟨len, here, moved⟩)
  · cases moved

end WaitingIo

end Telemt.DirectRelay
