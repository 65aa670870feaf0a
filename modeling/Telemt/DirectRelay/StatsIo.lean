import Telemt.Foundation.Ledger
import Telemt.Foundation.Run

namespace Telemt.DirectRelay
open Foundation

/-!
# `StatsIo`

The quota side of the direct relay. All sessions of a user share the counter `quota_used`, and every
`poll_read` and `poll_write` is cut at its accesses to that counter and at its call of the inner
stream, so that the calls of different sessions interleave there. What the other parts of a call
decide is chosen by the action: whether the rate debt is settled, how much the traffic lease grants,
whether the compare-and-swap loses a race and whether the armed quota wait is over.
-/

def quotaNearLimitBytes : Nat := 64 * 1024
def quotaLargeChargeBytes : Nat := 16 * 1024
def quotaAdaptiveIntervalMinBytes : Nat := 4 * 1024
def quotaAdaptiveIntervalMaxBytes : Nat := 64 * 1024
def quotaReserveSpinRetries : Nat := 64
def quotaReserveMaxRounds : Nat := 8

def quotaAdaptiveIntervalBytes (remainingBefore : Nat) : Nat :=
  max quotaAdaptiveIntervalMinBytes (min (remainingBefore / 2) quotaAdaptiveIntervalMaxBytes)

def shouldImmediateQuotaCheck (remainingBefore chargeBytes : Nat) : Bool :=
  remainingBefore ≤ quotaNearLimitBytes || chargeBytes ≥ quotaLargeChargeBytes

inductive QuotaReserveError
  | limitExceeded
  | contended
  deriving DecidableEq, Repr

-- The sum stays below the limit or is the counter itself, so the saturation of the source is idle.
def quotaTryReserve (quotaUsed bytes limit : Nat) (raceLost : Bool) : Except QuotaReserveError Nat :=
  if bytes > limit - quotaUsed then .error .limitExceeded
  else if raceLost then .error .contended
  else .ok (quotaUsed + bytes)

def refundReservedQuotaBytes (quotaUsed reservedBytes : Nat) : Nat := quotaUsed - reservedBytes

inductive PollResult
  | pending
  | ready (n : Nat)
  | ioError
  | quotaError
  deriving DecidableEq, Repr

inductive InnerResult
  | pending
  | ok (n : Nat)
  | err
  deriving DecidableEq, Repr

inductive Direction
  | read
  | write
  deriving DecidableEq, Repr

-- Where a call stands. Only a read with room in its buffer asks for admission, and `inner` offers
-- the inner stream exactly the `reserved` bytes.
inductive Phase
  | idle
  | emptyRead
  | readAdmission (bufRemaining : Nat) (room : 0 < bufRemaining)
  | readReserve (remaining desired spins rounds : Nat)
  | writeAdmission (len rounds : Nat)
  | writeReserve (len remaining desired spins rounds : Nat)
  | inner (direction : Direction) (remaining reserved : Nat)
  | settle (direction : Direction) (remaining unused : Nat) (result : InnerResult)
  | check (n : Nat)
  deriving DecidableEq, Repr

structure StatsIo where
  quotaExceeded : Bool := false
  quotaBytesSinceCheck : Nat := 0
  phase : Phase := .idle

inductive Action
  | pollRead (bufRemaining : Nat) (debtSettled : Bool)
  | pollWrite (len : Nat) (granted : Option Nat)
  | load
  | reserve (raceLost waitOver : Bool)
  | inner (result : InnerResult)
  | refund

structure Effect where
  quotaUsed : Nat
  session : StatsIo
  returned : Option PollResult := none

namespace StatsIo
variable (io : StatsIo) (quotaUsed : Nat)

def goto (phase : Phase) : Effect :=
  { quotaUsed := quotaUsed, session := { io with phase := phase } }

def finish (result : PollResult) : Effect :=
  { quotaUsed := quotaUsed, session := { io with phase := .idle }, returned := some result }

def cutOff : Effect :=
  { io with quotaExceeded := true }.finish quotaUsed .quotaError

def pollRead (quotaUsed bufRemaining : Nat) (debtSettled : Bool) : Effect :=
  if io.quotaExceeded then io.finish quotaUsed .quotaError
  else if !debtSettled then io.finish quotaUsed .pending
  else if room : 0 < bufRemaining then io.goto quotaUsed (.readAdmission bufRemaining room)
  else io.goto quotaUsed .emptyRead

def admitRead (limit quotaUsed bufRemaining : Nat) : Effect :=
  let remaining := limit - quotaUsed
  if remaining = 0 then io.cutOff quotaUsed
  else
    let readLimit := min bufRemaining remaining
    if readLimit = 0 then io.cutOff quotaUsed
    else io.goto quotaUsed (.readReserve remaining readLimit 0 0)

def reserveRead (limit quotaUsed remaining desired spins rounds : Nat) (raceLost waitOver : Bool) :
    Effect :=
  match quotaTryReserve quotaUsed desired limit raceLost with
  | .ok next => io.goto next (.inner .read remaining desired)
  | .error .limitExceeded => io.cutOff quotaUsed
  | .error .contended =>
    if spins + 1 < quotaReserveSpinRetries then
      io.goto quotaUsed (.readReserve remaining desired (spins + 1) rounds)
    else if rounds + 1 < quotaReserveMaxRounds then
      io.goto quotaUsed (.readReserve remaining desired 0 (rounds + 1))
    else if waitOver then io.goto quotaUsed (.readReserve remaining desired 0 0)
    else io.finish quotaUsed .pending

def pollWrite (quotaUsed len : Nat) (granted : Option Nat) : Option Effect :=
  if io.quotaExceeded then some (io.finish quotaUsed .quotaError)
  else
    match granted with
    | none => if 0 < len then some (io.finish quotaUsed .pending) else none
    | some granted =>
      if granted ≤ len ∧ (0 < len → 0 < granted) then
        some (io.goto quotaUsed (.writeAdmission granted 0))
      else none

def admitWrite (limit quotaUsed len rounds : Nat) : Effect :=
  let remaining := limit - quotaUsed
  if remaining = 0 then io.cutOff quotaUsed
  else if len = 0 then io.goto quotaUsed (.inner .write remaining 0)
  else io.goto quotaUsed (.writeReserve len remaining (min remaining len) 0 rounds)

def endReserveRound (quotaUsed len rounds : Nat) : Effect :=
  if rounds + 1 ≥ quotaReserveMaxRounds then io.finish quotaUsed .pending
  else io.goto quotaUsed (.writeAdmission len (rounds + 1))

def reserveWrite (limit quotaUsed len remaining desired spins rounds : Nat) (raceLost : Bool) :
    Effect :=
  match quotaTryReserve quotaUsed desired limit raceLost with
  | .ok next => io.goto next (.inner .write remaining desired)
  | .error .limitExceeded => io.endReserveRound quotaUsed len rounds
  | .error .contended =>
    if spins + 1 < quotaReserveSpinRetries then
      io.goto quotaUsed (.writeReserve len remaining desired (spins + 1) rounds)
    else io.endReserveRound quotaUsed len rounds

-- A stream reports at most what it was offered.
def onInner (quotaUsed : Nat) (direction : Direction) (remaining reserved : Nat) :
    InnerResult → Option Effect
  | .ok n =>
    if n ≤ reserved then
      some (io.goto quotaUsed (.settle direction remaining (reserved - n) (.ok n)))
    else none
  | result => some (io.goto quotaUsed (.settle direction remaining reserved result))

def onEmptyRead (quotaUsed : Nat) : InnerResult → Option Effect
  | .ok n => if n = 0 then some (io.finish quotaUsed (.ready 0)) else none
  | .pending => some (io.finish quotaUsed .pending)
  | .err => some (io.finish quotaUsed .ioError)

-- The bytes counted since the last check, and whether a write looks at the counter now.
def noteCharge (sinceCheck remaining n : Nat) : Nat × Bool :=
  if shouldImmediateQuotaCheck remaining n then (0, true)
  else
    let sinceCheck := min (sinceCheck + n) (2 ^ 64 - 1)
    if sinceCheck ≥ quotaAdaptiveIntervalBytes remaining then (0, true) else (sinceCheck, false)

def afterRefund (quotaUsed : Nat) (direction : Direction) (remaining : Nat) : InnerResult → Effect
  | .pending => io.finish quotaUsed .pending
  | .err => io.finish quotaUsed .ioError
  | .ok n =>
    if n = 0 then io.finish quotaUsed (.ready 0)
    else
      let (sinceCheck, due) := noteCharge io.quotaBytesSinceCheck remaining n
      let io := { io with quotaBytesSinceCheck := sinceCheck }
      -- A read looks at the counter in every case, a write only when the check is due.
      match direction with
      | .read => io.goto quotaUsed (.check n)
      | .write => if due then io.goto quotaUsed (.check n) else io.finish quotaUsed (.ready n)

def checkQuota (limit quotaUsed n : Nat) : Effect :=
  if quotaUsed ≥ limit then { io with quotaExceeded := true }.finish quotaUsed (.ready n)
  else io.finish quotaUsed (.ready n)

def step (limit quotaUsed : Nat) (io : StatsIo) (action : Action) : Option Effect :=
  match io.phase, action with
  | .idle, .pollRead bufRemaining debtSettled =>
    some (io.pollRead quotaUsed bufRemaining debtSettled)
  | .idle, .pollWrite len granted => io.pollWrite quotaUsed len granted
  | .emptyRead, .inner result => io.onEmptyRead quotaUsed result
  | .readAdmission bufRemaining _, .load => some (io.admitRead limit quotaUsed bufRemaining)
  | .readReserve remaining desired spins rounds, .reserve raceLost waitOver =>
    some (io.reserveRead limit quotaUsed remaining desired spins rounds raceLost waitOver)
  | .writeAdmission len rounds, .load => some (io.admitWrite limit quotaUsed len rounds)
  | .writeReserve len remaining desired spins rounds, .reserve raceLost _ =>
    some (io.reserveWrite limit quotaUsed len remaining desired spins rounds raceLost)
  | .inner direction remaining reserved, .inner result =>
    io.onInner quotaUsed direction remaining reserved result
  | .settle direction remaining unused result, .refund =>
    some (io.afterRefund (refundReservedQuotaBytes quotaUsed unused) direction remaining result)
  | .check n, .load => some (io.checkQuota limit quotaUsed n)
  | _, _ => none

def held : Nat :=
  match io.phase with
  | .inner _ _ reserved => reserved
  | .settle _ _ unused _ => unused
  | _ => 0

end StatsIo

structure UserTraffic where
  quotaUsed : Nat := 0
  sessions : List StatsIo := []

inductive Event
  | open
  | act (session : Nat) (action : Action)

def Action.reported : Action → Nat
  | .inner (.ok n) => n
  | _ => 0

def Event.reported : Event → Nat
  | .open => 0
  | .act _ action => action.reported

def transferred (events : List Event) : Nat := (events.map Event.reported).sum

namespace UserTraffic
variable (s : UserTraffic)

def apply (i : Nat) (effect : Effect) : UserTraffic :=
  { quotaUsed := effect.quotaUsed
    sessions := s.sessions.set i effect.session }

def effectOf (limit : Nat) (s : UserTraffic) (i : Nat) (action : Action) : Option Effect :=
  s.sessions[i]?.bind fun io => io.step limit s.quotaUsed action

def step (limit : Nat) (s : UserTraffic) : Event → Option UserTraffic
  | .open => some { s with sessions := s.sessions ++ [{}] }
  | .act i action => (s.effectOf limit i action).map (s.apply i)

def outstanding : Nat := Foundation.outstanding StatsIo.held s.sessions

def NoCallInProgress : Prop := ∀ io ∈ s.sessions, io.phase = .idle

instance : Decidable s.NoCallInProgress :=
  inferInstanceAs (Decidable (∀ io ∈ s.sessions, io.phase = .idle))

end UserTraffic

end Telemt.DirectRelay
