import Telemt.DirectRelay.StatsIo
import Telemt.Foundation.Dict

namespace Telemt.QuotaState
open Foundation DirectRelay

/-!
# Per-user statistics entries and the quota state file

A `UserStats` object is shared: the map of `Stats` points to it and so do the handles that sessions
keep, which outlive the removal of the entry. An object is named by the user it was created for and
a number. Of its fields those are kept that the quota and its maintenance read.
-/

structure UserStats where
  currConnects : Nat := 0
  quotaUsed : Nat := 0
  quotaLastResetEpochSecs : Nat := 0
  lastSeenEpochSecs : Nat := 0

structure Handle where
  user : String
  object : Nat
  deriving DecidableEq, Repr

structure Stats where
  telemetryUserEnabled : Bool := true
  cachedEpochSecs : Nat := 0
  userStatsLastCleanupEpochSecs : Nat := 0
  userStats : Dict String Nat := ∅
  objects : Dict Handle UserStats := ∅
  nextObject : Nat := 0

structure QuotaUserState where
  usedBytes : Nat
  lastResetEpochSecs : Nat

def userStatsCleanupIntervalSecs : Nat := 60
def userStatsIdleTtlSecs : Nat := 24 * 60 * 60

namespace Stats
variable (stats : Stats) (handle : Handle)

def get : UserStats := (stats.objects.lookup handle).getD {}

def modify (f : UserStats → UserStats) : Stats :=
  { stats with objects := stats.objects.insert handle (f (stats.get handle)) }

variable (user : String)

def entry : Option UserStats :=
  (stats.userStats.lookup user).map fun object => stats.get ⟨user, object⟩

variable (now : Nat)

-- Every operation that may read the wall clock gets its value as `now`.
def refreshCachedEpochSecs : Stats := { stats with cachedEpochSecs := now }

def loadCachedEpochSecs : Stats :=
  if stats.cachedEpochSecs ≠ 0 then stats else stats.refreshCachedEpochSecs now

def touchUserStats (now : Nat) : Stats :=
  let stats := stats.loadCachedEpochSecs now
  stats.modify handle fun object => { object with lastSeenEpochSecs := stats.cachedEpochSecs }

def getOrCreateUserStatsHandle : Stats × Handle :=
  match stats.userStats.lookup user with
  | some object => (stats.touchUserStats ⟨user, object⟩ now, ⟨user, object⟩)
  | none =>
    let handle : Handle := ⟨user, stats.nextObject⟩
    let stats :=
      { stats with
        userStats := stats.userStats.insert user stats.nextObject
        objects := stats.objects.insert handle {}
        nextObject := stats.nextObject + 1 }
    (stats.touchUserStats handle now, handle)

def tryAcquireUserCurrConnects (limit : Option Nat) (now : Nat) : Stats × Bool :=
  if !stats.telemetryUserEnabled then (stats, true)
  else
    let (stats, handle) := stats.getOrCreateUserStatsHandle user now
    let stats := stats.touchUserStats handle now
    if limit.any fun max => (stats.get handle).currConnects ≥ max then (stats, false)
    else
      (stats.modify handle fun object => { object with currConnects := object.currConnects + 1 }, true)

def decrementUserCurrConnects : Stats :=
  match stats.userStats.lookup user with
  | none => stats
  | some object =>
    (stats.touchUserStats ⟨user, object⟩ now).modify ⟨user, object⟩ fun object =>
      { object with currConnects := object.currConnects - 1 }

-- The octet and message counters that this also raises are not part of the quota.
def addUserTrafficHandle (now : Nat) : Stats :=
  if !stats.telemetryUserEnabled then stats else stats.touchUserStats handle now

def getUserQuotaUsed : Nat :=
  ((stats.entry user).map UserStats.quotaUsed).getD 0

def loadUserQuotaState (state : QuotaUserState) (now : Nat) : Stats :=
  let (stats, handle) := stats.getOrCreateUserStatsHandle user now
  stats.modify handle fun object =>
    { object with
      quotaUsed := state.usedBytes
      quotaLastResetEpochSecs := state.lastResetEpochSecs }

def resetUserQuota : Stats :=
  let (stats, handle) := stats.getOrCreateUserStatsHandle user now
  stats.modify handle fun object => { object with quotaUsed := 0, quotaLastResetEpochSecs := now }

def userQuotaSnapshot : Dict String QuotaUserState :=
  let quotas := stats.userStats.mapWithKey fun user object =>
    let object := stats.get ⟨user, object⟩
    ⟨object.quotaUsed, object.quotaLastResetEpochSecs⟩
  quotas.retain fun _ quota => !(quota.usedBytes = 0 && quota.lastResetEpochSecs = 0)

-- One task runs the maintenance, so its compare-and-swap of the last cleanup does not fail.
def maybeCleanupUserStats : Stats :=
  let stats := stats.refreshCachedEpochSecs now
  if now - stats.userStatsLastCleanupEpochSecs < userStatsCleanupIntervalSecs then stats
  else
    { stats with
      userStatsLastCleanupEpochSecs := now
      userStats := stats.userStats.retain fun user object =>
        let object := stats.get ⟨user, object⟩
        object.currConnects > 0 || now - object.lastSeenEpochSecs ≤ userStatsIdleTtlSecs }

def loadQuotaState (file : Dict String QuotaUserState) (now : Nat) : Stats :=
  file.entries.foldl (fun stats e => stats.loadUserQuotaState e.1 e.2 now) stats

end Stats

structure Server where
  stats : Stats := {}
  handles : List Handle := []
  file : Dict String QuotaUserState := ∅

inductive Event
  | acquire (user : String) (limit : Option Nat) (now : Nat)
  | release (user : String) (now : Nat)
  | openSession (user : String) (now : Nat)
  | closeSession (handle : Handle)
  | reserve (handle : Handle) (bytes limit : Nat) (raceLost : Bool)
  | refund (handle : Handle) (bytes : Nat)
  | traffic (handle : Handle) (now : Nat)
  | setTelemetry (userEnabled : Bool)
  | cleanup (now : Nat)
  | save
  | reset (user : String) (now : Nat)
  | reload (now : Nat)
  | restart (userEnabled : Bool) (now : Nat)

namespace Server
variable (s : Server)

def saveQuotaState : Server := { s with file := s.stats.userQuotaSnapshot }

def reserve (handle : Handle) (bytes limit : Nat) (raceLost : Bool) : Server :=
  match quotaTryReserve (s.stats.get handle).quotaUsed bytes limit raceLost with
  | .error _ => s
  | .ok next =>
    { s with stats := s.stats.modify handle fun object => { object with quotaUsed := next } }

def refund (handle : Handle) (bytes : Nat) : Server :=
  { s with stats := s.stats.modify handle fun object =>
      { object with quotaUsed := refundReservedQuotaBytes object.quotaUsed bytes } }

def step : Event → Option Server
  | .acquire user limit now =>
    some { s with stats := (s.stats.tryAcquireUserCurrConnects user limit now).1 }
  | .release user now => some { s with stats := s.stats.decrementUserCurrConnects user now }
  | .openSession user now =>
    let (stats, handle) := s.stats.getOrCreateUserStatsHandle user now
    some { s with stats := stats, handles := handle :: s.handles }
  | .closeSession handle =>
    if handle ∈ s.handles then some { s with handles := s.handles.erase handle } else none
  | .reserve handle bytes limit raceLost =>
    if handle ∈ s.handles then some (s.reserve handle bytes limit raceLost) else none
  | .refund handle bytes => if handle ∈ s.handles then some (s.refund handle bytes) else none
  | .traffic handle now =>
    if handle ∈ s.handles then some { s with stats := s.stats.addUserTrafficHandle handle now }
    else none
  | .setTelemetry userEnabled =>
    some { s with stats := { s.stats with telemetryUserEnabled := userEnabled } }
  | .cleanup now => some { s with stats := s.stats.maybeCleanupUserStats now }
  | .save => some s.saveQuotaState
  | .reset user now => some { s with stats := s.stats.resetUserQuota user now }.saveQuotaState
  | .reload now => some { s with stats := s.stats.loadQuotaState s.file now }
  -- A new process: only the state file is left of the old one.
  | .restart userEnabled now =>
    let fresh : Stats := { telemetryUserEnabled := userEnabled, cachedEpochSecs := now }
    some { stats := fresh.loadQuotaState s.file now, file := s.file }

end Server

end Telemt.QuotaState
