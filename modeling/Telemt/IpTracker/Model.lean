import Telemt.Basic
import Telemt.Foundation.Dict

namespace Telemt.IpTracker
open Foundation

/-!
# `UserIpTracker`

The atomics are plain numbers and `cleanupShards` holds the queues behind the cleanup mutexes; the
drain locks guard no data. Two places of the source depend on the order in which a hash map yields
its keys, `pop_one_cleanup` and the drains that call it: here the caller names the keys.

An asynchronous operation is cut where it waits for a shard's write lock. `takeCleanupForUser` and
`takeCleanupShard` run before the wait of a drain and `applyDrained` after it; `checkAndAddLocked`
and `removeIpLocked` are what `check_and_add` and `remove_ip` do under the lock. `openUser` is the
part of `check_and_add` that makes the user's entries and prunes them, so the source's branches for
an entry that is gone again under the same lock have no counterpart in `admitOpened`.
-/

def cleanupDrainBatchLimit : Nat := 1024
def maxActiveIpEntries : Nat := 131072
def maxRecentIpEntries : Nat := 262144
def userIpTrackerShards : Nat := 64

abbrev ShardIdx := Fin userIpTrackerShards

instance : NeZero userIpTrackerShards := ⟨by decide⟩

inductive UserMaxUniqueIpsMode
  | activeWindow
  | timeWindow
  | combined
  deriving DecidableEq, Repr

def UserMaxUniqueIpsMode.debug : UserMaxUniqueIpsMode → String
  | .activeWindow => "ActiveWindow"
  | .timeWindow => "TimeWindow"
  | .combined => "Combined"

abbrev IpCounts := Dict String (Dict IpAddr Nat)
abbrev IpTimes := Dict String (Dict IpAddr Instant)

structure UserIpShard where
  activeIps : IpCounts := ∅
  recentIps : IpTimes := ∅

structure LimitPolicy where
  maxIps : Dict String Nat
  defaultMaxIps : Nat
  limitMode : UserMaxUniqueIpsMode
  limitWindowSecs : Nat

structure UserIpTracker where
  shards : ShardIdx → UserIpShard := fun _ => {}
  activeEntryCount : Nat := 0
  recentEntryCount : Nat := 0
  activeCapRejects : Nat := 0
  recentCapRejects : Nat := 0
  cleanupDeferredReleases : Nat := 0
  maxIps : Dict String Nat := ∅
  defaultMaxIps : Nat := 0
  limitMode : UserMaxUniqueIpsMode := .activeWindow
  limitWindowSecs : Nat := 30
  lastCompactEpochSecs : Nat := 0
  cleanupQueueLen : Nat := 0
  cleanupShards : ShardIdx → IpCounts := fun _ => ∅

def UserIpTracker.new : UserIpTracker := {}

variable (t : UserIpTracker)

def UserIpTracker.setLimitPolicy (mode : UserMaxUniqueIpsMode) (windowSecs : Nat) : UserIpTracker :=
  { t with limitMode := mode, limitWindowSecs := max windowSecs 1 }

def UserIpTracker.loadLimits (defaultLimit : Nat) (limits : Dict String Nat) : UserIpTracker :=
  { t with defaultMaxIps := defaultLimit, maxIps := limits }

variable (username : String)

def UserIpTracker.setUserLimit (maxIps : Nat) : UserIpTracker :=
  { t with maxIps := t.maxIps.insert username maxIps }

def UserIpTracker.removeUserLimit : UserIpTracker :=
  { t with maxIps := t.maxIps.erase username }

def UserIpTracker.limitPolicy : LimitPolicy :=
  ⟨t.maxIps, t.defaultMaxIps, t.limitMode, t.limitWindowSecs⟩

def UserIpTracker.limitWindow : Duration :=
  Duration.fromSecs (max t.limitWindowSecs 1)

def UserIpTracker.userLimit : Option Nat :=
  ((t.maxIps.lookup username).filter fun limit => 0 < limit).or
    (if 0 < t.defaultMaxIps then some t.defaultMaxIps else none)

def UserIpTracker.setShard (idx : ShardIdx) (shard : UserIpShard) : UserIpTracker :=
  { t with shards := Function.update t.shards idx shard }

def UserIpTracker.setQueue (idx : ShardIdx) (queue : IpCounts) : UserIpTracker :=
  { t with cleanupShards := Function.update t.cleanupShards idx queue }

@[simp] theorem UserIpTracker.shards_setShard (idx i : ShardIdx)
    (shard : UserIpShard) : (t.setShard idx shard).shards i = if i = idx then shard else t.shards i :=
  Function.update_apply t.shards idx shard i

@[simp] theorem UserIpTracker.cleanupShards_setQueue (idx i : ShardIdx) (queue : IpCounts) :
    (t.setQueue idx queue).cleanupShards i = if i = idx then queue else t.cleanupShards i :=
  Function.update_apply t.cleanupShards idx queue i

def decrementCounter (counter amount : Nat) : Nat := counter - amount

def tryIncrementCounter (counter cap : Nat) : Option Nat :=
  if counter < cap then some (counter + 1) else none

def applyActiveCleanup (activeIps : IpCounts) (user : String) (ip : IpAddr) (pendingCount : Nat) :
    IpCounts × Nat :=
  if pendingCount = 0 then (activeIps, 0)
  else match activeIps.lookup user with
    | none => (activeIps, 0)
    | some userIps =>
      let (kept, removedActiveEntries) := match userIps.lookup ip with
        | none => (userIps, 0)
        | some count =>
          if count > pendingCount then (userIps.insert ip (count - pendingCount), 0)
          else (userIps.erase ip, 1)
      if Dict.size kept = 0 then (activeIps.erase user, removedActiveEntries)
      else (activeIps.insert user kept, removedActiveEntries)

def popOneCleanup (queue : IpCounts) (user : String) (ip : IpAddr) : Option (IpCounts × Nat) :=
  match queue.lookup user with
  | none => none
  | some userQueue => match userQueue.lookup ip with
    | none => none
    | some count =>
      let rest := userQueue.erase ip
      if Dict.size rest = 0 then some (queue.erase user, count)
      else some (queue.insert user rest, count)

def pruneRecent (userRecent : Dict IpAddr Instant) (now : Instant) (window : Duration) :
    Dict IpAddr Instant × Nat :=
  let kept := Dict.retain (fun _ seenAt => decide (now.durationSince seenAt ≤ window)) userRecent
  (kept, Dict.size userRecent - Dict.size kept)

def orDefault {υ : Type} (d : Dict String (Dict IpAddr υ)) (key : String) :
    Dict String (Dict IpAddr υ) :=
  if key ∈ d then d else d.insert key ∅

section Operations
variable (shardIdx : String → ShardIdx)

variable (t : UserIpTracker) (user : String)

def enqueueCleanup (ip : IpAddr) : UserIpTracker :=
  let idx := shardIdx user
  let userQueue := Dict.inner (t.cleanupShards idx) user
  let count := (userQueue.lookup ip).getD 0
  let t := t.setQueue idx ((t.cleanupShards idx).insert user (userQueue.insert ip (count + 1)))
  { t with
    cleanupQueueLen := if count = 0 then t.cleanupQueueLen + 1 else t.cleanupQueueLen
    cleanupDeferredReleases := t.cleanupDeferredReleases + 1 }

def applyDrained (idx : ShardIdx) (toRemove : List ((String × IpAddr) × Nat)) : UserIpTracker :=
  let (activeIps, removedActiveEntries) := toRemove.foldl (fun (acc : IpCounts × Nat) entry =>
    let (activeIps, removed) := applyActiveCleanup acc.1 entry.1.1 entry.1.2 entry.2
    (activeIps, acc.2 + removed)) ((t.shards idx).activeIps, 0)
  let t := t.setShard idx { t.shards idx with activeIps := activeIps }
  { t with activeEntryCount := decrementCounter t.activeEntryCount removedActiveEntries }

def takeCleanupForUser : UserIpTracker × List ((String × IpAddr) × Nat) :=
  if t.cleanupQueueLen = 0 then (t, [])
  else
    let idx := shardIdx user
    let toRemove := Dict.inner (t.cleanupShards idx) user
    let t := t.setQueue idx ((t.cleanupShards idx).erase user)
    ({ t with cleanupQueueLen := t.cleanupQueueLen - Dict.size toRemove },
      toRemove.entries.map fun e => ((user, e.1), e.2))

def drainCleanupForUser : UserIpTracker :=
  let (t, toRemove) := takeCleanupForUser shardIdx t user
  if toRemove = [] then t else applyDrained t (shardIdx user) toRemove

def takeCleanupShard (idx : ShardIdx) (picks : List (String × IpAddr)) :
    UserIpTracker × List ((String × IpAddr) × Nat) :=
  (picks.take cleanupDrainBatchLimit).foldl (fun acc pick =>
    match popOneCleanup (acc.1.cleanupShards idx) pick.1 pick.2 with
    | none => acc
    | some (queue, count) =>
      let t := acc.1.setQueue idx queue
      ({ t with cleanupQueueLen := t.cleanupQueueLen - 1 }, acc.2 ++ [(pick, count)])) (t, [])

def compactIntervalSecs : Nat := 60

def compactShard (now : Instant) (window : Duration) (idx : ShardIdx) : UserIpTracker :=
  let shard := t.shards idx
  let pruned := Dict.mapValues (fun userRecent => pruneRecent userRecent now window)
    shard.recentIps
  let prunedRecentEntries := (pruned.entries.map fun e => e.2.2).sum
  let recentIps := Dict.mapValues Prod.fst pruned
  let users := shard.activeIps.keys ++ recentIps.keys.filter fun user => user ∉ shard.activeIps
  let swept := users.foldl (fun (acc : UserIpShard) user =>
    if Dict.size (Dict.inner acc.activeIps user) = 0 ∧
        Dict.size (Dict.inner acc.recentIps user) = 0 then
      { activeIps := acc.activeIps.erase user, recentIps := acc.recentIps.erase user }
    else acc) { shard with recentIps := recentIps }
  let t := t.setShard idx swept
  { t with recentEntryCount := decrementCounter t.recentEntryCount prunedRecentEntries }

def compactionDue (epochSecs : Nat) : Bool :=
  compactIntervalSecs ≤ epochSecs - t.lastCompactEpochSecs

def maybeCompactEmptyUsers (clock : Clock) : UserIpTracker :=
  if compactionDue t clock.epochSecs then
    let t := { t with lastCompactEpochSecs := clock.epochSecs }
    (List.finRange userIpTrackerShards).foldl
      (fun acc idx => compactShard acc clock.now t.limitWindow idx) t
  else t

variable (username : String)

def openUser (window : Duration) (now : Instant) : UserIpTracker :=
  let idx := shardIdx username
  let shard := t.shards idx
  let recentIps := orDefault shard.recentIps username
  let (userRecent, prunedRecentEntries) := pruneRecent (Dict.inner recentIps username) now window
  let t := t.setShard idx
    { activeIps := orDefault shard.activeIps username
      recentIps := recentIps.insert username userRecent }
  { t with recentEntryCount := decrementCounter t.recentEntryCount prunedRecentEntries }

variable (ip : IpAddr)

def recordIp (count : Nat) (now : Instant) : UserIpTracker :=
  let idx := shardIdx username
  let shard := t.shards idx
  t.setShard idx
    { activeIps := shard.activeIps.insert username
        ((Dict.inner shard.activeIps username).insert ip count)
      recentIps := shard.recentIps.insert username
        ((Dict.inner shard.recentIps username).insert ip now) }

variable (limit : Option Nat) (mode : UserMaxUniqueIpsMode)

def limitDenies (activeLen recentLen : Nat) (isNewIp : Bool) : Bool :=
  match limit with
  | none => false
  | some limit =>
    let activeLimitReached := decide (activeLen ≥ limit)
    let recentLimitReached := decide (recentLen ≥ limit) && isNewIp
    match mode with
    | .activeWindow => activeLimitReached
    | .timeWindow => recentLimitReached
    | .combined => activeLimitReached || recentLimitReached

def recentCapReached : UserIpTracker × Except String Unit :=
  ({ t with recentCapRejects := t.recentCapRejects + 1 },
    .error s!"IP tracker recent entry cap reached: entries={t.recentEntryCount}/{maxRecentIpEntries}")

def admitOpened (now : Instant) : UserIpTracker × Except String Unit :=
  let userActive := Dict.inner (t.shards (shardIdx username)).activeIps username
  let userRecent := Dict.inner (t.shards (shardIdx username)).recentIps username
  let activeLen := Dict.size userActive
  let recentLen := Dict.size userRecent
  if ip ∈ userActive then
    -- An address with a live session is admitted without looking at any limit.
    let count := (userActive.lookup ip).getD 0
    if ip ∈ userRecent then (recordIp shardIdx t username ip (count + 1) now, .ok ())
    else match tryIncrementCounter t.recentEntryCount maxRecentIpEntries with
      | none => recentCapReached t
      | some recentEntryCount =>
        (recordIp shardIdx { t with recentEntryCount := recentEntryCount } username ip (count + 1)
          now, .ok ())
  else
    let isNewIp := !decide (ip ∈ userRecent)
    if limitDenies limit mode activeLen recentLen isNewIp then
      let limit := limit.getD 0
      (t, .error s!"IP limit reached for user '{username}': active={activeLen}/{limit} recent={recentLen}/{limit} mode={mode.debug}")
    else match tryIncrementCounter t.activeEntryCount maxActiveIpEntries with
      | none =>
        ({ t with activeCapRejects := t.activeCapRejects + 1 },
          .error s!"IP tracker active entry cap reached: entries={t.activeEntryCount}/{maxActiveIpEntries}")
      | some activeEntryCount =>
        let t := { t with activeEntryCount := activeEntryCount }
        if isNewIp then
          match tryIncrementCounter t.recentEntryCount maxRecentIpEntries with
          | none => recentCapReached
              { t with activeEntryCount := decrementCounter activeEntryCount 1 }
          | some recentEntryCount =>
            (recordIp shardIdx { t with recentEntryCount := recentEntryCount } username ip 1 now,
              .ok ())
        else (recordIp shardIdx t username ip 1 now, .ok ())

def checkAndAddLocked (window : Duration) (now : Instant) : UserIpTracker × Except String Unit :=
  admitOpened shardIdx (openUser shardIdx t username window now) username ip limit mode now

def checkAndAdd (clock : Clock) (username : String) (ip : IpAddr) :
    UserIpTracker × Except String Unit :=
  let t := drainCleanupForUser shardIdx t username
  let t := maybeCompactEmptyUsers t clock
  checkAndAddLocked shardIdx t username ip (t.userLimit username) t.limitMode t.limitWindow
    clock.now

def removeIpLocked : UserIpTracker :=
  let idx := shardIdx username
  let shard := t.shards idx
  match shard.activeIps.lookup username with
  | none => t
  | some userIps =>
    let (kept, removedActiveEntries) := match userIps.lookup ip with
      | none => (userIps, 0)
      | some count =>
        if count > 1 then (userIps.insert ip (count - 1), 0) else (userIps.erase ip, 1)
    let activeIps :=
      if Dict.size kept = 0 then shard.activeIps.erase username
      else shard.activeIps.insert username kept
    let t := t.setShard idx { shard with activeIps := activeIps }
    { t with activeEntryCount := decrementCounter t.activeEntryCount removedActiveEntries }

def removeIp (clock : Clock) (username : String) (ip : IpAddr) : UserIpTracker :=
  removeIpLocked shardIdx (maybeCompactEmptyUsers t clock) username ip

def clearUserIps : UserIpTracker :=
  let idx := shardIdx username
  let shard := t.shards idx
  let removedActiveEntries := Dict.size (Dict.inner shard.activeIps username)
  let removedRecentEntries := Dict.size (Dict.inner shard.recentIps username)
  let t := t.setShard idx
    { activeIps := shard.activeIps.erase username, recentIps := shard.recentIps.erase username }
  { t with
    activeEntryCount := decrementCounter t.activeEntryCount removedActiveEntries
    recentEntryCount := decrementCounter t.recentEntryCount removedRecentEntries }

end Operations

def clearAll (t : UserIpTracker) : UserIpTracker :=
  { t with
    shards := fun _ => {}
    activeEntryCount := 0
    recentEntryCount := 0
    cleanupShards := fun _ => ∅
    cleanupQueueLen := 0 }

end Telemt.IpTracker
