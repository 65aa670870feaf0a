import Telemt.Foundation.Run
import Telemt.IpTracker.Effects

namespace Telemt.IpTracker
open Foundation

/-!
# Operations of the tracker

A drain takes a batch of queued releases, waits for the lock of their shard and then applies them, so
other operations come between the two. Every other operation is one step.
-/

structure Batch where
  idx : ShardIdx
  toRemove : List ((String × IpAddr) × Nat)
  deriving DecidableEq

structure Tracked where
  tracker : UserIpTracker
  batches : List Batch := []

inductive Operation
  | checkAndAdd (clock : Clock) (username : String) (ip : IpAddr)
  | removeIp (clock : Clock) (username : String) (ip : IpAddr)
  | enqueueCleanup (username : String) (ip : IpAddr)
  | drainTakeUser (username : String)
  | drainTake (idx : ShardIdx) (picks : List (String × IpAddr))
  | drainApply (batch : Batch)
  | compact (clock : Clock)
  | clearUserIps (username : String)
  | clearAll
  | setUserLimit (username : String) (maxIps : Nat)
  | removeUserLimit (username : String)
  | loadLimits (defaultLimit : Nat) (limits : Dict String Nat)

namespace Tracked
variable (shardIdx : String → ShardIdx) (s : Tracked)

def put (t : UserIpTracker) : Option Tracked := some { s with tracker := t }

def drainTake (idx : ShardIdx) (taken : UserIpTracker × List ((String × IpAddr) × Nat)) : Tracked :=
  ⟨taken.1, if taken.2 = [] then s.batches else ⟨idx, taken.2⟩ :: s.batches⟩

def drainApply (batch : Batch) : Option Tracked :=
  if batch ∈ s.batches then
    some ⟨applyDrained s.tracker batch.idx batch.toRemove, s.batches.erase batch⟩
  else none

def step : Operation → Option Tracked
  | .checkAndAdd clock username ip => s.put (checkAndAdd shardIdx s.tracker clock username ip).1
  | .removeIp clock username ip => s.put (removeIp shardIdx s.tracker clock username ip)
  | .enqueueCleanup username ip => s.put (enqueueCleanup shardIdx s.tracker username ip)
  | .drainTakeUser username =>
    some (s.drainTake (shardIdx username) (takeCleanupForUser shardIdx s.tracker username))
  | .drainTake idx picks => some (s.drainTake idx (takeCleanupShard s.tracker idx picks))
  | .drainApply batch => s.drainApply batch
  | .compact clock => s.put (maybeCompactEmptyUsers s.tracker clock)
  | .clearUserIps username => s.put (clearUserIps shardIdx s.tracker username)
  | .clearAll => s.put (clearAll s.tracker)
  | .setUserLimit username maxIps => s.put (s.tracker.setUserLimit username maxIps)
  | .removeUserLimit username => s.put (s.tracker.removeUserLimit username)
  | .loadLimits defaultLimit limits => s.put (s.tracker.loadLimits defaultLimit limits)

def inFlight (user : String) (ip : IpAddr) : Nat :=
  (s.batches.map fun batch => drainedCount batch.toRemove user ip).sum

/-- The releases of an address that are queued or held by a drain. -/
def waiting (user : String) (ip : IpAddr) : Nat :=
  pendingCount shardIdx s.tracker user ip + s.inFlight user ip

theorem waiting_put (t : UserIpTracker) (user : String) (ip : IpAddr) :
    ({ s with tracker := t } : Tracked).waiting shardIdx user ip =
      pendingCount shardIdx t user ip + s.inFlight user ip := rfl

structure Sound : Prop where
  coherent : Coherent shardIdx s.tracker
  batches : ∀ batch ∈ s.batches, Belongs shardIdx batch.idx batch.toRemove

/-- A step of a drain, in which the `applied` releases reach the active counts. -/
structure Shifts (s s' : Tracked) (applied : String → IpAddr → Nat) : Prop where
  sound : s'.Sound shardIdx
  active : ∀ user ip, activeCount shardIdx s'.tracker user ip =
    activeCount shardIdx s.tracker user ip - applied user ip
  waiting : ∀ user ip, s.waiting shardIdx user ip = s'.waiting shardIdx user ip + applied user ip
  recent : ∀ idx, (s'.tracker.shards idx).recentIps = (s.tracker.shards idx).recentIps
  limitPolicy : s'.tracker.limitPolicy = s.tracker.limitPolicy

variable {shardIdx s} {s' : Tracked} (sound : s.Sound shardIdx)
include sound

theorem Sound.drainTake {idx : ShardIdx} {taken : UserIpTracker × List ((String × IpAddr) × Nat)}
    (takes : Takes shardIdx s.tracker taken.1 idx taken.2) :
    Shifts shardIdx s (s.drainTake idx taken) fun _ _ => 0 := by
  refine ⟨⟨takes.coherent, ?_⟩, takes.active, ?_, fun idx => by rw [← takes.shards]; rfl,
    takes.limitPolicy⟩
  · unfold Tracked.drainTake
    split_ifs
    · exact sound.batches
    · exact List.forall_mem_cons.mpr ⟨takes.belongs, sound.batches⟩
  · intro user ip
    have pending := takes.pending user ip
    unfold Tracked.waiting inFlight Tracked.drainTake
    split_ifs with nothing
    · rw [nothing] at pending
      rw [pending]
      rfl
    · simp only [List.map_cons, List.sum_cons]
      omega

theorem Sound.drainApply {batch : Batch} (applied : s.drainApply batch = some s') :
    Shifts shardIdx s s' (drainedCount batch.toRemove) := by
  unfold Tracked.drainApply at applied
  split_ifs at applied with present
  cases applied
  refine ⟨⟨applyDrained_coherent sound.coherent _ _, ?_⟩,
    applyDrained_active s.tracker (sound.batches batch present), ?_,
    applyDrained_recent s.tracker batch.idx batch.toRemove, rfl⟩
  · intro other member
    exact sound.batches other (List.mem_of_mem_erase member)
  · intro user ip
    have split := List.sum_map_erase (fun batch : Batch => drainedCount batch.toRemove user ip) present
    have pending : pendingCount shardIdx (applyDrained s.tracker batch.idx batch.toRemove) user ip =
        pendingCount shardIdx s.tracker user ip := rfl
    simp only [Tracked.waiting, inFlight]
    omega

theorem Sound.drains {t : UserIpTracker} {drained : String → IpAddr → Nat}
    (drains : Drains shardIdx s.tracker t drained) : Shifts shardIdx s { s with tracker := t } drained := by
  refine ⟨⟨drains.coherent, sound.batches⟩, drains.active, ?_, drains.recent, drains.limitPolicy⟩
  intro user ip
  rw [waiting_put, Tracked.waiting, drains.pending]
  exact Nat.add_right_comm _ _ _

end Tracked

end Telemt.IpTracker
