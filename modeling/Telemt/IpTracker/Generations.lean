import Telemt.IpTracker.Operations

namespace Telemt.IpTracker
open Foundation

/-!
# Which admissions the active set stands for

A run of the tracker with the admissions that are not yet released. An admission is `current` until
its user is cleared and `cleared` from then on; a release consumes exactly one admission of the
generation its label names. The two ways to release are `remove_ip` and `enqueue_cleanup`.
-/

inductive Generation
  | current
  | cleared
  deriving DecidableEq, Repr

structure History extends Tracked where
  current : List (String × IpAddr) := []
  cleared : List (String × IpAddr) := []

def History.release (s : History) (next : Tracked) (admission : String × IpAddr) :
    Generation → Option History
  | .current =>
    if admission ∈ s.current then some ⟨next, s.current.erase admission, s.cleared⟩ else none
  | .cleared =>
    if admission ∈ s.cleared then some ⟨next, s.current, s.cleared.erase admission⟩ else none

section Runs
variable (shardIdx : String → ShardIdx)

def historyStep (s : History) (move : Operation × Generation) : Option History :=
  (s.toTracked.step shardIdx move.1).bind fun next =>
    match move.1 with
    | .checkAndAdd clock username ip =>
      if (checkAndAdd shardIdx s.tracker clock username ip).2.isOk then
        some ⟨next, (username, ip) :: s.current, s.cleared⟩
      else some ⟨next, s.current, s.cleared⟩
    | .removeIp _ username ip | .enqueueCleanup username ip => s.release next (username, ip) move.2
    | .clearUserIps username =>
      some ⟨next, s.current.filter fun admission => admission.1 ≠ username,
        (s.current.filter fun admission => admission.1 = username) ++ s.cleared⟩
    | .clearAll => some ⟨next, [], s.current ++ s.cleared⟩
    | _ => some ⟨next, s.current, s.cleared⟩

/-- No release of a cleared admission meets an address in use, and no address comes into use while a
drain holds a release of it. -/
def NotReused (s : History) (move : Operation × Generation) : Prop :=
  match move.1 with
  | .checkAndAdd _ username ip =>
    ActiveIp shardIdx s.tracker username ip ∨ s.inFlight username ip = 0
  | .removeIp _ username ip | .enqueueCleanup username ip =>
    move.2 = .cleared → ¬ActiveIp shardIdx s.tracker username ip
  | _ => True

instance (s : History) (move : Operation × Generation) : Decidable (NotReused shardIdx s move) := by
  unfold NotReused
  split <;> infer_instance

def Attached (active pending admissions : Nat) : Prop :=
  (0 < active → active = admissions + pending) ∧ (active = 0 → admissions = 0)

structure Balanced (s : Tracked) (current : List (String × IpAddr)) : Prop where
  sound : s.Sound shardIdx
  attached : ∀ username ip, Attached (activeCount shardIdx s.tracker username ip)
    (s.waiting shardIdx username ip) (current.count (username, ip))

variable {shardIdx} {t : UserIpTracker} {s s' : Tracked} {current : List (String × IpAddr)}
  {username : String} {ip : IpAddr}

theorem beq_of_apart {username' : String} {ip' : IpAddr} (apart : ¬(username' = username ∧ ip' = ip)) :
    ((username, ip) == (username', ip')) = false := by
  rw [beq_eq_false_iff_ne]
  rintro ⟨⟩
  exact apart ⟨rfl, rfl⟩

section
variable (balanced : Balanced shardIdx s current)
include balanced

theorem balanced_of_shifts {applied : String → IpAddr → Nat}
    (shifts : Tracked.Shifts shardIdx s s' applied) : Balanced shardIdx s' current := by
  refine ⟨shifts.sound, ?_⟩
  intro username ip
  have attached := balanced.attached username ip
  have active := shifts.active username ip
  have waiting := shifts.waiting username ip
  unfold Attached at attached ⊢
  omega

theorem balanced_put {current' : List (String × IpAddr)} (coherent : Coherent shardIdx t)
    (moves : ∀ username ip, Attached (activeCount shardIdx s.tracker username ip)
        (pendingCount shardIdx s.tracker username ip + s.inFlight username ip)
        (current.count (username, ip)) →
      Attached (activeCount shardIdx t username ip)
        (pendingCount shardIdx t username ip + s.inFlight username ip) (current'.count (username, ip))) :
    Balanced shardIdx { s with tracker := t } current' :=
  ⟨⟨coherent, balanced.sound.batches⟩, fun username ip => moves username ip (balanced.attached username ip)⟩

theorem balanced_of_counts (coherent : Coherent shardIdx t)
    (active : ∀ username ip, activeCount shardIdx t username ip = activeCount shardIdx s.tracker username ip)
    (pending : ∀ username ip, pendingCount shardIdx t username ip = pendingCount shardIdx s.tracker username ip) :
    Balanced shardIdx { s with tracker := t } current := by
  refine balanced_put balanced coherent fun username ip attached => ?_
  rw [active, pending]
  exact attached

theorem balanced_of_compacts {now : Instant} {window : Duration}
    (compacts : Compacts now window s.tracker t) :
    Balanced shardIdx { s with tracker := t } current :=
  balanced_of_counts balanced (compacts.coherent balanced.sound.coherent)
    (fun username ip => compacts.activeCount username ip)
    (fun username ip => compacts.pendingCount username ip)

theorem balanced_of_refused {userRecent : Dict IpAddr Instant}
    (stores : Stores s.tracker t (shardIdx username) username
      (Dict.inner (s.tracker.shards (shardIdx username)).activeIps username) userRecent) :
    Balanced shardIdx { s with tracker := t } current := by
  have coherent := balanced.sound.coherent
  refine balanced_of_counts balanced (stores.coherent coherent fun ip c =>
    coherent.activePositive _ username ip c) ?_ fun username ip => stores.pendingCount username ip
  intro username' ip
  rw [stores.activeCount]
  split_ifs with same
  · rw [same]
    rfl
  · rfl

theorem balanced_of_admitted {userRecent : Dict IpAddr Instant}
    (drained : ∀ ip', pendingCount shardIdx s.tracker username ip' = 0)
    (fresh : activeCount shardIdx s.tracker username ip = 0 → s.inFlight username ip = 0)
    (stores : Stores s.tracker t (shardIdx username) username
      ((Dict.inner (s.tracker.shards (shardIdx username)).activeIps username).insert ip
        (((Dict.inner (s.tracker.shards (shardIdx username)).activeIps username).lookup ip).getD 0 + 1))
      userRecent) :
    Balanced shardIdx { s with tracker := t } ((username, ip) :: current) := by
  have coherent := balanced.sound.coherent
  refine balanced_put balanced (stores.coherent coherent (positive_insert coherent _)) ?_
  intro username' ip' attached
  rw [activeCount_admitted stores, stores.pendingCount, List.count_cons]
  by_cases same : username' = username ∧ ip' = ip
  · obtain ⟨rfl, rfl⟩ := same
    have nothing := drained ip'
    simp only [and_self, if_true, beq_self_eq_true]
    unfold Attached at attached ⊢
    omega
  · rw [if_neg same, beq_of_apart same]
    exact attached

theorem clearUserIps_balanced (username : String) :
    Balanced shardIdx { s with tracker := clearUserIps shardIdx s.tracker username }
      (current.filter fun admission => admission.1 ≠ username) := by
  have stores := @clearUserIps_stores shardIdx s.tracker username
  refine balanced_put balanced
    (stores.coherent balanced.sound.coherent fun ip c stored => absurd stored (by simp)) ?_
  intro username' ip attached
  rw [stores.activeCount, stores.pendingCount]
  by_cases same : username' = username
  · have gone : (current.filter fun admission => admission.1 ≠ username).count (username', ip) = 0 := by
      rw [List.count_eq_zero]
      intro member
      exact of_decide_eq_true (List.mem_filter.mp member).2 same
    rw [if_pos same, gone]
    exact ⟨fun positive => absurd positive (by simp), fun _ => rfl⟩
  · rw [if_neg same, List.count_filter (by simpa using same)]
    exact attached

end

structure Releases (shardIdx : String → ShardIdx) (t t' : UserIpTracker) (username : String)
    (ip : IpAddr) (active pending : Nat) : Prop where
  coherent : Coherent shardIdx t'
  once : active + pending = 1
  active : ∀ username' ip', activeCount shardIdx t' username' ip' =
    activeCount shardIdx t username' ip' - if username' = username ∧ ip' = ip then active else 0
  pending : ∀ username' ip', pendingCount shardIdx t' username' ip' =
    pendingCount shardIdx t username' ip' + if username' = username ∧ ip' = ip then pending else 0

theorem removeIp_releases {t : UserIpTracker} (coherent : Coherent shardIdx t) (clock : Clock)
    (username : String) (ip : IpAddr) :
    Releases shardIdx t (removeIp shardIdx t clock username ip) username ip 1 0 := by
  have compacts := maybeCompactEmptyUsers_compacts t clock
  unfold removeIp
  refine ⟨?_, rfl, ?_, ?_⟩
  · rw [removeIpLocked_eq]
    exact applyDrained_coherent (compacts.coherent coherent) _ _
  · intro username' ip'
    rw [removeIpLocked_active, compacts.activeCount]
  · intro username' ip'
    rw [removeIpLocked_eq, ite_self, Nat.add_zero, ← compacts.pendingCount]
    rfl

theorem enqueueCleanup_releases {t : UserIpTracker} (coherent : Coherent shardIdx t)
    (username : String) (ip : IpAddr) :
    Releases shardIdx t (enqueueCleanup shardIdx t username ip) username ip 0 1 := by
  refine ⟨enqueueCleanup_coherent coherent username ip, rfl, ?_, enqueueCleanup_pending t username ip⟩
  intro username' ip'
  rw [ite_self, Nat.sub_zero]
  exact enqueueCleanup_active t username ip username' ip'

section
variable {active pending : Nat} (balanced : Balanced shardIdx s current)
  (releases : Releases shardIdx s.tracker t username ip active pending)
include balanced releases

theorem release_current_balanced (held : (username, ip) ∈ current) :
    Balanced shardIdx { s with tracker := t } (current.erase (username, ip)) := by
  have once := releases.once
  have positive := List.count_pos_iff.mpr held
  refine balanced_put balanced releases.coherent fun username' ip' attached => ?_
  rw [releases.active, releases.pending, List.count_erase]
  by_cases same : username' = username ∧ ip' = ip
  · obtain ⟨rfl, rfl⟩ := same
    simp only [and_self, if_true, beq_self_eq_true]
    unfold Attached at attached ⊢
    omega
  · rw [if_neg same, if_neg same, beq_of_apart same]
    exact attached

theorem release_cleared_balanced (absent : ¬ActiveIp shardIdx s.tracker username ip) :
    Balanced shardIdx { s with tracker := t } current := by
  rw [activeIp_iff balanced.sound.coherent] at absent
  refine balanced_put balanced releases.coherent fun username' ip' attached => ?_
  rw [releases.active, releases.pending]
  by_cases same : username' = username ∧ ip' = ip
  · obtain ⟨rfl, rfl⟩ := same
    unfold Attached at attached ⊢
    omega
  · rw [if_neg same, if_neg same]
    exact attached

end

section
variable {s next : History} (balanced : Balanced shardIdx s.toTracked s.current)
include balanced

theorem release_balanced {generation : Generation} {active pending : Nat}
    (releases : Releases shardIdx s.tracker t username ip active pending)
    (allowed : generation = .cleared → ¬ActiveIp shardIdx s.tracker username ip)
    (moved : s.release { s.toTracked with tracker := t } (username, ip) generation = some next) :
    Balanced shardIdx next.toTracked next.current := by
  cases generation with
  | current =>
    obtain ⟨held, ⟨⟩⟩ := Option.ite_none_right_eq_some.mp moved
    exact release_current_balanced balanced releases held
  | cleared =>
    obtain ⟨-, ⟨⟩⟩ := Option.ite_none_right_eq_some.mp moved
    exact release_cleared_balanced balanced releases (allowed rfl)

theorem checkAndAdd_balanced {clock : Clock} {generation : Generation}
    (allowed : NotReused shardIdx s (.checkAndAdd clock username ip, generation))
    (moved : historyStep shardIdx s (.checkAndAdd clock username ip, generation) = some next) :
    Balanced shardIdx next.toTracked next.current := by
  obtain ⟨t₁, t₂, _, drains, empty, compacts, outcome⟩ :=
    checkAndAdd_cases balanced.sound.coherent clock username ip
  have settled := balanced_of_shifts balanced (balanced.sound.drains drains)
  have ready := balanced_of_compacts settled compacts
  have noPending (ip' : IpAddr) : pendingCount shardIdx t₂ username ip' = 0 := by
    rw [compacts.pendingCount]
    exact empty ip'
  -- An address that the drain has taken out of use was in use only through releases in the queue.
  have fresh : activeCount shardIdx t₂ username ip = 0 → s.inFlight username ip = 0 := by
    have before := balanced.attached username ip
    have taken := drains.active username ip
    have queued := drains.pending username ip
    have same : activeCount shardIdx t₂ username ip = activeCount shardIdx t₁ username ip :=
      compacts.activeCount username ip
    simp only [NotReused, activeIp_iff balanced.sound.coherent] at allowed
    rw [empty ip] at queued
    unfold Attached Tracked.waiting at before
    omega
  simp only [historyStep, Tracked.step, Tracked.put, Option.bind_some] at moved
  generalize checkAndAdd shardIdx s.tracker clock username ip = result at outcome moved
  obtain ⟨_, _⟩ := result
  rcases outcome with ⟨message, ⟨⟩, stores⟩ | ⟨⟨⟩, _, stores⟩
  · cases moved
    exact balanced_of_refused (s := ⟨t₂, s.batches⟩) ready stores
  · cases moved
    exact balanced_of_admitted (s := ⟨t₂, s.batches⟩) ready noPending fresh stores

theorem historyStep_balanced {move : Operation × Generation} (allowed : NotReused shardIdx s move)
    (moved : historyStep shardIdx s move = some next) :
    Balanced shardIdx next.toTracked next.current := by
  obtain ⟨op, _⟩ := move
  have coherent := balanced.sound.coherent
  cases op with
  | checkAndAdd clock username ip => exact checkAndAdd_balanced balanced allowed moved
  | removeIp clock username ip =>
    exact release_balanced balanced (removeIp_releases coherent clock username ip) allowed moved
  | enqueueCleanup username ip =>
    exact release_balanced balanced (enqueueCleanup_releases coherent username ip) allowed moved
  | drainTakeUser username =>
    cases moved
    exact balanced_of_shifts balanced
      (balanced.sound.drainTake (takeCleanupForUser_takes coherent username))
  | drainTake idx picks =>
    cases moved
    exact balanced_of_shifts balanced
      (balanced.sound.drainTake (takeCleanupShard_takes coherent idx picks))
  | drainApply =>
    obtain ⟨_, applied, ⟨⟩⟩ := Option.bind_eq_some_iff.mp moved
    exact balanced_of_shifts balanced (balanced.sound.drainApply applied)
  | compact clock =>
    cases moved
    exact balanced_of_compacts balanced (maybeCompactEmptyUsers_compacts s.tracker clock)
  | clearUserIps username =>
    cases moved
    exact clearUserIps_balanced balanced username
  | clearAll =>
    cases moved
    refine ⟨⟨coherent_of_empty rfl rfl rfl, balanced.sound.batches⟩, fun username ip => ?_⟩
    exact ⟨fun positive => absurd positive (Nat.lt_irrefl 0), fun _ => rfl⟩
  | setUserLimit _ _ | removeUserLimit _ | loadLimits _ _ =>
    cases moved
    exact balanced_of_counts balanced (coherent_of_active coherent rfl rfl coherent.activePositive)
      (fun _ _ => rfl) fun _ _ => rfl

end

def History.start (mode : UserMaxUniqueIpsMode) (windowSecs defaultLimit : Nat)
    (limits : Dict String Nat) : History :=
  { tracker := (UserIpTracker.new.setLimitPolicy mode windowSecs).loadLimits defaultLimit limits }

theorem start_balanced (mode : UserMaxUniqueIpsMode) (windowSecs defaultLimit : Nat)
    (limits : Dict String Nat) :
    Balanced shardIdx (History.start mode windowSecs defaultLimit limits).toTracked [] := by
  refine ⟨⟨coherent_of_empty rfl rfl rfl, nofun⟩, ?_⟩
  intro username ip
  exact ⟨fun positive => absurd positive (Nat.lt_irrefl 0), fun _ => rfl⟩

theorem active_set_follows_current_admissions (shardIdx : String → ShardIdx)
    (mode : UserMaxUniqueIpsMode) (windowSecs defaultLimit : Nat) (limits : Dict String Nat)
    (ops : List (Operation × Generation)) (s : History)
    (guarded : Guarded (historyStep shardIdx) (NotReused shardIdx)
      (History.start mode windowSecs defaultLimit limits) ops)
    (run : runFrom (historyStep shardIdx) (History.start mode windowSecs defaultLimit limits) ops =
      some s) :
    (∀ username ip, (username, ip) ∈ s.current → ActiveIp shardIdx s.tracker username ip) ∧
    (QueueDrained s.tracker → s.batches = [] → ∀ username ip, (username, ip) ∉ s.current →
      ¬ActiveIp shardIdx s.tracker username ip) := by
  have balanced : Balanced shardIdx s.toTracked s.current :=
    runFrom_invariant (fun s => Balanced shardIdx s.toTracked s.current)
      (fun _ _ _ allowed balanced moved => historyStep_balanced balanced allowed moved)
      guarded (start_balanced mode windowSecs defaultLimit limits) run
  constructor
  · intro username ip held
    have attached := balanced.attached username ip
    have positive := List.count_pos_iff.mpr held
    rw [activeIp_iff balanced.sound.coherent]
    unfold Attached at attached
    omega
  · intro drained idle username ip released
    have attached := balanced.attached username ip
    have none := List.count_eq_zero.mpr released
    have empty : pendingCount shardIdx s.tracker username ip = 0 :=
      count_eq_zero_of_drained (drained _) (balanced.sound.coherent.pendingPositive _) username ip
    have nothing : s.inFlight username ip = 0 := by
      rw [Tracked.inFlight, idle]
      rfl
    rw [activeIp_iff balanced.sound.coherent]
    unfold Attached Tracked.waiting at attached
    omega

end Runs

def sampleIp : IpAddr := .ofOctets 10 0 0 1

def readmission : List (Operation × Generation) :=
  [(.checkAndAdd ⟨0, 0⟩ "alice" sampleIp, .current), (.clearUserIps "alice", .current),
    (.removeIp ⟨0, 0⟩ "alice" sampleIp, .cleared),
    (.checkAndAdd ⟨0, 0⟩ "alice" sampleIp, .current), (.enqueueCleanup "alice" sampleIp, .current),
    (.drainTake 0 [("alice", sampleIp)], .current), (.checkAndAdd ⟨0, 0⟩ "alice" sampleIp, .current),
    (.drainApply ⟨0, [(("alice", sampleIp), 1)]⟩, .current)]

theorem active_set_follows_readmission :
    let start := History.start .activeWindow 30 0 ∅
    ∃ s, runFrom (historyStep fun _ => 0) start readmission = some s ∧
      s.current = [("alice", sampleIp)] ∧ s.batches = [] ∧
      (∀ username ip, (username, ip) ∈ s.current → ActiveIp (fun _ => 0) s.tracker username ip) ∧
      (QueueDrained s.tracker → s.batches = [] → ∀ username ip, (username, ip) ∉ s.current →
        ¬ActiveIp (fun _ => 0) s.tracker username ip) := by
  intro start
  have guarded : Guarded (historyStep fun _ => 0) (NotReused fun _ => 0) start readmission := by
    decide
  have reached : (runFrom (historyStep fun _ => 0) start readmission).map (fun s =>
      (s.current, s.batches)) = some ([("alice", sampleIp)], []) := by decide
  obtain ⟨s, run, seen⟩ := Option.map_eq_some_iff.mp reached
  obtain ⟨current, batches⟩ := Prod.mk.inj seen
  exact ⟨s, run, current, batches,
    active_set_follows_current_admissions _ _ _ _ _ readmission s guarded run⟩

theorem cleared_release_drops_live_session :
    ∃ s, runFrom (historyStep fun _ => 0) (History.start .activeWindow 30 0 ∅)
        [(.checkAndAdd ⟨0, 0⟩ "alice" sampleIp, .current), (.clearUserIps "alice", .current),
          (.checkAndAdd ⟨0, 0⟩ "alice" sampleIp, .current),
          (.removeIp ⟨0, 0⟩ "alice" sampleIp, .cleared)] = some s ∧
      ("alice", sampleIp) ∈ s.current ∧ ¬ActiveIp (fun _ => 0) s.tracker "alice" sampleIp := by
  refine ⟨_, rfl, ?_, ?_⟩
  · decide
  · decide

end Telemt.IpTracker
