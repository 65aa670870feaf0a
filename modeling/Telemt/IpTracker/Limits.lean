import Telemt.IpTracker.Operations

namespace Telemt.IpTracker
open Foundation

/-! # The unique-IP limit along a run -/

def Operation.readsClock : Operation → Option Instant
  | .checkAndAdd clock _ _ | .removeIp clock _ _ | .compact clock => some clock.now
  | _ => none

structure Timed extends Tracked where
  now : Instant

section Runs
variable (shardIdx : String → ShardIdx) (t : UserIpTracker)

def timedStep (s : Timed) (op : Operation) : Option Timed :=
  let now := op.readsClock.getD s.now
  if s.now ≤ now then (s.toTracked.step shardIdx op).map (Timed.mk · now) else none

variable (user : String)

def activeOf : Dict IpAddr Nat :=
  Dict.inner (t.shards (shardIdx user)).activeIps user

def recentOf : Dict IpAddr Instant :=
  Dict.inner (t.shards (shardIdx user)).recentIps user

def inWindow (now : Instant) : Dict IpAddr Instant :=
  (pruneRecent (recentOf shardIdx t user) now t.limitWindow).1

variable (limit : Nat)

def KeepsLimit (s : Timed) (op : Operation) : Prop :=
  ∀ next ∈ s.toTracked.step shardIdx op, next.tracker.userLimit user = some limit

-- The address is still active once the releases queued for the user are applied, its own last use
-- has left the window, and the window is full.
def StaleReentry (s : Timed) : Operation → Prop
  | .checkAndAdd clock username ip =>
    username = user ∧ pendingCount shardIdx s.tracker user ip < activeCount shardIdx s.tracker user ip ∧
      ip ∉ inWindow shardIdx s.tracker user clock.now ∧
      limit ≤ Dict.size (inWindow shardIdx s.tracker user clock.now)
  | _ => False

instance (s : Timed) (op : Operation) : Decidable (KeepsLimit shardIdx user limit s op) :=
  inferInstanceAs (Decidable (∀ next ∈ s.toTracked.step shardIdx op, _ = some limit))

instance (s : Timed) (op : Operation) : Decidable (StaleReentry shardIdx user limit s op) := by
  unfold StaleReentry
  split <;> infer_instance

theorem pruneRecent_size_le (userRecent : Dict IpAddr Instant) {now later : Instant}
    (window : Duration) (order : now ≤ later) :
    Dict.size (pruneRecent userRecent later window).1 ≤
      Dict.size (pruneRecent userRecent now window).1 := by
  apply Dict.size_le_of_subset
  intro ip
  simp only [pruneRecent, Dict.mem_iff_lookup, Dict.lookup_retain, Option.filter_eq_some_iff]
  rintro ⟨seenAt, found, fresh⟩
  refine ⟨seenAt, found, ?_⟩
  rw [decide_eq_true_eq] at fresh ⊢
  exact (Instant.durationSince_mono order seenAt).trans fresh

structure Ages (t t' : UserIpTracker) (now : Instant) (user : String) : Prop where
  coherent : Coherent shardIdx t'
  active : ∀ ip, activeCount shardIdx t' user ip ≤ activeCount shardIdx t user ip
  recent : recentOf shardIdx t' user = recentOf shardIdx t user ∨
    recentOf shardIdx t' user = (pruneRecent (recentOf shardIdx t user) now t.limitWindow).1 ∨
    recentOf shardIdx t' user = ∅
  limitMode : t'.limitMode = t.limitMode
  limitWindow : t'.limitWindow = t.limitWindow

variable {shardIdx} {t t' : UserIpTracker} {user : String} {now later : Instant}

theorem Ages.activeSize (ages : Ages shardIdx t t' now user) (coherent : Coherent shardIdx t) :
    Dict.size (activeOf shardIdx t' user) ≤ Dict.size (activeOf shardIdx t user) := by
  apply Dict.size_le_of_subset
  intro ip member
  have after := (activeIp_iff ages.coherent user ip).mp member
  have before := ages.active ip
  exact (activeIp_iff coherent user ip).mpr (by omega)

theorem Ages.windowSize (ages : Ages shardIdx t t' later user) (order : now ≤ later) :
    Dict.size (inWindow shardIdx t' user later) ≤ Dict.size (inWindow shardIdx t user now) := by
  have shrinks := pruneRecent_size_le (recentOf shardIdx t user) t.limitWindow order
  unfold inWindow
  rw [ages.limitWindow]
  rcases ages.recent with same | pruned | cleared
  · rw [same]
    exact shrinks
  · rw [pruned, pruneRecent_idem]
    exact shrinks
  · rw [cleared]
    exact Nat.zero_le _

theorem Drains.ages {drained : String → IpAddr → Nat} (drains : Drains shardIdx t t' drained)
    (now : Instant) (user : String) : Ages shardIdx t t' now user := by
  refine ⟨drains.coherent, ?_, ?_, limitMode_congr drains.limitPolicy,
    limitWindow_congr drains.limitPolicy⟩
  · intro ip
    rw [drains.active]
    exact Nat.sub_le _ _
  · left
    unfold recentOf
    rw [drains.recent]

theorem applyDrained_ages (coherent : Coherent shardIdx t) (idx : ShardIdx)
    (toRemove : List ((String × IpAddr) × Nat)) (now : Instant) (user : String) :
    Ages shardIdx t (applyDrained t idx toRemove) now user := by
  refine ⟨applyDrained_coherent coherent idx toRemove, ?_, .inl ?_, rfl, rfl⟩
  · intro ip
    change activeCount shardIdx (t.setShard idx _) user ip ≤ _
    rw [activeCount_setShard]
    split_ifs with here
    · rw [(applyCleanups_spec toRemove _).1, activeCount, here]
      exact Nat.sub_le _ _
    · exact le_rfl
  · unfold recentOf
    rw [applyDrained_recent]

theorem Compacts.ages (compacts : Compacts now t.limitWindow t t') (coherent : Coherent shardIdx t)
    (user : String) : Ages shardIdx t t' now user := by
  refine ⟨compacts.coherent coherent, ?_, ?_, limitMode_congr compacts.limitPolicy,
    limitWindow_congr compacts.limitPolicy⟩
  · intro ip
    rw [compacts.activeCount]
  · rcases compacts.recent (shardIdx user) user with same | pruned
    · exact Or.inl same
    · exact Or.inr (Or.inl pruned)

theorem Ages.trans {t'' : UserIpTracker} (first : Ages shardIdx t t' now user)
    (second : Ages shardIdx t' t'' now user) : Ages shardIdx t t'' now user := by
  refine ⟨second.coherent, fun ip => (second.active ip).trans (first.active ip), ?_,
    second.limitMode.trans first.limitMode, second.limitWindow.trans first.limitWindow⟩
  rcases second.recent with same | pruned | cleared
  · rw [same]
    exact first.recent
  · rw [pruned, first.limitWindow]
    rcases first.recent with same | pruned' | cleared
    · exact Or.inr (Or.inl (by rw [same]))
    · exact Or.inr (Or.inl (by rw [pruned', pruneRecent_idem]))
    · exact Or.inr (Or.inr (by rw [cleared]; rfl))
  · exact Or.inr (Or.inr cleared)

theorem ages_of_shards (coherent : Coherent shardIdx t') (shards : t'.shards = t.shards)
    (mode : t'.limitMode = t.limitMode) (window : t'.limitWindow = t.limitWindow) (now : Instant)
    (user : String) : Ages shardIdx t t' now user := by
  refine ⟨coherent, ?_, ?_, mode, window⟩
  · intro ip
    unfold activeCount
    rw [shards]
  · left
    unfold recentOf
    rw [shards]

theorem Takes.ages {idx : ShardIdx} {toRemove : List ((String × IpAddr) × Nat)}
    (takes : Takes shardIdx t t' idx toRemove) (now : Instant) (user : String) :
    Ages shardIdx t t' now user :=
  ages_of_shards takes.coherent takes.shards (limitMode_congr takes.limitPolicy)
    (limitWindow_congr takes.limitPolicy) now user

theorem removeIp_ages (coherent : Coherent shardIdx t) (clock : Clock) (username : String)
    (ip : IpAddr) (user : String) :
    Ages shardIdx t (removeIp shardIdx t clock username ip) clock.now user := by
  have ages := (maybeCompactEmptyUsers_compacts t clock).ages coherent user
  unfold removeIp
  rw [removeIpLocked_eq]
  exact ages.trans (applyDrained_ages ages.coherent _ _ _ user)

theorem clearUserIps_ages (coherent : Coherent shardIdx t) (username : String) (now : Instant)
    (user : String) : Ages shardIdx t (clearUserIps shardIdx t username) now user := by
  have stores := @clearUserIps_stores shardIdx t username
  refine ⟨stores.coherent coherent fun ip c stored => absurd stored (by simp), ?_, ?_,
    limitMode_congr stores.limitPolicy, limitWindow_congr stores.limitPolicy⟩
  · intro ip
    rw [stores.activeCount]
    split_ifs
    · exact Nat.zero_le _
    · exact le_rfl
  · have recent := stores.recent (shardIdx user) user
    split_ifs at recent
    · exact Or.inr (Or.inr recent)
    · exact Or.inl recent

theorem clearAll_ages (t : UserIpTracker) (now : Instant) (user : String) :
    Ages shardIdx t (clearAll t) now user := by
  exact ⟨coherent_of_empty rfl rfl rfl, fun _ => Nat.zero_le _, Or.inr (Or.inr rfl), rfl, rfl⟩

variable {userActive : Dict IpAddr Nat}

theorem stores_other_ages {username : String} {userRecent : Dict IpAddr Instant}
    (coherent : Coherent shardIdx t)
    (stores : Stores t t' (shardIdx username) username userActive userRecent)
    (positive : ∀ ip c, userActive.lookup ip = some c → 0 < c) (other : user ≠ username)
    (now : Instant) : Ages shardIdx t t' now user := by
  refine ⟨stores.coherent coherent positive, ?_, ?_, limitMode_congr stores.limitPolicy,
    limitWindow_congr stores.limitPolicy⟩
  · intro ip
    rw [stores.activeCount, if_neg other]
  · left
    have recent := stores.recent (shardIdx user) user
    rwa [if_neg fun same => other same.2] at recent

theorem checkAndAdd_other_ages {username : String} (coherent : Coherent shardIdx t) (clock : Clock)
    (ip : IpAddr) (other : user ≠ username) :
    Ages shardIdx t (checkAndAdd shardIdx t clock username ip).1 clock.now user := by
  obtain ⟨_, _, _, drains, _, compacts, outcome⟩ :=
    checkAndAdd_cases coherent clock username ip
  rw [← limitWindow_congr drains.limitPolicy] at compacts
  have ready := (drains.ages clock.now user).trans (compacts.ages drains.coherent user)
  rcases outcome with ⟨_, _, stores⟩ | ⟨_, _, stores⟩
  · refine ready.trans (stores_other_ages ready.coherent stores ?_ other _)
    exact ready.coherent.activePositive _ username
  · exact ready.trans (stores_other_ages ready.coherent stores (positive_insert ready.coherent _) other _)

structure Admits (shardIdx : String → ShardIdx) (t t' : UserIpTracker) (clock : Clock)
    (user : String) (ip : IpAddr) (userActive : Dict IpAddr Nat) : Prop where
  coherent : Coherent shardIdx t'
  live : ip ∈ userActive ↔ pendingCount shardIdx t user ip < activeCount shardIdx t user ip
  shrunk : Dict.size userActive ≤ Dict.size (activeOf shardIdx t user)
  passed : ip ∈ userActive ∨ ip ∉ userActive ∧
    limitDenies (t.userLimit user) t.limitMode (Dict.size userActive)
      (Dict.size (inWindow shardIdx t user clock.now))
      (!decide (ip ∈ inWindow shardIdx t user clock.now)) = false
  active : ∃ c, activeOf shardIdx t' user = userActive.insert ip c
  recent : recentOf shardIdx t' user = (inWindow shardIdx t user clock.now).insert ip clock.now
  limitMode : t'.limitMode = t.limitMode
  limitWindow : t'.limitWindow = t.limitWindow

theorem checkAndAdd_own (coherent : Coherent shardIdx t) (clock : Clock) (user : String)
    (ip : IpAddr) :
    (∃ t' message, checkAndAdd shardIdx t clock user ip = (t', .error message) ∧
      Ages shardIdx t t' clock.now user) ∨
    (∃ t' userActive, checkAndAdd shardIdx t clock user ip = (t', .ok ()) ∧
      Admits shardIdx t t' clock user ip userActive) := by
  obtain ⟨_, t₂, _, drains, empty, compacts, outcome⟩ :=
    checkAndAdd_cases coherent clock user ip
  have compacts' := compacts
  rw [← limitWindow_congr drains.limitPolicy] at compacts'
  have ready := (drains.ages clock.now user).trans (compacts'.ages drains.coherent user)
  have policy := compacts.limitPolicy.trans drains.limitPolicy
  have window : (pruneRecent (Dict.inner (t₂.shards (shardIdx user)).recentIps user) clock.now
      t.limitWindow).1 = inWindow shardIdx t user clock.now := by
    unfold inWindow recentOf
    rw [← drains.recent]
    rcases compacts.recent (shardIdx user) user with same | pruned
    · rw [same]
    · rw [pruned, pruneRecent_idem]
  rw [window] at outcome
  rcases outcome with ⟨message, refused, stores⟩ | ⟨admitted, passed, stores⟩
  · left
    refine ⟨_, message, Prod.ext rfl refused, ready.trans ⟨?_, ?_, ?_, limitMode_congr stores.limitPolicy,
      limitWindow_congr stores.limitPolicy⟩⟩
    · exact stores.coherent ready.coherent (ready.coherent.activePositive _ user)
    · intro ip'
      rw [stores.activeCount, if_pos rfl]
      exact le_rfl
    · right
      left
      have recent := stores.recent (shardIdx user) user
      rw [if_pos ⟨rfl, rfl⟩] at recent
      unfold recentOf
      rw [recent, limitWindow_congr policy, window]
  · right
    have live : ip ∈ Dict.inner (t₂.shards (shardIdx user)).activeIps user ↔
        pendingCount shardIdx t user ip < activeCount shardIdx t user ip := by
      have afterDrain := drains.active user ip
      have taken := drains.pending user ip
      rw [empty ip] at taken
      have same := @Compacts.activeCount shardIdx _ _ _ _ compacts user ip
      refine (activeIp_iff ready.coherent user ip).trans ?_
      rw [same, afterDrain]
      omega
    have active := stores.active (shardIdx user) user
    have recent := stores.recent (shardIdx user) user
    rw [if_pos ⟨rfl, rfl⟩] at active recent
    exact ⟨_, _, Prod.ext rfl admitted, stores.coherent ready.coherent (positive_insert ready.coherent _), live,
      ready.activeSize coherent, passed, ⟨_, active⟩, recent,
      limitMode_congr (stores.limitPolicy.trans policy),
      limitWindow_congr (stores.limitPolicy.trans policy)⟩

variable {limit : Nat}

section
variable {clock : Clock} {ip : IpAddr} (admits : Admits shardIdx t t' clock user ip userActive)
  (limited : t.userLimit user = some limit)
include admits limited

theorem Admits.activeSize (combined : t.limitMode = .combined)
    (bound : Dict.size (activeOf shardIdx t user) ≤ limit) :
    Dict.size (activeOf shardIdx t' user) ≤ limit := by
  obtain ⟨c, active⟩ := admits.active
  have shrunk := admits.shrunk
  rw [active]
  rcases admits.passed with known | ⟨new, passed⟩
  · rw [Dict.size_insert_of_mem c known]
    omega
  · have room := (limitDenies_eq_false limited passed).1 (by rw [combined]; decide)
    rw [Dict.size_insert_of_notMem c new]
    omega

theorem Admits.windowSize (windowed : t.limitMode ≠ .activeWindow)
    (bound : Dict.size (inWindow shardIdx t user clock.now) ≤ limit)
    {batches : List Batch}
    (allowed : ¬StaleReentry shardIdx user limit ⟨⟨t, batches⟩, now⟩ (.checkAndAdd clock user ip)) :
    Dict.size (inWindow shardIdx t' user clock.now) ≤ limit := by
  have pruned : Dict.size (inWindow shardIdx t' user clock.now) ≤
      Dict.size (recentOf shardIdx t' user) := Dict.size_retain_le _ _
  rw [admits.recent] at pruned
  refine pruned.trans ?_
  by_cases known : ip ∈ inWindow shardIdx t user clock.now
  · rw [Dict.size_insert_of_mem _ known]
    exact bound
  · rw [Dict.size_insert_of_notMem _ known]
    rcases admits.passed with active | ⟨_, passed⟩
    · by_contra full
      exact allowed ⟨rfl, admits.live.mp active, known, Nat.le_of_lt_succ (Nat.lt_of_not_le full)⟩
    · exact (limitDenies_eq_false limited passed).2 windowed (by simp [known])

end

theorem step_ages_or_admits {s next : Tracked} {op : Operation}
    (coherent : Coherent shardIdx s.tracker) (stepped : s.step shardIdx op = some next)
    (now : Instant) (user : String) :
    Ages shardIdx s.tracker next.tracker (op.readsClock.getD now) user ∨
    ∃ clock ip userActive, op = .checkAndAdd clock user ip ∧
      Admits shardIdx s.tracker next.tracker clock user ip userActive := by
  cases op with
  | checkAndAdd clock username ip =>
    cases stepped
    by_cases own : user = username
    · subst own
      rcases checkAndAdd_own coherent clock user ip with ⟨t', _, result, ages⟩ | ⟨t', a, result, admits⟩
      · left
        dsimp only
        rw [result]
        exact ages
      · right
        refine ⟨clock, ip, a, rfl, ?_⟩
        dsimp only
        rw [result]
        exact admits
    · exact Or.inl (checkAndAdd_other_ages coherent clock ip own)
  | removeIp clock username ip =>
    cases stepped
    exact Or.inl (removeIp_ages coherent clock username ip user)
  | enqueueCleanup username ip =>
    cases stepped
    left
    refine ages_of_shards (enqueueCleanup_coherent coherent username ip) ?_ ?_ ?_ _ user
    all_goals rfl
  | drainTakeUser username =>
    cases stepped
    exact Or.inl ((takeCleanupForUser_takes coherent username).ages _ user)
  | drainTake idx picks =>
    cases stepped
    exact Or.inl ((takeCleanupShard_takes coherent idx picks).ages _ user)
  | drainApply =>
    obtain ⟨_, ⟨⟩⟩ := Option.ite_none_right_eq_some.mp stepped
    exact Or.inl (applyDrained_ages coherent _ _ _ user)
  | compact clock =>
    cases stepped
    exact Or.inl ((maybeCompactEmptyUsers_compacts s.tracker clock).ages coherent user)
  | clearUserIps username =>
    cases stepped
    exact Or.inl (clearUserIps_ages coherent username _ user)
  | clearAll =>
    cases stepped
    exact Or.inl (clearAll_ages s.tracker _ user)
  | setUserLimit _ _ | removeUserLimit _ | loadLimits _ _ =>
    cases stepped
    left
    refine ages_of_shards ?_ ?_ ?_ ?_ _ user
    · exact coherent_of_active coherent rfl rfl coherent.activePositive
    all_goals rfl

structure Limited (shardIdx : String → ShardIdx) (user : String) (limit : Nat)
    (mode : UserMaxUniqueIpsMode) (s : Timed) : Prop where
  coherent : Coherent shardIdx s.tracker
  limited : s.tracker.userLimit user = some limit
  limitMode : s.tracker.limitMode = mode
  active : mode = .combined → Dict.size (activeOf shardIdx s.tracker user) ≤ limit

section
variable {mode : UserMaxUniqueIpsMode} {s next : Timed} {op : Operation}
  (before : Limited shardIdx user limit mode s) (moved : timedStep shardIdx s op = some next)
include before moved

theorem timedStep_limited (keeps : KeepsLimit shardIdx user limit s op) :
    Limited shardIdx user limit mode next := by
  simp only [timedStep] at moved
  split_ifs at moved with order
  obtain ⟨tracked, stepped, rfl⟩ := Option.map_eq_some_iff.mp moved
  have kept := keeps tracked stepped
  rcases step_ages_or_admits before.coherent stepped s.now user with
    ages | ⟨clock, ip, a, rfl, admits⟩
  · refine ⟨ages.coherent, kept, ages.limitMode.trans before.limitMode, ?_⟩
    intro combined
    exact (ages.activeSize before.coherent).trans (before.active combined)
  · refine ⟨admits.coherent, kept, admits.limitMode.trans before.limitMode, ?_⟩
    intro combined
    exact admits.activeSize before.limited (before.limitMode.trans combined) (before.active combined)

theorem timedStep_windowSize (windowed : mode ≠ .activeWindow)
    (allowed : ¬StaleReentry shardIdx user limit s op)
    (bound : Dict.size (inWindow shardIdx s.tracker user s.now) ≤ limit) :
    Dict.size (inWindow shardIdx next.tracker user next.now) ≤ limit := by
  simp only [timedStep] at moved
  split_ifs at moved with order
  obtain ⟨_, stepped, rfl⟩ := Option.map_eq_some_iff.mp moved
  rcases step_ages_or_admits before.coherent stepped s.now user with
    ages | ⟨clock, ip, a, rfl, admits⟩
  · exact (ages.windowSize order).trans bound
  · have shrinks := pruneRecent_size_le (recentOf shardIdx s.tracker user) s.tracker.limitWindow order
    refine admits.windowSize before.limited ?_ (shrinks.trans bound) allowed
    rw [before.limitMode]
    exact windowed

end

def Timed.start (mode : UserMaxUniqueIpsMode) (windowSecs defaultLimit : Nat)
    (limits : Dict String Nat) (now : Instant) : Timed :=
  ⟨⟨(UserIpTracker.new.setLimitPolicy mode windowSecs).loadLimits defaultLimit limits, []⟩, now⟩

theorem start_limited (mode : UserMaxUniqueIpsMode) (windowSecs defaultLimit : Nat)
    (limits : Dict String Nat) (now : Instant)
    (limited : (Timed.start mode windowSecs defaultLimit limits now).tracker.userLimit user = some limit) :
    Limited shardIdx user limit mode (Timed.start mode windowSecs defaultLimit limits now) := by
  exact ⟨coherent_of_empty rfl rfl rfl, limited, rfl, fun _ => Nat.zero_le _⟩

theorem unique_ip_limit_in_window_modes (shardIdx : String → ShardIdx) (user : String) (limit : Nat)
    (mode : UserMaxUniqueIpsMode) (windowSecs defaultLimit : Nat) (limits : Dict String Nat)
    (boot : Instant) (ops : List Operation) (s : Timed) (clock : Clock) (ip : IpAddr)
    (t' : UserIpTracker) (windowed : mode ≠ .activeWindow)
    (limited : (Timed.start mode windowSecs defaultLimit limits boot).tracker.userLimit user =
      some limit)
    (keeps : Guarded (timedStep shardIdx) (KeepsLimit shardIdx user limit)
      (Timed.start mode windowSecs defaultLimit limits boot) ops)
    (run : runFrom (timedStep shardIdx) (Timed.start mode windowSecs defaultLimit limits boot) ops =
      some s)
    (order : s.now ≤ clock.now)
    (admitted : checkAndAdd shardIdx s.tracker clock user ip = (t', .ok ())) :
    (mode = .combined → Dict.size (activeOf shardIdx t' user) ≤ limit) ∧
    (Guarded (timedStep shardIdx) (fun s op => ¬StaleReentry shardIdx user limit s op)
        (Timed.start mode windowSecs defaultLimit limits boot)
        (ops ++ [.checkAndAdd clock user ip]) →
      Dict.size (inWindow shardIdx t' user clock.now) ≤ limit) := by
  have start := @start_limited shardIdx user limit mode windowSecs defaultLimit limits boot limited
  have before : Limited shardIdx user limit mode s :=
    runFrom_invariant (Limited shardIdx user limit mode)
      (fun _ _ _ keeps before moved => timedStep_limited before moved keeps) keeps start run
  have moved : timedStep shardIdx s (.checkAndAdd clock user ip) =
      some ⟨⟨t', s.batches⟩, clock.now⟩ := by
    simp [timedStep, Tracked.step, Tracked.put, Operation.readsClock, admitted, order]
  constructor
  · intro combined
    rcases checkAndAdd_own before.coherent clock user ip with ⟨_, _, refused, _⟩ | ⟨t'', a, result, admits⟩
    · rw [refused] at admitted
      cases admitted
    · rw [result] at admitted
      cases admitted
      exact admits.activeSize before.limited (before.limitMode.trans combined) (before.active combined)
  · intro guarded
    obtain ⟨allowed, last⟩ := guarded_append_singleton guarded run
    have bound := runFrom_invariant
      (fun s => Limited shardIdx user limit mode s ∧
        Dict.size (inWindow shardIdx s.tracker user s.now) ≤ limit)
      (fun _ _ _ ok before moved => ⟨timedStep_limited before.1 moved ok.1,
        timedStep_windowSize before.1 moved windowed ok.2 before.2⟩)
      (keeps.and allowed) ⟨start, Nat.zero_le _⟩ run
    exact timedStep_windowSize before moved windowed last bound.2

end Runs

def ipA : IpAddr := .ofOctets 10 0 0 1
def ipB : IpAddr := .ofOctets 10 0 0 2

theorem unique_ip_limit_two_addresses :
    let start := Timed.start .combined 1 2 ∅ 0
    let ops : List Operation := [.checkAndAdd ⟨0, 0⟩ "alice" ipA]
    ∃ s t', runFrom (timedStep fun _ => 0) start ops = some s ∧
      checkAndAdd (fun _ => 0) s.tracker ⟨5, 0⟩ "alice" ipB = (t', .ok ()) ∧
      Dict.size (activeOf (fun _ => 0) t' "alice") ≤ 2 ∧
      Dict.size (inWindow (fun _ => 0) t' "alice" 5) ≤ 2 := by
  intro start ops
  have keeps : Guarded (timedStep fun _ => 0) (KeepsLimit (fun _ => 0) "alice" 2) start ops := by
    decide
  have allowed : Guarded (timedStep fun _ => 0)
      (fun s op => ¬StaleReentry (fun _ => 0) "alice" 2 s op) start
      (ops ++ [Operation.checkAndAdd ⟨5, 0⟩ "alice" ipB]) := by decide
  have accepted : ((runFrom (timedStep fun _ => 0) start ops).map fun s =>
      decide (s.now ≤ 5) && (checkAndAdd (fun _ => 0) s.tracker ⟨5, 0⟩ "alice" ipB).2.isOk) =
      some true := by decide
  obtain ⟨s, run, accepted⟩ := Option.map_eq_some_iff.mp accepted
  obtain ⟨order, isOk⟩ := Bool.and_eq_true_iff.mp accepted
  cases result : checkAndAdd (fun _ => 0) s.tracker ⟨5, 0⟩ "alice" ipB with
  | mk t' outcome =>
    rw [result] at isOk
    cases outcome with
    | error => cases isOk
    | ok =>
      have limit := unique_ip_limit_in_window_modes (fun _ => 0) "alice" 2 .combined 1 2 ∅ 0 ops s
        ⟨5, 0⟩ ipB t' (by decide) rfl keeps run (of_decide_eq_true order) result
      exact ⟨s, t', run, result, limit.1 rfl, limit.2 allowed⟩

theorem active_ip_reenters_full_window :
    ∃ s t', runFrom (timedStep fun _ => 0) (Timed.start .timeWindow 1 1 ∅ 0)
        [.checkAndAdd ⟨0, 0⟩ "alice" ipA, .checkAndAdd ⟨2000000000, 2⟩ "alice" ipB] = some s ∧
      checkAndAdd (fun _ => 0) s.tracker ⟨2000000000, 2⟩ "alice" ipA = (t', .ok ()) ∧
      Dict.size (inWindow (fun _ => 0) t' "alice" 2000000000) = 2 := by
  refine ⟨_, _, rfl, rfl, ?_⟩
  decide

end Telemt.IpTracker
