import Telemt.QuotaState.Model
import Telemt.DirectRelay.QuotaAccounting

namespace Telemt.QuotaState
open Foundation DirectRelay

namespace Stats
variable {stats : Stats} {user : String} {handle : Handle} {now : Nat}
  (owner : String) (f : UserStats → UserStats)

theorem get_modify (other : Handle) :
    (stats.modify handle f).get other = if other = handle then f (stats.get handle) else stats.get other := by
  unfold get modify
  rw [Dict.lookup_insert_ite]
  split_ifs <;> rfl

theorem used_of_mapped (mapped : (stats.userStats.lookup user).map (Handle.mk user) = some handle) :
    stats.getUserQuotaUsed user = (stats.get handle).quotaUsed := by
  obtain ⟨_, present, rfl⟩ := Option.map_eq_some_iff.mp mapped
  unfold getUserQuotaUsed entry
  rw [present]
  rfl

theorem used_modify :
    (stats.modify handle f).getUserQuotaUsed user =
      if (stats.userStats.lookup user).map (Handle.mk user) = some handle then
        (f (stats.get handle)).quotaUsed
      else stats.getUserQuotaUsed user := by
  unfold getUserQuotaUsed entry
  rw [show (stats.modify handle f).userStats = stats.userStats from rfl]
  cases stats.userStats.lookup user with
  | none => rfl
  | some =>
    simp only [Option.map_some, Option.getD_some, Option.some.injEq, get_modify]
    split_ifs <;> rfl

theorem used_modify_of_same {f : UserStats → UserStats}
    (same : (f (stats.get handle)).quotaUsed = (stats.get handle).quotaUsed) :
    (stats.modify handle f).getUserQuotaUsed user = stats.getUserQuotaUsed user := by
  rw [used_modify]
  split_ifs with mapped
  · rw [same, used_of_mapped mapped]
  · rfl

theorem used_modify_of_other (other : user ≠ handle.user) :
    (stats.modify handle f).getUserQuotaUsed user = stats.getUserQuotaUsed user := by
  rw [used_modify, if_neg]
  intro mapped
  obtain ⟨_, _, rfl⟩ := Option.map_eq_some_iff.mp mapped
  exact other rfl

theorem used_modify_of_mapped (mapped : stats.userStats.lookup handle.user = some handle.object) :
    (stats.modify handle f).getUserQuotaUsed handle.user = (f (stats.get handle)).quotaUsed := by
  rw [used_modify, mapped]
  exact if_pos rfl

@[simp] theorem used_loadCachedEpochSecs :
    (stats.loadCachedEpochSecs now).getUserQuotaUsed user = stats.getUserQuotaUsed user := by
  unfold loadCachedEpochSecs
  split_ifs <;> rfl

@[simp] theorem userStats_loadCachedEpochSecs :
    (stats.loadCachedEpochSecs now).userStats = stats.userStats := by
  unfold loadCachedEpochSecs
  split_ifs <;> rfl

@[simp] theorem used_touchUserStats :
    (stats.touchUserStats handle now).getUserQuotaUsed user = stats.getUserQuotaUsed user := by
  unfold touchUserStats
  rw [used_modify_of_same, used_loadCachedEpochSecs]
  rfl

@[simp] theorem userStats_touchUserStats :
    (stats.touchUserStats handle now).userStats = stats.userStats :=
  userStats_loadCachedEpochSecs

@[simp] theorem used_getOrCreate :
    (stats.getOrCreateUserStatsHandle owner now).1.getUserQuotaUsed user =
      stats.getUserQuotaUsed user := by
  unfold getOrCreateUserStatsHandle
  cases present : stats.userStats.lookup owner with
  | some object => exact used_touchUserStats
  | none =>
    rw [used_touchUserStats]
    unfold getUserQuotaUsed entry get
    dsimp only
    by_cases same : user = owner
    · rw [same, present, AList.lookup_insert]
      simp only [Option.map_some, Option.map_none, AList.lookup_insert, Option.getD_some,
        Option.getD_none]
    · rw [AList.lookup_insert_ne same]
      cases stats.userStats.lookup user with
      | none => rfl
      | some =>
        simp only [Option.map_some, Option.getD_some]
        rw [AList.lookup_insert_ne (fun here => same (congrArg Handle.user here))]

theorem getOrCreate_mapped :
    (stats.getOrCreateUserStatsHandle owner now).2.user = owner ∧
      (stats.getOrCreateUserStatsHandle owner now).1.userStats.lookup owner =
        some (stats.getOrCreateUserStatsHandle owner now).2.object := by
  unfold getOrCreateUserStatsHandle
  cases present : stats.userStats.lookup owner with
  | some =>
    rw [userStats_touchUserStats]
    exact ⟨rfl, present⟩
  | none =>
    dsimp only
    rw [userStats_touchUserStats]
    exact ⟨rfl, AList.lookup_insert _⟩

@[simp] theorem used_tryAcquire (limit : Option Nat) :
    (stats.tryAcquireUserCurrConnects owner limit now).1.getUserQuotaUsed user =
      stats.getUserQuotaUsed user := by
  unfold tryAcquireUserCurrConnects
  dsimp only
  split_ifs
  · rfl
  · rw [used_touchUserStats, used_getOrCreate]
  · rw [used_modify_of_same, used_touchUserStats, used_getOrCreate]
    rfl

@[simp] theorem used_decrement :
    (stats.decrementUserCurrConnects owner now).getUserQuotaUsed user = stats.getUserQuotaUsed user := by
  unfold decrementUserCurrConnects
  cases stats.userStats.lookup owner with
  | none => rfl
  | some =>
    rw [used_modify_of_same, used_touchUserStats]
    rfl

@[simp] theorem used_addUserTraffic :
    (stats.addUserTrafficHandle handle now).getUserQuotaUsed user = stats.getUserQuotaUsed user := by
  unfold addUserTrafficHandle
  split_ifs
  · rfl
  · exact used_touchUserStats

theorem used_write :
    let created := stats.getOrCreateUserStatsHandle owner now
    (created.1.modify created.2 f).getUserQuotaUsed user =
      if user = owner then (f (created.1.get created.2)).quotaUsed else stats.getUserQuotaUsed user := by
  intro created
  obtain ⟨owned, mapped⟩ := @getOrCreate_mapped stats now owner
  change created.1.userStats.lookup owner = some created.2.object at mapped
  split_ifs with same
  · rw [same, ← owned]
    rw [← owned] at mapped
    exact used_modify_of_mapped f mapped
  · rw [used_modify_of_other f (by rw [owned]; exact same)]
    exact used_getOrCreate owner

theorem used_resetUserQuota :
    (stats.resetUserQuota owner now).getUserQuotaUsed user =
      if user = owner then 0 else stats.getUserQuotaUsed user :=
  used_write owner _

theorem used_loadUserQuotaState (state : QuotaUserState) :
    (stats.loadUserQuotaState owner state now).getUserQuotaUsed user =
      if user = owner then state.usedBytes else stats.getUserQuotaUsed user :=
  used_write owner _

theorem used_loadQuotaState (file : Dict String QuotaUserState) :
    (stats.loadQuotaState file now).getUserQuotaUsed user =
      ((file.lookup user).map QuotaUserState.usedBytes).getD (stats.getUserQuotaUsed user) := by
  apply Dict.view_foldl_entries (fun stats owner state => stats.loadUserQuotaState owner state now)
    getUserQuotaUsed fun _ => QuotaUserState.usedBytes
  · intro stats owner state
    rw [used_loadUserQuotaState, if_pos rfl]
  · intro stats owner state other differs
    rw [used_loadUserQuotaState, if_neg differs]

theorem used_userQuotaSnapshot :
    ((stats.userQuotaSnapshot.lookup user).map QuotaUserState.usedBytes).getD 0 =
      stats.getUserQuotaUsed user := by
  unfold userQuotaSnapshot getUserQuotaUsed entry
  rw [Dict.lookup_retain, Dict.lookup_mapWithKey]
  cases stats.userStats.lookup user with
  | none => rfl
  | some =>
    simp only [Option.map_some, Option.getD_some]
    unfold Option.filter
    dsimp only
    split_ifs with kept
    · rfl
    · simp only [Bool.not_eq_true, Bool.not_eq_false', Bool.and_eq_true, decide_eq_true_eq] at kept
      exact kept.1.symm

def ForgetsUsage (stats : Stats) (user : String) (now : Nat) : Prop :=
  userStatsCleanupIntervalSecs ≤ now - stats.userStatsLastCleanupEpochSecs ∧
    (stats.entry user).any fun object =>
      object.currConnects = 0 && userStatsIdleTtlSecs < now - object.lastSeenEpochSecs &&
        0 < object.quotaUsed

instance (stats : Stats) (user : String) (now : Nat) : Decidable (stats.ForgetsUsage user now) :=
  inferInstanceAs (Decidable (_ ∧ _))

theorem used_maybeCleanup (keeps : ¬stats.ForgetsUsage user now) :
    (stats.maybeCleanupUserStats now).getUserQuotaUsed user = stats.getUserQuotaUsed user := by
  unfold maybeCleanupUserStats
  dsimp only
  split_ifs with early
  · rfl
  · have due : userStatsCleanupIntervalSecs ≤ now - stats.userStatsLastCleanupEpochSecs := by
      exact Nat.le_of_not_lt early
    have kept : ¬(stats.entry user).any fun object =>
        object.currConnects = 0 && userStatsIdleTtlSecs < now - object.lastSeenEpochSecs &&
          0 < object.quotaUsed := fun dropped => keeps ⟨due, dropped⟩
    unfold getUserQuotaUsed entry at *
    rw [Dict.lookup_retain]
    change ((((stats.userStats.lookup user).filter _).map fun object =>
      stats.get ⟨user, object⟩).map UserStats.quotaUsed).getD 0 = _
    cases present : stats.userStats.lookup user with
    | none => rfl
    | some =>
      rw [present] at kept
      simp only [Option.map_some, Option.any_some, Bool.and_eq_true, decide_eq_true_eq, not_and] at kept
      unfold Option.filter
      dsimp only
      split_ifs with live
      · rfl
      · simp only [Bool.or_eq_true, decide_eq_true_eq, not_or, Nat.not_lt, Nat.not_le] at live
        have unused := kept ⟨Nat.le_zero.mp live.1, live.2⟩
        exact (Nat.eq_zero_of_not_pos unused).symm

end Stats

def fileUsed (file : Dict String QuotaUserState) (user : String) : Nat :=
  ((file.lookup user).map QuotaUserState.usedBytes).getD 0

variable (user : String) (s : Server)

-- A cleanup does not drop the user's usage, and a loaded file knows all of it.
def Remembers : Event → Prop
  | .cleanup now => ¬s.stats.ForgetsUsage user now
  | .reload _ => ∀ state ∈ s.file.lookup user, s.stats.getUserQuotaUsed user ≤ state.usedBytes
  | .restart _ _ => s.stats.getUserQuotaUsed user ≤ fileUsed s.file user
  | _ => True

instance (event : Event) : Decidable (Remembers user s event) := by
  cases event <;> unfold Remembers <;> infer_instance

def Event.refunded : Event → Nat
  | .refund handle bytes => if handle.user = user then bytes else 0
  | _ => 0

def Event.Resets : Event → Prop
  | .reset owner _ => owner = user
  | _ => False

instance (event : Event) : Decidable (event.Resets user) := by
  cases event <;> unfold Event.Resets <;> infer_instance

def refunds (events : List Event) : Nat := (events.map (Event.refunded user)).sum

theorem used_reserve (user : String) (handle : Handle) (bytes limit : Nat) (raceLost : Bool) :
    s.stats.getUserQuotaUsed user ≤ (s.reserve handle bytes limit raceLost).stats.getUserQuotaUsed user := by
  unfold Server.reserve
  cases reserved : quotaTryReserve (s.stats.get handle).quotaUsed bytes limit raceLost with
  | error => exact le_rfl
  | ok =>
    obtain ⟨rfl, _⟩ := StatsIo.quotaTryReserve_ok reserved
    rw [Stats.used_modify]
    split_ifs with mapped
    · rw [Stats.used_of_mapped mapped]
      exact Nat.le_add_right _ _
    · exact le_rfl

theorem used_refund (user : String) (handle : Handle) (bytes : Nat) :
    s.stats.getUserQuotaUsed user ≤
      (s.refund handle bytes).stats.getUserQuotaUsed user + if handle.user = user then bytes else 0 := by
  unfold Server.refund
  rw [Stats.used_modify]
  split_ifs with mapped own
  · rw [Stats.used_of_mapped mapped, refundReservedQuotaBytes]
    exact le_tsub_add
  · obtain ⟨_, _, rfl⟩ := Option.map_eq_some_iff.mp mapped
    exact absurd rfl own
  · exact Nat.le_add_right _ _
  · exact le_rfl

theorem step_remembers {user : String} {s t : Server} {event : Event}
    (kept : Remembers user s event) (noReset : ¬event.Resets user) (taken : s.step event = some t) :
    s.stats.getUserQuotaUsed user ≤ t.stats.getUserQuotaUsed user + event.refunded user := by
  cases event with
  | acquire owner limit now =>
    cases taken
    exact (Stats.used_tryAcquire owner limit).ge
  | release owner now =>
    cases taken
    exact (Stats.used_decrement owner).ge
  | openSession owner now =>
    cases taken
    exact (Stats.used_getOrCreate owner).ge
  | closeSession handle =>
    dsimp only [Server.step] at taken
    split_ifs at taken
    cases taken
    exact le_rfl
  | reserve handle bytes limit raceLost =>
    dsimp only [Server.step] at taken
    split_ifs at taken
    cases taken
    exact used_reserve s user handle bytes limit raceLost
  | refund handle bytes =>
    dsimp only [Server.step] at taken
    split_ifs at taken
    cases taken
    exact used_refund s user handle bytes
  | traffic _ now =>
    dsimp only [Server.step] at taken
    split_ifs at taken
    cases taken
    exact Stats.used_addUserTraffic.ge
  | setTelemetry userEnabled | save =>
    cases taken
    exact le_rfl
  | cleanup now =>
    cases taken
    exact (Stats.used_maybeCleanup kept).ge
  | reset owner now =>
    cases taken
    have others : ¬user = owner := fun same => noReset same.symm
    have same := @Stats.used_resetUserQuota s.stats user now owner
    rw [if_neg others] at same
    exact same.ge
  | reload now =>
    cases taken
    have loaded := @Stats.used_loadQuotaState s.stats user now s.file
    rw [loaded]
    cases present : s.file.lookup user with
    | none => exact le_rfl
    | some state => exact kept state present
  | restart userEnabled now =>
    cases taken
    have loaded := @Stats.used_loadQuotaState
      { telemetryUserEnabled := userEnabled, cachedEpochSecs := now } user now s.file
    rw [loaded]
    exact kept

theorem run_remembers {user : String} {s t : Server} {events : List Event}
    (kept : Guarded Server.step (Remembers user) s events)
    (noReset : ∀ event ∈ events, ¬event.Resets user) (run : runFrom Server.step s events = some t) :
    s.stats.getUserQuotaUsed user ≤ t.stats.getUserQuotaUsed user + refunds user events := by
  induction events generalizing s with
  | nil =>
    cases run
    exact le_rfl
  | cons event events ih =>
    obtain ⟨next, taken, rest⟩ := runFrom_cons_eq_some.mp run
    have first := step_remembers kept.1 (noReset event List.mem_cons_self) taken
    have later := ih (kept.2 next taken)
      (fun event member => noReset event (List.mem_cons_of_mem _ member)) rest
    have total : refunds user (event :: events) = event.refunded user + refunds user events := rfl
    omega

theorem quota_usage_not_forgotten (user : String) (s t : Server) (events : List Event)
    (kept : Guarded Server.step (Remembers user) s events)
    (noReset : ∀ event ∈ events, ¬event.Resets user) (run : runFrom Server.step s events = some t) :
    s.stats.getUserQuotaUsed user ≤ t.stats.getUserQuotaUsed user + refunds user events ∧
      fileUsed s.saveQuotaState.file user ≤ fileUsed t.saveQuotaState.file user + refunds user events := by
  have lasting := run_remembers kept noReset run
  refine ⟨lasting, ?_⟩
  have savedBefore : fileUsed s.saveQuotaState.file user = s.stats.getUserQuotaUsed user :=
    Stats.used_userQuotaSnapshot
  have savedAfter : fileUsed t.saveQuotaState.file user = t.stats.getUserQuotaUsed user :=
    Stats.used_userQuotaSnapshot
  rw [savedBefore, savedAfter]
  exact lasting

def aliceUsesHundredBytes : List Event :=
  [.acquire "alice" none 1000, .openSession "alice" 1000, .reserve ⟨"alice", 0⟩ 100 1000 false,
    .traffic ⟨"alice", 0⟩ 1000, .closeSession ⟨"alice", 0⟩, .release "alice" 1000]

def halfDayThenRestart : List Event := [.cleanup 2000, .cleanup 44200, .save, .restart true 44201]

theorem usage_kept_over_half_day :
    ∃ s t, runFrom Server.step {} aliceUsesHundredBytes = some s ∧
      runFrom Server.step s halfDayThenRestart = some t ∧ s.stats.getUserQuotaUsed "alice" = 100 ∧
      s.stats.getUserQuotaUsed "alice" ≤
        t.stats.getUserQuotaUsed "alice" + refunds "alice" halfDayThenRestart := by
  have reached : ((runFrom Server.step {} aliceUsesHundredBytes).bind fun s =>
      (runFrom Server.step s halfDayThenRestart).map fun _ =>
        decide (Guarded Server.step (Remembers "alice") s halfDayThenRestart) &&
          s.stats.getUserQuotaUsed "alice" == 100) = some true := by decide +kernel
  obtain ⟨s, first, rest⟩ := Option.bind_eq_some_iff.mp reached
  obtain ⟨t, second, facts⟩ := Option.map_eq_some_iff.mp rest
  rw [Bool.and_eq_true, decide_eq_true_eq, beq_iff_eq] at facts
  refine ⟨s, t, first, second, facts.2, ?_⟩
  have noReset : ∀ event ∈ halfDayThenRestart, ¬event.Resets "alice" := by decide
  exact (quota_usage_not_forgotten "alice" s t halfDayThenRestart facts.1 noReset second).1

-- A day without a connection is enough for the maintenance to drop the entry and its usage.
theorem idle_day_forgets_usage :
    ∃ s t, runFrom Server.step {} aliceUsesHundredBytes = some s ∧
      runFrom Server.step s [.cleanup 90000, .save] = some t ∧
      s.stats.getUserQuotaUsed "alice" = 100 ∧ t.stats.getUserQuotaUsed "alice" = 0 ∧
      fileUsed s.saveQuotaState.file "alice" = 100 ∧ fileUsed t.file "alice" = 0 := by
  have reached : ((runFrom Server.step {} aliceUsesHundredBytes).bind fun s =>
      (runFrom Server.step s [.cleanup 90000, .save]).map fun t =>
        (s.stats.getUserQuotaUsed "alice", t.stats.getUserQuotaUsed "alice",
          fileUsed s.saveQuotaState.file "alice", fileUsed t.file "alice")) =
      some (100, 0, 100, 0) := by decide +kernel
  obtain ⟨s, first, rest⟩ := Option.bind_eq_some_iff.mp reached
  obtain ⟨t, second, facts⟩ := Option.map_eq_some_iff.mp rest
  simp only [Prod.mk.injEq] at facts
  exact ⟨s, t, first, second, facts⟩

end Telemt.QuotaState
