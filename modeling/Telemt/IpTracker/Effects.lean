import Telemt.IpTracker.Counts

namespace Telemt.IpTracker
open Foundation

variable {shardIdx : String → ShardIdx}

theorem enqueueCleanup_active (t : UserIpTracker) (user : String) (ip : IpAddr) (user' : String)
    (ip' : IpAddr) :
    activeCount shardIdx (enqueueCleanup shardIdx t user ip) user' ip' =
      activeCount shardIdx t user' ip' := rfl

theorem enqueueCleanup_pending (t : UserIpTracker) (user : String) (ip : IpAddr) (user' : String)
    (ip' : IpAddr) :
    pendingCount shardIdx (enqueueCleanup shardIdx t user ip) user' ip' =
      pendingCount shardIdx t user' ip' + if user' = user ∧ ip' = ip then 1 else 0 := by
  change pendingCount shardIdx (t.setQueue _ _) user' ip' = _
  rw [pendingCount_setQueue]
  unfold pendingCount count
  rw [Dict.nested_insert]
  by_cases sameUser : user' = user
  · subst sameUser
    by_cases sameIp : ip' = ip
    · subst sameIp
      simp [Dict.nested]
    · simp [sameIp, Dict.nested]
  · simp only [sameUser, if_false, false_and, Nat.add_zero, ite_eq_right_iff]
    intro same
    rw [same]

variable {t : UserIpTracker}

theorem enqueueCleanup_coherent (coherent : Coherent shardIdx t) (user : String) (ip : IpAddr) :
    Coherent shardIdx (enqueueCleanup shardIdx t user ip) := by
  have known := coherent.pendingPositive (shardIdx user)
  refine coherent_of_queue coherent rfl rfl ?_ ?_ ?_
  · intro user' ip' c stored
    rw [Dict.nested_insert, Dict.lookup_insert_ite] at stored
    split_ifs at stored with sameUser sameIp
    · cases stored
      omega
    · exact known user ip' c stored
    · exact known user' ip' c stored
  · intro user' member
    rcases (AList.mem_insert _).mp member with same | member
    · rw [same]
    · exact coherent.placed _ user' member
  · have total := Dict.entryCount_insert (t.cleanupShards (shardIdx user)) user
      ((Dict.inner (t.cleanupShards (shardIdx user)) user).insert ip
        (((Dict.inner (t.cleanupShards (shardIdx user)) user).lookup ip).getD 0 + 1))
    simp only [enqueueCleanup, UserIpTracker.setQueue]
    cases found : (Dict.inner (t.cleanupShards (shardIdx user)) user).lookup ip with
    | none =>
      rw [found, Dict.size_insert_of_notMem _ (AList.lookup_eq_none.mp found)] at total
      rw [Option.getD_none, if_pos rfl]
      rw [Option.getD_none] at total
      omega
    | some c =>
      have positive := known user ip c found
      rw [found, Dict.size_insert_of_mem _ (Dict.mem_iff_lookup.mpr ⟨c, found⟩)] at total
      rw [Option.getD_some, if_neg (by omega)]
      rw [Option.getD_some] at total
      omega

theorem applyCleanups_spec (toRemove : List ((String × IpAddr) × Nat)) (acc : IpCounts × Nat) :
    let left := (toRemove.foldl (fun (acc : IpCounts × Nat) entry =>
      ((applyActiveCleanup acc.1 entry.1.1 entry.1.2 entry.2).1,
        acc.2 + (applyActiveCleanup acc.1 entry.1.1 entry.1.2 entry.2).2)) acc).1
    (∀ user ip, count left user ip = count acc.1 user ip - drainedCount toRemove user ip) ∧
      (Positive acc.1 → Positive left) := by
  induction toRemove generalizing acc with
  | nil => exact ⟨fun _ _ => rfl, id⟩
  | cons _ _ ih =>
    rw [List.foldl_cons]
    refine ⟨fun user ip => ?_, fun positive => ?_⟩
    · rw [(ih _).1, applyActiveCleanup_count, drainedCount, Nat.sub_sub]
    · exact (ih _).2 (applyActiveCleanup_positive positive _ _ _)

def Belongs (shardIdx : String → ShardIdx) (idx : ShardIdx)
    (toRemove : List ((String × IpAddr) × Nat)) : Prop :=
  ∀ entry ∈ toRemove, shardIdx entry.1.1 = idx

variable {idx : ShardIdx} {toRemove : List ((String × IpAddr) × Nat)} {user : String}

theorem drainedCount_of_belongs (belongs : Belongs shardIdx idx toRemove)
    (elsewhere : shardIdx user ≠ idx) (ip : IpAddr) : drainedCount toRemove user ip = 0 := by
  induction toRemove with
  | nil => rfl
  | cons entry _ ih =>
    have other : ¬(user = entry.1.1 ∧ ip = entry.1.2) := by
      rintro ⟨same, _⟩
      exact elsewhere (same ▸ belongs entry List.mem_cons_self)
    rw [drainedCount, if_neg other, ih fun e member => belongs e (List.mem_cons_of_mem _ member)]

theorem applyDrained_active (t : UserIpTracker)
    (belongs : Belongs shardIdx idx toRemove)
    (user : String) (ip : IpAddr) :
    activeCount shardIdx (applyDrained t idx toRemove) user ip =
      activeCount shardIdx t user ip - drainedCount toRemove user ip := by
  change activeCount shardIdx (t.setShard idx _) user ip = _
  rw [activeCount_setShard]
  by_cases here : shardIdx user = idx
  · rw [if_pos here, (applyCleanups_spec toRemove _).1, activeCount, here]
  · rw [if_neg here, drainedCount_of_belongs belongs here, Nat.sub_zero]

theorem applyDrained_coherent (coherent : Coherent shardIdx t) (idx : ShardIdx)
    (toRemove : List ((String × IpAddr) × Nat)) :
    Coherent shardIdx (applyDrained t idx toRemove) := by
  refine coherent_of_active coherent rfl rfl ?_
  apply positive_setShard coherent
  exact (applyCleanups_spec toRemove _).2 (coherent.activePositive idx)

structure Takes (shardIdx : String → ShardIdx) (t t' : UserIpTracker) (idx : ShardIdx)
    (toRemove : List ((String × IpAddr) × Nat)) : Prop where
  shards : t'.shards = t.shards
  limitPolicy : t'.limitPolicy = t.limitPolicy
  coherent : Coherent shardIdx t'
  belongs : Belongs shardIdx idx toRemove
  pending : ∀ user ip, pendingCount shardIdx t user ip =
    pendingCount shardIdx t' user ip + drainedCount toRemove user ip

theorem entryCount_le_queueLen (coherent : Coherent shardIdx t) (idx : ShardIdx) :
    Dict.entryCount (t.cleanupShards idx) ≤ t.cleanupQueueLen := by
  rw [coherent.queueLen]
  exact Finset.single_le_sum (f := fun i => Dict.entryCount (t.cleanupShards i))
    (fun _ _ => Nat.zero_le _) (Finset.mem_univ idx)

theorem takes_nothing (coherent : Coherent shardIdx t) (idx : ShardIdx) :
    Takes shardIdx t t idx [] :=
  ⟨rfl, rfl, coherent, nofun, fun _ _ => rfl⟩

variable {t' : UserIpTracker}

theorem Takes.active (takes : Takes shardIdx t t' idx toRemove) (user : String) (ip : IpAddr) :
    activeCount shardIdx t' user ip = activeCount shardIdx t user ip := by
  unfold activeCount
  rw [takes.shards]

theorem takeCleanupForUser_takes (coherent : Coherent shardIdx t) (user : String) :
    Takes shardIdx t (takeCleanupForUser shardIdx t user).1 (shardIdx user)
      (takeCleanupForUser shardIdx t user).2 := by
  unfold takeCleanupForUser
  by_cases none : t.cleanupQueueLen = 0
  · rw [if_pos none]
    exact takes_nothing coherent _
  · rw [if_neg none]
    have total := Dict.entryCount_erase (t.cleanupShards (shardIdx user)) user
    have counted := entryCount_le_queueLen coherent (shardIdx user)
    refine ⟨rfl, rfl, coherent_of_queue coherent rfl rfl ?_ ?_ ?_, ?_, ?_⟩
    · intro user' ip c stored
      rw [Dict.nested_erase] at stored
      split_ifs at stored
      exact coherent.pendingPositive _ user' ip c stored
    · intro user' member
      exact coherent.placed _ user' (AList.mem_erase.mp member).2
    · simp only [UserIpTracker.setQueue]
      omega
    · intro entry member
      obtain ⟨e, _, rfl⟩ := List.mem_map.mp member
      rfl
    · intro user' ip
      rw [drainedCount_inner]
      change _ = pendingCount shardIdx (t.setQueue _ _) user' ip + _
      rw [pendingCount_setQueue]
      unfold pendingCount count
      rw [Dict.nested_erase]
      by_cases same : user' = user
      · subst same
        simp [Dict.nested]
      · simp only [same, if_false, Nat.add_zero]
        split_ifs with here
        · rw [here]
        · rfl

theorem takeCleanupForUser_pending (coherent : Coherent shardIdx t) (user : String) (ip : IpAddr) :
    pendingCount shardIdx (takeCleanupForUser shardIdx t user).1 user ip = 0 := by
  unfold takeCleanupForUser
  by_cases none : t.cleanupQueueLen = 0
  · rw [if_pos none]
    have empty : Dict.entryCount (t.cleanupShards (shardIdx user)) = 0 := by
      have sum : ∑ i, Dict.entryCount (t.cleanupShards i) = 0 := by
        rw [← none, coherent.queueLen, queued]
      exact Finset.sum_eq_zero_iff.mp sum _ (Finset.mem_univ _)
    exact count_eq_zero_of_drained empty (coherent.pendingPositive _) user ip
  · rw [if_neg none]
    change pendingCount shardIdx (t.setQueue _ _) user ip = 0
    rw [pendingCount_setQueue, if_pos rfl, count, Dict.nested_erase, if_pos rfl]
    rfl

variable {ip : IpAddr}

theorem popOneCleanup_spec {queue rest : IpCounts} {c : Nat}
    (popped : popOneCleanup queue user ip = some (rest, c)) :
    Dict.nested queue user ip = some c ∧ user ∈ queue ∧ (∀ user' ∈ rest, user' ∈ queue) ∧
      (∀ user' ip', Dict.nested rest user' ip' =
        if user' = user ∧ ip' = ip then none else Dict.nested queue user' ip') ∧
      Dict.entryCount rest + 1 = Dict.entryCount queue := by
  unfold popOneCleanup at popped
  cases foundUser : queue.lookup user with
  | none => simp [foundUser] at popped
  | some userQueue =>
    have inner : Dict.inner queue user = userQueue := by simp [Dict.inner, foundUser]
    have present : user ∈ queue := Dict.mem_iff_lookup.mpr ⟨userQueue, foundUser⟩
    cases foundIp : userQueue.lookup ip with
    | none => simp [foundUser, foundIp] at popped
    | some c' =>
      have shape : rest = (if Dict.size (userQueue.erase ip) = 0 then queue.erase user
          else queue.insert user (userQueue.erase ip)) ∧ c' = c := by
        simp only [foundUser, foundIp] at popped
        split_ifs at popped ⊢ <;> simpa [eq_comm] using popped
      obtain ⟨rfl, rfl⟩ := shape
      refine ⟨by rw [Dict.nested, inner, foundIp], present, ?_, ?_, ?_⟩
      · intro user' member
        split_ifs at member
        · exact (AList.mem_erase.mp member).2
        · rcases (AList.mem_insert _).mp member with same | member
          · rw [same]
            exact present
          · exact member
      · intro user' ip'
        rw [Dict.nested_store, Dict.lookup_erase_ite]
        by_cases sameUser : user' = user
        · subst sameUser
          simp [Dict.nested, inner]
        · simp [sameUser]
      · have total := Dict.entryCount_store queue user (userQueue.erase ip)
        have smaller := Dict.size_erase_of_mem (Dict.mem_iff_lookup.mpr ⟨c', foundIp⟩)
        rw [inner] at total
        omega

theorem popOneCleanup_takes (coherent : Coherent shardIdx t) {rest : IpCounts} {c : Nat}
    (popped : popOneCleanup (t.cleanupShards idx) user ip = some (rest, c)) :
    Takes shardIdx t { t.setQueue idx rest with cleanupQueueLen := t.cleanupQueueLen - 1 } idx
      [((user, ip), c)] := by
  obtain ⟨found, present, subset, lookup, _⟩ := popOneCleanup_spec popped
  have counted := entryCount_le_queueLen coherent idx
  refine ⟨rfl, rfl, coherent_of_queue coherent rfl rfl ?_ ?_ ?_, ?_, ?_⟩
  · intro user' ip' c' stored
    rw [lookup] at stored
    split_ifs at stored
    exact coherent.pendingPositive idx user' ip' c' stored
  · intro user' member
    exact coherent.placed idx user' (subset user' member)
  · simp only
    omega
  · intro entry member
    rw [List.mem_singleton.mp member]
    exact coherent.placed idx user present
  · intro user' ip'
    change _ = pendingCount shardIdx (t.setQueue _ _) user' ip' + _
    rw [pendingCount_setQueue]
    unfold pendingCount count
    simp only [drainedCount, Nat.add_zero, lookup]
    by_cases same : user' = user ∧ ip' = ip
    · obtain ⟨rfl, rfl⟩ := same
      simp [coherent.placed idx user' present, found]
    · simp only [same, if_false, Nat.add_zero]
      split_ifs with here
      · rw [here]
      · rfl

variable {t'' : UserIpTracker}

theorem Takes.trans {first second : List ((String × IpAddr) × Nat)}
    (left : Takes shardIdx t t' idx first) (right : Takes shardIdx t' t'' idx second) :
    Takes shardIdx t t'' idx (first ++ second) := by
  refine ⟨right.shards.trans left.shards, right.limitPolicy.trans left.limitPolicy,
    right.coherent, ?_, ?_⟩
  · intro entry member
    rcases List.mem_append.mp member with member | member
    · exact left.belongs entry member
    · exact right.belongs entry member
  · intro user ip
    rw [left.pending, right.pending, drainedCount_append]
    omega

theorem takeCleanupShard_takes (coherent : Coherent shardIdx t) (idx : ShardIdx)
    (picks : List (String × IpAddr)) :
    Takes shardIdx t (takeCleanupShard t idx picks).1 idx (takeCleanupShard t idx picks).2 := by
  generalize picks.take cleanupDrainBatchLimit = picks
  refine List.foldlRecOn (motive := fun acc : UserIpTracker × List ((String × IpAddr) × Nat) =>
    Takes shardIdx t acc.1 idx acc.2) _ _ (takes_nothing coherent idx) ?_
  intro acc collected pick _
  cases popped : popOneCleanup (acc.1.cleanupShards idx) pick.1 pick.2 with
  | none => exact collected
  | some => exact collected.trans (popOneCleanup_takes collected.coherent popped)

structure Drains (shardIdx : String → ShardIdx) (t t' : UserIpTracker)
    (drained : String → IpAddr → Nat) : Prop where
  coherent : Coherent shardIdx t'
  active : ∀ user ip, activeCount shardIdx t' user ip =
    activeCount shardIdx t user ip - drained user ip
  pending : ∀ user ip, pendingCount shardIdx t user ip =
    pendingCount shardIdx t' user ip + drained user ip
  recent : ∀ idx, (t'.shards idx).recentIps = (t.shards idx).recentIps
  limitPolicy : t'.limitPolicy = t.limitPolicy

theorem applyDrained_recent (t : UserIpTracker) (idx : ShardIdx)
    (toRemove : List ((String × IpAddr) × Nat)) (i : ShardIdx) :
    ((applyDrained t idx toRemove).shards i).recentIps = (t.shards i).recentIps := by
  simp only [applyDrained, UserIpTracker.shards_setShard]
  split_ifs with here
  · rw [here]
  · rfl

theorem Takes.drains (takes : Takes shardIdx t t' idx toRemove) :
    Drains shardIdx t (if toRemove = [] then t' else applyDrained t' idx toRemove)
      (drainedCount toRemove) := by
  by_cases nothing : toRemove = []
  · subst nothing
    rw [if_pos rfl]
    exact ⟨takes.coherent, takes.active, takes.pending, fun idx => by rw [takes.shards],
      takes.limitPolicy⟩
  · rw [if_neg nothing]
    refine ⟨applyDrained_coherent takes.coherent idx toRemove, ?_, takes.pending, ?_,
      takes.limitPolicy⟩
    · intro user ip
      rw [applyDrained_active t' takes.belongs, takes.active]
    · intro i
      rw [applyDrained_recent, takes.shards]

theorem drainCleanupForUser_drains (coherent : Coherent shardIdx t) (user : String) :
    Drains shardIdx t (drainCleanupForUser shardIdx t user)
      (drainedCount (takeCleanupForUser shardIdx t user).2) :=
  (takeCleanupForUser_takes coherent user).drains

theorem drainCleanupForUser_pending (coherent : Coherent shardIdx t) (user : String) (ip : IpAddr) :
    pendingCount shardIdx (drainCleanupForUser shardIdx t user) user ip = 0 := by
  have before := (takeCleanupForUser_takes coherent user).pending user ip
  have after := (drainCleanupForUser_drains coherent user).pending user ip
  have cleared := takeCleanupForUser_pending coherent user ip
  omega

structure Stores (t t' : UserIpTracker) (idx : ShardIdx) (user : String)
    (userActive : Dict IpAddr Nat) (userRecent : Dict IpAddr Instant) : Prop where
  active : ∀ i user', Dict.inner (t'.shards i).activeIps user' =
    if i = idx ∧ user' = user then userActive else Dict.inner (t.shards i).activeIps user'
  recent : ∀ i user', Dict.inner (t'.shards i).recentIps user' =
    if i = idx ∧ user' = user then userRecent else Dict.inner (t.shards i).recentIps user'
  queues : t'.cleanupShards = t.cleanupShards
  queueLen : t'.cleanupQueueLen = t.cleanupQueueLen
  limitPolicy : t'.limitPolicy = t.limitPolicy

variable {userActive : Dict IpAddr Nat} {userRecent : Dict IpAddr Instant}

theorem Stores.trans {userActive' : Dict IpAddr Nat} {userRecent' : Dict IpAddr Instant}
    (first : Stores t t' idx user userActive userRecent)
    (second : Stores t' t'' idx user userActive' userRecent') :
    Stores t t'' idx user userActive' userRecent' := by
  refine ⟨?_, ?_, second.queues.trans first.queues, second.queueLen.trans first.queueLen,
    second.limitPolicy.trans first.limitPolicy⟩
  · intro i user'
    rw [second.active, first.active]
    split_ifs <;> rfl
  · intro i user'
    rw [second.recent, first.recent]
    split_ifs <;> rfl

theorem stores_same (shards : t'.shards = t.shards) (queues : t'.cleanupShards = t.cleanupShards)
    (len : t'.cleanupQueueLen = t.cleanupQueueLen) (policy : t'.limitPolicy = t.limitPolicy)
    (idx : ShardIdx) (user : String) :
    Stores t t' idx user (Dict.inner (t.shards idx).activeIps user)
      (Dict.inner (t.shards idx).recentIps user) := by
  refine ⟨?_, ?_, queues, len, policy⟩
  all_goals
    intro i user'
    rw [shards]
    split_ifs with here
    · rw [here.1, here.2]
    · rfl

theorem stores_setShard {shard : UserIpShard} (shards : t'.shards = (t.setShard idx shard).shards)
    (queues : t'.cleanupShards = t.cleanupShards) (len : t'.cleanupQueueLen = t.cleanupQueueLen)
    (policy : t'.limitPolicy = t.limitPolicy)
    (active : ∀ user', Dict.inner shard.activeIps user' = if user' = user then userActive else
      Dict.inner (t.shards idx).activeIps user')
    (recent : ∀ user', Dict.inner shard.recentIps user' = if user' = user then userRecent else
      Dict.inner (t.shards idx).recentIps user') :
    Stores t t' idx user userActive userRecent := by
  refine ⟨?_, ?_, queues, len, policy⟩
  all_goals
    intro i user'
    rw [shards, UserIpTracker.shards_setShard]
    by_cases here : i = idx
    · simp only [here, if_true, true_and, active, recent]
    · simp only [here, if_false, false_and]

theorem inner_orDefault {υ : Type} (d : Dict String (Dict IpAddr υ)) (user user' : String) :
    Dict.inner (orDefault d user) user' = Dict.inner d user' := by
  unfold orDefault
  split_ifs with present
  · rfl
  · rw [Dict.inner_insert]
    split_ifs with same
    · rw [same, Dict.inner, AList.lookup_eq_none.mpr present]
      rfl
    · rfl

theorem openUser_stores (t : UserIpTracker) (username : String) (window : Duration) (now : Instant) :
    Stores t (openUser shardIdx t username window now) (shardIdx username) username
      (Dict.inner (t.shards (shardIdx username)).activeIps username)
      (pruneRecent (Dict.inner (t.shards (shardIdx username)).recentIps username) now window).1 := by
  refine stores_setShard rfl rfl rfl rfl ?_ ?_
  · intro user'
    rw [inner_orDefault]
    split_ifs with same
    · rw [same]
    · rfl
  · intro user'
    rw [Dict.inner_insert, inner_orDefault, inner_orDefault]
    rfl

theorem recordIp_stores (shards : t'.shards = t.shards)
    (queues : t'.cleanupShards = t.cleanupShards) (len : t'.cleanupQueueLen = t.cleanupQueueLen)
    (policy : t'.limitPolicy = t.limitPolicy) (username : String) (ip : IpAddr) (c : Nat)
    (now : Instant) :
    Stores t (recordIp shardIdx t' username ip c now) (shardIdx username) username
      ((Dict.inner (t.shards (shardIdx username)).activeIps username).insert ip c)
      ((Dict.inner (t.shards (shardIdx username)).recentIps username).insert ip now) := by
  have opened := stores_same shards queues len policy (shardIdx username) username
  refine opened.trans ?_
  rw [← shards]
  exact stores_setShard rfl rfl rfl rfl (fun user' => Dict.inner_insert _ username user' _)
    (fun user' => Dict.inner_insert _ username user' _)

theorem limitDenies_eq_false {limit : Option Nat} {mode : UserMaxUniqueIpsMode}
    {activeLen recentLen : Nat} {isNewIp : Bool} {l : Nat} (limited : limit = some l)
    (passed : limitDenies limit mode activeLen recentLen isNewIp = false) :
    (mode ≠ .timeWindow → activeLen < l) ∧
      (mode ≠ .activeWindow → isNewIp = true → recentLen < l) := by
  subst limited
  cases mode with
  | activeWindow => simpa [limitDenies] using passed
  | timeWindow =>
    simp only [limitDenies, Bool.and_eq_false_iff, decide_eq_false_iff_not] at passed
    refine ⟨fun other => absurd rfl other, fun _ new => ?_⟩
    rcases passed with below | known
    · omega
    · simp [new] at known
  | combined =>
    simp only [limitDenies, Bool.or_eq_false_iff, Bool.and_eq_false_iff,
      decide_eq_false_iff_not] at passed
    refine ⟨fun _ => by omega, fun _ new => ?_⟩
    rcases passed.2 with below | known
    · omega
    · simp [new] at known

/-- What an admission answers and stores, given the addresses of the user before it. -/
def AdmitOutcome (t : UserIpTracker) (idx : ShardIdx) (username : String) (ip : IpAddr)
    (limit : Option Nat) (mode : UserMaxUniqueIpsMode) (now : Instant) (userActive : Dict IpAddr Nat)
    (userRecent : Dict IpAddr Instant) (result : UserIpTracker × Except String Unit) : Prop :=
  (∃ message, result.2 = .error message ∧
    Stores t result.1 idx username userActive userRecent) ∨
  (result.2 = .ok () ∧
    (ip ∈ userActive ∨ ip ∉ userActive ∧ limitDenies limit mode (Dict.size userActive)
      (Dict.size userRecent) (!decide (ip ∈ userRecent)) = false) ∧
    Stores t result.1 idx username
      (userActive.insert ip ((userActive.lookup ip).getD 0 + 1)) (userRecent.insert ip now))

theorem admitOpened_cases (t : UserIpTracker) (username : String) (ip : IpAddr)
    (limit : Option Nat) (mode : UserMaxUniqueIpsMode) (now : Instant) :
    AdmitOutcome t (shardIdx username) username ip limit mode now
      (Dict.inner (t.shards (shardIdx username)).activeIps username)
      (Dict.inner (t.shards (shardIdx username)).recentIps username)
      (admitOpened shardIdx t username ip limit mode now) := by
  unfold admitOpened
  dsimp only
  split
  · next active =>
      split
      · exact .inr ⟨rfl, .inl active, by apply recordIp_stores <;> rfl⟩
      · split
        · exact .inl ⟨_, rfl, by apply stores_same <;> rfl⟩
        · exact .inr ⟨rfl, .inl active, by apply recordIp_stores <;> rfl⟩
  · next inactive =>
      have fresh : ((Dict.inner (t.shards (shardIdx username)).activeIps username).lookup ip).getD 0 +
          1 = 1 := by
        rw [AList.lookup_eq_none.mpr inactive]
        rfl
      unfold AdmitOutcome
      rw [fresh]
      split
      · exact .inl ⟨_, rfl, by apply stores_same <;> rfl⟩
      · next denied =>
          have passed := And.intro inactive (Bool.eq_false_iff.mpr denied)
          split
          · exact .inl ⟨_, rfl, by apply stores_same <;> rfl⟩
          · split
            · split
              · exact .inl ⟨_, rfl, by apply stores_same <;> rfl⟩
              · exact .inr ⟨rfl, .inr passed, by apply recordIp_stores <;> rfl⟩
            · exact .inr ⟨rfl, .inr passed, by apply recordIp_stores <;> rfl⟩

theorem checkAndAddLocked_cases (t : UserIpTracker) (username : String) (ip : IpAddr)
    (limit : Option Nat) (mode : UserMaxUniqueIpsMode) (window : Duration) (now : Instant) :
    AdmitOutcome t (shardIdx username) username ip limit mode now
      (Dict.inner (t.shards (shardIdx username)).activeIps username)
      (pruneRecent (Dict.inner (t.shards (shardIdx username)).recentIps username) now window).1
      (checkAndAddLocked shardIdx t username ip limit mode window now) := by
  have opened := @openUser_stores shardIdx t username window now
  have active := opened.active (shardIdx username) username
  have recent := opened.recent (shardIdx username) username
  rw [if_pos ⟨rfl, rfl⟩] at active recent
  have cases := @admitOpened_cases shardIdx (openUser shardIdx t username window now)
    username ip limit mode now
  rw [active, recent] at cases
  rcases cases with ⟨message, refused, stores⟩ | ⟨admitted, passed, stores⟩
  · exact Or.inl ⟨message, refused, opened.trans stores⟩
  · exact Or.inr ⟨admitted, passed, opened.trans stores⟩

theorem Stores.activeCount
    (stores : Stores t t' (shardIdx user) user userActive userRecent) (user' : String) (ip : IpAddr) :
    activeCount shardIdx t' user' ip =
      if user' = user then (userActive.lookup ip).getD 0 else activeCount shardIdx t user' ip := by
  unfold IpTracker.activeCount count Dict.nested
  rw [stores.active]
  by_cases same : user' = user
  · rw [if_pos ⟨same ▸ rfl, same⟩, if_pos same]
  · rw [if_neg fun here => same here.2, if_neg same]

theorem Stores.pendingCount
    (stores : Stores t t' idx user userActive userRecent) (user' : String) (ip : IpAddr) :
    pendingCount shardIdx t' user' ip = pendingCount shardIdx t user' ip := by
  unfold IpTracker.pendingCount
  rw [stores.queues]

theorem Stores.coherent (stores : Stores t t' idx user userActive userRecent)
    (before : Coherent shardIdx t) (positive : ∀ ip c, userActive.lookup ip = some c → 0 < c) :
    Coherent shardIdx t' := by
  refine coherent_of_active before stores.queues stores.queueLen ?_
  intro i user' ip c stored
  rw [Dict.nested, stores.active] at stored
  split_ifs at stored
  · exact positive ip c stored
  · exact before.activePositive i user' ip c stored

theorem positive_insert {username : String} (coherent : Coherent shardIdx t) (c : Nat) :
    ∀ ip' c', ((Dict.inner (t.shards (shardIdx username)).activeIps username).insert ip
      (c + 1)).lookup ip' = some c' → 0 < c' := by
  intro ip' c' stored
  rw [Dict.lookup_insert_ite] at stored
  split_ifs at stored
  · cases stored
    omega
  · exact coherent.activePositive _ username ip' c' stored

theorem activeCount_admitted
    (stores : Stores t t' (shardIdx user) user ((Dict.inner (t.shards (shardIdx user)).activeIps
      user).insert ip (((Dict.inner (t.shards (shardIdx user)).activeIps user).lookup ip).getD 0 +
      1)) userRecent)
    (user' : String) (ip' : IpAddr) :
    activeCount shardIdx t' user' ip' =
      activeCount shardIdx t user' ip' + if user' = user ∧ ip' = ip then 1 else 0 := by
  rw [stores.activeCount, Dict.lookup_insert_ite]
  by_cases sameUser : user' = user
  · subst sameUser
    by_cases sameIp : ip' = ip
    · subst sameIp
      simp [activeCount, count, Dict.nested]
    · simp [sameIp, activeCount, count, Dict.nested]
  · simp [sameUser]

theorem removeIpLocked_eq (t : UserIpTracker) (username : String) (ip : IpAddr) :
    removeIpLocked shardIdx t username ip =
      applyDrained t (shardIdx username) [((username, ip), 1)] := by
  unfold removeIpLocked applyDrained applyActiveCleanup
  cases foundUser : (t.shards (shardIdx username)).activeIps.lookup username with
  | none =>
    simp only [List.foldl_cons, List.foldl_nil, foundUser, decrementCounter]
    have same : t.setShard (shardIdx username) (t.shards (shardIdx username)) = t := by
      unfold UserIpTracker.setShard
      rw [Function.update_eq_self]
    simp [same]
  | some userIps =>
    cases foundIp : userIps.lookup ip with
    | none | some c =>
      simp only [List.foldl_cons, List.foldl_nil, foundUser, foundIp]
      split_ifs <;> simp_all

theorem removeIpLocked_active (t : UserIpTracker) (user : String) (ip : IpAddr) (user' : String)
    (ip' : IpAddr) :
    activeCount shardIdx (removeIpLocked shardIdx t user ip) user' ip' =
      activeCount shardIdx t user' ip' - if user' = user ∧ ip' = ip then 1 else 0 := by
  have belongs : Belongs shardIdx (shardIdx user) [((user, ip), 1)] := by
    intro entry member
    rw [List.mem_singleton.mp member]
  rw [removeIpLocked_eq, applyDrained_active t belongs]
  rfl

theorem clearUserIps_stores (t : UserIpTracker) (username : String) :
    Stores t (clearUserIps shardIdx t username) (shardIdx username) username ∅ ∅ :=
  stores_setShard rfl rfl rfl rfl (fun user' => Dict.inner_erase _ username user')
    (fun user' => Dict.inner_erase _ username user')

structure Compacts (now : Instant) (window : Duration) (t t' : UserIpTracker) : Prop where
  active : ∀ i user, Dict.inner (t'.shards i).activeIps user = Dict.inner (t.shards i).activeIps user
  recent : ∀ i user, Dict.inner (t'.shards i).recentIps user = Dict.inner (t.shards i).recentIps user ∨
    Dict.inner (t'.shards i).recentIps user =
      (pruneRecent (Dict.inner (t.shards i).recentIps user) now window).1
  queues : t'.cleanupShards = t.cleanupShards
  queueLen : t'.cleanupQueueLen = t.cleanupQueueLen
  limitPolicy : t'.limitPolicy = t.limitPolicy

theorem pruneRecent_idem (userRecent : Dict IpAddr Instant) (now : Instant) (window : Duration) :
    (pruneRecent (pruneRecent userRecent now window).1 now window).1 =
      (pruneRecent userRecent now window).1 := by
  apply AList.ext
  simp [pruneRecent, Dict.retain]

theorem inner_pruned (recentIps : IpTimes) (now : Instant) (window : Duration) (user : String) :
    Dict.inner (Dict.mapValues Prod.fst (Dict.mapValues
      (fun userRecent => pruneRecent userRecent now window) recentIps)) user =
      (pruneRecent (Dict.inner recentIps user) now window).1 := by
  unfold Dict.inner
  rw [Dict.lookup_mapValues, Dict.lookup_mapValues]
  cases recentIps.lookup user <;> rfl

theorem sweep_inner (users : List String) (shard : UserIpShard) (user : String) :
    let swept := users.foldl (fun (acc : UserIpShard) user =>
      if Dict.size (Dict.inner acc.activeIps user) = 0 ∧
          Dict.size (Dict.inner acc.recentIps user) = 0 then
        { activeIps := acc.activeIps.erase user, recentIps := acc.recentIps.erase user }
      else acc) shard
    Dict.inner swept.activeIps user = Dict.inner shard.activeIps user ∧
      Dict.inner swept.recentIps user = Dict.inner shard.recentIps user := by
  refine List.foldlRecOn (motive := fun acc : UserIpShard =>
    Dict.inner acc.activeIps user = Dict.inner shard.activeIps user ∧
      Dict.inner acc.recentIps user = Dict.inner shard.recentIps user) _ _ ⟨rfl, rfl⟩ ?_
  intro acc kept dropped _
  split_ifs with empty
  · rw [Dict.inner_erase, Dict.inner_erase]
    by_cases same : user = dropped
    · subst same
      have noActive : Dict.inner acc.activeIps user = ∅ := AList.ext (List.length_eq_zero_iff.mp empty.1)
      have noRecent : Dict.inner acc.recentIps user = ∅ := AList.ext (List.length_eq_zero_iff.mp empty.2)
      rw [if_pos rfl, if_pos rfl, ← kept.1, ← kept.2, noActive, noRecent]
      exact ⟨rfl, rfl⟩
    · rw [if_neg same, if_neg same]
      exact kept
  · exact kept

theorem compactShard_compacts (t : UserIpTracker) (now : Instant) (window : Duration)
    (idx : ShardIdx) : Compacts now window t (compactShard t now window idx) := by
  refine ⟨?_, ?_, rfl, rfl, rfl⟩
  · intro i user
    simp only [compactShard, UserIpTracker.shards_setShard]
    split_ifs with here
    · rw [here, (sweep_inner _ _ user).1]
    · rfl
  · intro i user
    simp only [compactShard, UserIpTracker.shards_setShard]
    split_ifs with here
    · right
      rw [here, (sweep_inner _ _ user).2, inner_pruned]
    · exact Or.inl rfl

variable {now : Instant} {window : Duration}

theorem Compacts.trans (first : Compacts now window t t') (second : Compacts now window t' t'') :
    Compacts now window t t'' := by
  refine ⟨fun i user => (second.active i user).trans (first.active i user), ?_,
    second.queues.trans first.queues, second.queueLen.trans first.queueLen,
    second.limitPolicy.trans first.limitPolicy⟩
  intro i user
  rcases first.recent i user with kept | pruned <;> rcases second.recent i user with kept' | pruned'
  · exact Or.inl (kept'.trans kept)
  · exact Or.inr (by rw [pruned', kept])
  · exact Or.inr (by rw [kept', pruned])
  · exact Or.inr (by rw [pruned', pruned, pruneRecent_idem])

theorem maybeCompactEmptyUsers_compacts (t : UserIpTracker) (clock : Clock) :
    Compacts clock.now t.limitWindow t (maybeCompactEmptyUsers t clock) := by
  have same : Compacts clock.now t.limitWindow t t :=
    ⟨fun _ _ => rfl, fun _ _ => Or.inl rfl, rfl, rfl, rfl⟩
  unfold maybeCompactEmptyUsers
  split_ifs
  · refine List.foldlRecOn (motive := fun acc => Compacts clock.now t.limitWindow t acc) _ _
      ⟨same.active, same.recent, rfl, rfl, rfl⟩ ?_
    intro acc compacted idx _
    exact compacted.trans (compactShard_compacts acc clock.now _ idx)
  · exact same

theorem Compacts.activeCount (compacts : Compacts now window t t')
    (user : String) (ip : IpAddr) :
    activeCount shardIdx t' user ip = activeCount shardIdx t user ip := by
  unfold IpTracker.activeCount count Dict.nested
  rw [compacts.active]

theorem Compacts.pendingCount (compacts : Compacts now window t t')
    (user : String) (ip : IpAddr) :
    pendingCount shardIdx t' user ip = pendingCount shardIdx t user ip := by
  unfold IpTracker.pendingCount
  rw [compacts.queues]

theorem Compacts.coherent (compacts : Compacts now window t t') (before : Coherent shardIdx t) :
    Coherent shardIdx t' := by
  refine coherent_of_active before compacts.queues compacts.queueLen ?_
  intro i user ip c stored
  rw [Dict.nested, compacts.active] at stored
  exact before.activePositive i user ip c stored

theorem userLimit_congr (policy : t'.limitPolicy = t.limitPolicy) (username : String) :
    t'.userLimit username = t.userLimit username := by
  simp only [UserIpTracker.limitPolicy, LimitPolicy.mk.injEq] at policy
  unfold UserIpTracker.userLimit
  rw [policy.1, policy.2.1]

theorem limitWindow_congr (policy : t'.limitPolicy = t.limitPolicy) :
    t'.limitWindow = t.limitWindow := by
  have secs : t'.limitWindowSecs = t.limitWindowSecs := congrArg LimitPolicy.limitWindowSecs policy
  rw [UserIpTracker.limitWindow, secs, UserIpTracker.limitWindow]

theorem limitMode_congr (policy : t'.limitPolicy = t.limitPolicy) :
    t'.limitMode = t.limitMode := congrArg LimitPolicy.limitMode policy

theorem checkAndAdd_cases (coherent : Coherent shardIdx t) (clock : Clock) (username : String)
    (ip : IpAddr) :
    ∃ t₁ t₂ drained, Drains shardIdx t t₁ drained ∧
      (∀ ip', pendingCount shardIdx t₁ username ip' = 0) ∧
      Compacts clock.now t.limitWindow t₁ t₂ ∧
      AdmitOutcome t₂ (shardIdx username) username ip (t.userLimit username) t.limitMode clock.now
        (Dict.inner (t₂.shards (shardIdx username)).activeIps username)
        (pruneRecent (Dict.inner (t₂.shards (shardIdx username)).recentIps username) clock.now
          t.limitWindow).1
        (checkAndAdd shardIdx t clock username ip) := by
  have drains := drainCleanupForUser_drains coherent username
  have compacts := maybeCompactEmptyUsers_compacts (drainCleanupForUser shardIdx t username) clock
  have policy := compacts.limitPolicy.trans drains.limitPolicy
  rw [limitWindow_congr drains.limitPolicy] at compacts
  refine ⟨_, _, _, drains, drainCleanupForUser_pending coherent username, compacts, ?_⟩
  have value : checkAndAdd shardIdx t clock username ip = checkAndAddLocked shardIdx
      (maybeCompactEmptyUsers (drainCleanupForUser shardIdx t username) clock) username ip
      (t.userLimit username) t.limitMode t.limitWindow clock.now := by
    unfold checkAndAdd
    dsimp only
    rw [userLimit_congr policy, limitMode_congr policy, limitWindow_congr policy]
  rw [value]
  exact checkAndAddLocked_cases _ username ip _ _ _ _

end Telemt.IpTracker
