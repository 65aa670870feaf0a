import Telemt.IpTracker.Model

namespace Telemt.IpTracker
open Foundation

variable (d : IpCounts) (user : String)

def count (ip : IpAddr) : Nat := (Dict.nested d user ip).getD 0

def Positive : Prop := ∀ user ip c, Dict.nested d user ip = some c → 0 < c

theorem count_pos_iff {d : IpCounts} (positive : Positive d) (user : String) (ip : IpAddr) :
    0 < count d user ip ↔ ip ∈ Dict.inner d user := by
  rw [Dict.mem_iff_lookup]
  unfold count Dict.nested
  cases found : (Dict.inner d user).lookup ip with
  | none => simp
  | some c => simpa using positive user ip c found

theorem count_eq_zero_of_drained {queue : IpCounts} (drained : Dict.entryCount queue = 0)
    (positive : Positive queue) (username : String) (ip : IpAddr) : count queue username ip = 0 := by
  have bound := Dict.size_inner_le_entryCount queue username
  have absent : ip ∉ Dict.inner queue username := by
    intro member
    have := Dict.size_erase_of_mem member
    omega
  rw [← count_pos_iff positive] at absent
  exact Nat.eq_zero_of_not_pos absent

theorem applyActiveCleanup_nested (ip : IpAddr) (pending : Nat) (user' : String) (ip' : IpAddr) :
    Dict.nested (applyActiveCleanup d user ip pending).1 user' ip' =
      if user' = user ∧ ip' = ip then
        (Dict.nested d user ip).bind fun c =>
          if pending = 0 ∨ c > pending then some (c - pending) else none
      else Dict.nested d user' ip' := by
  unfold applyActiveCleanup
  by_cases zero : pending = 0
  · subst zero
    by_cases same : user' = user ∧ ip' = ip
    · obtain ⟨rfl, rfl⟩ := same
      cases found : Dict.nested d user' ip' <;> simp [found]
    · simp [same]
  cases foundUser : d.lookup user with
  | none =>
    have absent : Dict.nested d user ip = none := by simp [Dict.nested, Dict.inner, foundUser]
    split_ifs with same
    · obtain ⟨rfl, rfl⟩ := same
      simp [zero, absent]
    · simp
  | some userIps =>
    have inner : Dict.inner d user = userIps := by simp [Dict.inner, foundUser]
    cases foundIp : userIps.lookup ip with
    | none =>
      simp only [foundIp, zero, if_false, apply_ite Prod.fst, Dict.nested_store]
      have absent : Dict.nested d user ip = none := by simp [Dict.nested, inner, foundIp]
      by_cases sameUser : user' = user
      · subst sameUser
        by_cases sameIp : ip' = ip
        · subst sameIp
          simp [absent, foundIp]
        · simp [sameIp, Dict.nested, inner]
      · simp [sameUser]
    | some c =>
      have present : Dict.nested d user ip = some c := by simp [Dict.nested, inner, foundIp]
      by_cases more : c > pending
      all_goals
        simp only [foundIp, zero, if_false, more, if_true, apply_ite Prod.fst, Dict.nested_store]
        by_cases sameUser : user' = user
        · subst sameUser
          by_cases sameIp : ip' = ip
          · subst sameIp
            simp [present, more]
          · simp [sameIp, Dict.nested, inner]
        · simp [sameUser]

theorem applyActiveCleanup_count (ip : IpAddr) (pending : Nat) (user' : String) (ip' : IpAddr) :
    count (applyActiveCleanup d user ip pending).1 user' ip' =
      count d user' ip' - if user' = user ∧ ip' = ip then pending else 0 := by
  unfold count
  rw [applyActiveCleanup_nested]
  by_cases same : user' = user ∧ ip' = ip
  · obtain ⟨rfl, rfl⟩ := same
    simp only [and_self, if_true]
    cases found : Dict.nested d user' ip' with
    | none => simp
    | some c =>
      simp only [Option.bind_some, Option.getD_some]
      split_ifs with kept
      · rfl
      · simp only [Option.getD_none]
        omega
  · simp [same]

theorem applyActiveCleanup_positive {d : IpCounts} (positive : Positive d) (user : String)
    (ip : IpAddr) (pending : Nat) : Positive (applyActiveCleanup d user ip pending).1 := by
  intro user' ip' c stored
  rw [applyActiveCleanup_nested] at stored
  split_ifs at stored with same
  · obtain ⟨c₀, found, kept⟩ := Option.bind_eq_some_iff.mp stored
    have before := positive user ip c₀ found
    split_ifs at kept with more
    · cases kept
      omega
  · exact positive user' ip' c stored

def drainedCount : List ((String × IpAddr) × Nat) → String → IpAddr → Nat
  | [], _, _ => 0
  | entry :: rest, user, ip =>
    (if user = entry.1.1 ∧ ip = entry.1.2 then entry.2 else 0) + drainedCount rest user ip

theorem drainedCount_append (first second : List ((String × IpAddr) × Nat)) (user : String)
    (ip : IpAddr) :
    drainedCount (first ++ second) user ip =
      drainedCount first user ip + drainedCount second user ip := by
  induction first with
  | nil => simp [drainedCount]
  | cons _ _ ih =>
    simp only [List.cons_append, drainedCount, ih]
    omega

theorem drainedCount_inner (userQueue : Dict IpAddr Nat) (user user' : String) (ip : IpAddr) :
    drainedCount (userQueue.entries.map fun e => ((user, e.1), e.2)) user' ip =
      if user' = user then (userQueue.lookup ip).getD 0 else 0 := by
  obtain ⟨entries, distinct⟩ := userQueue
  simp only [AList.lookup]
  induction entries with
  | nil => simp [drainedCount]
  | cons e entries ih =>
    obtain ⟨key, c⟩ := e
    obtain ⟨fresh, distinct⟩ := List.nodupKeys_cons.mp distinct
    simp only [List.map_cons, drainedCount, ih distinct]
    by_cases sameUser : user' = user
    · by_cases sameIp : ip = key
      · subst sameIp
        have absent : List.dlookup ip entries = none := List.dlookup_eq_none.mpr fresh
        simp [sameUser, absent]
      · have skipped : List.dlookup ip (⟨key, c⟩ :: entries) = List.dlookup ip entries :=
          List.dlookup_cons_ne entries ⟨key, c⟩ sameIp
        simp [sameUser, sameIp, skipped]
    · simp [sameUser]

section Tracker
variable (shardIdx : String → ShardIdx)

def activeCount (t : UserIpTracker) (user : String) (ip : IpAddr) : Nat :=
  count (t.shards (shardIdx user)).activeIps user ip

def pendingCount (t : UserIpTracker) (user : String) (ip : IpAddr) : Nat :=
  count (t.cleanupShards (shardIdx user)) user ip

def ActiveIp (t : UserIpTracker) (user : String) (ip : IpAddr) : Prop :=
  ip ∈ Dict.inner (t.shards (shardIdx user)).activeIps user

instance (t : UserIpTracker) (user : String) (ip : IpAddr) : Decidable (ActiveIp shardIdx t user ip) :=
  inferInstanceAs (Decidable (ip ∈ Dict.inner _ user))

def queued (t : UserIpTracker) : Nat := ∑ idx, Dict.entryCount (t.cleanupShards idx)

def QueueDrained (t : UserIpTracker) : Prop := ∀ idx, Dict.entryCount (t.cleanupShards idx) = 0

instance (t : UserIpTracker) : Decidable (QueueDrained t) :=
  inferInstanceAs (Decidable (∀ idx, Dict.entryCount (t.cleanupShards idx) = 0))

structure Coherent (t : UserIpTracker) : Prop where
  activePositive : ∀ idx, Positive (t.shards idx).activeIps
  pendingPositive : ∀ idx, Positive (t.cleanupShards idx)
  placed : ∀ idx user, user ∈ t.cleanupShards idx → shardIdx user = idx
  queueLen : t.cleanupQueueLen = queued t

variable {shardIdx}

variable {t : UserIpTracker}

theorem activeIp_iff (coherent : Coherent shardIdx t) (user : String) (ip : IpAddr) :
    ActiveIp shardIdx t user ip ↔ 0 < activeCount shardIdx t user ip :=
  (count_pos_iff (coherent.activePositive _) user ip).symm

theorem coherent_of_empty (shards : t.shards = fun _ => {}) (queues : t.cleanupShards = fun _ => ∅)
    (len : t.cleanupQueueLen = 0) : Coherent shardIdx t := by
  refine ⟨?_, ?_, ?_, ?_⟩
  · intro idx user ip c stored
    rw [shards] at stored
    cases stored
  · intro idx user ip c stored
    rw [queues] at stored
    cases stored
  · intro idx user member
    rw [queues] at member
    exact absurd member (AList.notMem_empty user)
  · rw [len, queued, queues]
    exact (Finset.sum_eq_zero fun _ _ => rfl).symm

theorem coherent_of_active {t' : UserIpTracker} (coherent : Coherent shardIdx t)
    (queues : t'.cleanupShards = t.cleanupShards) (len : t'.cleanupQueueLen = t.cleanupQueueLen)
    (positive : ∀ idx, Positive (t'.shards idx).activeIps) : Coherent shardIdx t' := by
  refine ⟨positive, ?_, ?_, ?_⟩
  · rw [queues]
    exact coherent.pendingPositive
  · rw [queues]
    exact coherent.placed
  · rw [len, coherent.queueLen, queued, queued, queues]

theorem queued_setQueue (t : UserIpTracker) (idx : ShardIdx) (queue : IpCounts) :
    queued (t.setQueue idx queue) + Dict.entryCount (t.cleanupShards idx) =
      queued t + Dict.entryCount queue := by
  have moved : (fun i => Dict.entryCount ((t.setQueue idx queue).cleanupShards i)) =
      Function.update (fun i => Dict.entryCount (t.cleanupShards i)) idx (Dict.entryCount queue) := by
    funext i
    exact Function.apply_update (fun _ => Dict.entryCount) t.cleanupShards idx queue i
  have after : queued (t.setQueue idx queue) = Dict.entryCount queue +
      ∑ i ∈ Finset.univ \ {idx}, Dict.entryCount (t.cleanupShards i) := by
    unfold queued
    rw [moved, Finset.sum_update_of_mem (Finset.mem_univ idx)]
  have before : queued t = Dict.entryCount (t.cleanupShards idx) +
      ∑ i ∈ Finset.univ \ {idx}, Dict.entryCount (t.cleanupShards i) := by
    unfold queued
    rw [← Finset.sum_update_of_mem (Finset.mem_univ idx), Function.update_eq_self]
  omega

theorem coherent_of_queue {t' : UserIpTracker} {idx : ShardIdx} {queue : IpCounts}
    (coherent : Coherent shardIdx t) (shards : t'.shards = t.shards)
    (queues : t'.cleanupShards = (t.setQueue idx queue).cleanupShards) (positive : Positive queue)
    (placed : ∀ user ∈ queue, shardIdx user = idx)
    (len : t'.cleanupQueueLen + Dict.entryCount (t.cleanupShards idx) =
      t.cleanupQueueLen + Dict.entryCount queue) : Coherent shardIdx t' := by
  have lookup (i : ShardIdx) :
      t'.cleanupShards i = if i = idx then queue else t.cleanupShards i := by
    rw [queues, UserIpTracker.cleanupShards_setQueue]
  refine ⟨?_, ?_, ?_, ?_⟩
  · rw [shards]
    exact coherent.activePositive
  · intro i
    rw [lookup]
    split_ifs
    · exact positive
    · exact coherent.pendingPositive i
  · intro i user member
    rw [lookup] at member
    split_ifs at member with here
    · exact here ▸ placed user member
    · exact coherent.placed i user member
  · have total := queued_setQueue t idx queue
    have same : queued t' = queued (t.setQueue idx queue) := by
      unfold queued
      rw [queues]
    have exact := coherent.queueLen
    omega

theorem activeCount_setShard (t : UserIpTracker) (idx : ShardIdx) (shard : UserIpShard)
    (user : String) (ip : IpAddr) :
    activeCount shardIdx (t.setShard idx shard) user ip =
      if shardIdx user = idx then count shard.activeIps user ip else activeCount shardIdx t user ip := by
  unfold activeCount
  rw [UserIpTracker.shards_setShard]
  split_ifs <;> rfl

theorem positive_setShard (coherent : Coherent shardIdx t) (idx : ShardIdx) {shard : UserIpShard}
    (positive : Positive shard.activeIps) (i : ShardIdx) :
    Positive ((t.setShard idx shard).shards i).activeIps := by
  rw [UserIpTracker.shards_setShard]
  split_ifs
  · exact positive
  · exact coherent.activePositive i

theorem pendingCount_setQueue (t : UserIpTracker) (idx : ShardIdx) (queue : IpCounts)
    (user : String) (ip : IpAddr) :
    pendingCount shardIdx (t.setQueue idx queue) user ip =
      if shardIdx user = idx then count queue user ip else pendingCount shardIdx t user ip := by
  unfold pendingCount
  rw [UserIpTracker.cleanupShards_setQueue]
  split_ifs <;> rfl

end Tracker

end Telemt.IpTracker
