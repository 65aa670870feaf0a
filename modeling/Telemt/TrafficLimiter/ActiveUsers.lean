import Telemt.Foundation.EpochMarks
import Telemt.TrafficLimiter.CidrRules
import Telemt.TrafficLimiter.Sequential
import Telemt.TrafficLimiter.Shares

namespace Telemt.TrafficLimiter
open Foundation

/-! # The number of active users -/

def RateLimitBps.get (limits : RateLimitBps) : RateDirection → Nat
  | .up => limits.upBps
  | .down => limits.downBps

structure NetworkPolicy (υ : Type) where
  cidr : RateLimitBps
  users : υ → Option RateLimitBps

structure CidrLease (υ : Type) where
  user : υ
  share : Nat
  live : Bool := true

structure Reach (υ : Type) where
  epoch : Nat
  direction : RateDirection
  user : υ
  share : Nat
  deriving DecidableEq, Repr

/-- The bucket of one network with its leases. `epoch` is what `current_epoch` has returned last, and
`reached` remembers the calls that reached the bucket. -/
structure NetworkLimiter (υ : Type) where
  epoch : Nat := 1
  table : CidrShares υ := {}
  buckets : RateDirection → CidrDirectionBucket := fun _ => {}
  userBuckets : υ → RateDirection → DirectionBucket := fun _ _ => {}
  leases : List (CidrLease υ) := []
  reached : List (Reach υ) := []

-- `cleanup` says that `maybe_cleanup` is due; a call of `try_consume` reads the clock once for the
-- bucket of the user and once for that of the network.
inductive NetworkEvent (υ : Type)
  | acquireLease (user : υ) (cleanup : Bool)
  | tryConsume (lease : Nat) (direction : RateDirection) (requested userEpoch epoch : Nat)
  | refund (lease : Nat) (direction : RateDirection) (bytes : Nat)
  | drop (lease : Nat)

variable {υ : Type}

def CidrShares.setState (table : CidrShares υ) (share : Nat) (direction : RateDirection)
    (state : CidrUserDirectionState) : CidrShares υ :=
  { table with
    shares := Function.update table.shares share
      { table.shares share with
        state := Function.update (table.shares share).state direction state } }

namespace NetworkLimiter

section Calls
variable [DecidableEq υ]

variable (s : NetworkLimiter υ)

def acquireLease (user : υ) (cleanup : Bool) : NetworkLimiter υ :=
  let (share, table) := s.table.acquireUserShare user
  { s with
    table := if cleanup then table.cleanupIdleUsers else table
    leases := s.leases ++ [{ user := user, share := share }] }

def setUserBucket (user : υ) (direction : RateDirection) (bucket : DirectionBucket) :
    NetworkLimiter υ :=
  { s with
    userBuckets := Function.update s.userBuckets user
      (Function.update (s.userBuckets user) direction bucket) }

variable (policy : NetworkPolicy υ)

def refundUser (s : NetworkLimiter υ) (user : υ) (direction : RateDirection) (bytes : Nat) :
    NetworkLimiter υ :=
  match policy.users user with
  | none => s
  | some _ => s.setUserBucket user direction ((s.userBuckets user direction).refund bytes)

def consumeUser (s : NetworkLimiter υ) (user : υ) (direction : RateDirection)
    (requested epoch : Nat) : Nat × NetworkLimiter υ :=
  match policy.users user with
  | none => (requested, s)
  | some limits =>
    let (granted, bucket) :=
      (s.userBuckets user direction).tryConsume (limits.get direction) epoch requested
    (granted, s.setUserBucket user direction bucket)

-- `CidrBucket::try_consume_for_user` behind its test for a cap.
def consumeCidr (lease : CidrLease υ) (direction : RateDirection) (capBps requested epoch : Nat) :
    Nat × NetworkLimiter υ :=
  let state := (s.table.shares lease.share).state direction
  let (granted, bucket, state) :=
    (s.buckets direction).tryConsume state (bytesPerEpoch capBps) epoch requested
  (granted,
    { s with
      buckets := Function.update s.buckets direction bucket
      table := s.table.setState lease.share direction state
      reached := ⟨epoch, direction, lease.user, lease.share⟩ :: s.reached })

def tryConsume (s : NetworkLimiter υ) (lease : CidrLease υ) (direction : RateDirection)
    (requested userEpoch epoch : Nat) : Nat × NetworkLimiter υ :=
  if requested = 0 then (0, s)
  else
    let (granted, s) := s.consumeUser policy lease.user direction requested userEpoch
    if granted = 0 then (0, s)
    else if policy.cidr.get direction = 0 then (granted, s)
    else
      let (cidrGranted, s) := s.consumeCidr lease direction (policy.cidr.get direction) granted epoch
      if cidrGranted < granted then
        (cidrGranted, s.refundUser policy lease.user direction (granted - cidrGranted))
      else (cidrGranted, s)

def refund (s : NetworkLimiter υ) (lease : CidrLease υ) (direction : RateDirection) (bytes : Nat) :
    NetworkLimiter υ :=
  if bytes = 0 then s
  else
    let s := s.refundUser policy lease.user direction bytes
    { s with
      buckets := Function.update s.buckets direction ((s.buckets direction).refund bytes)
      table := s.table.setState lease.share direction
        (((s.table.shares lease.share).state direction).refund bytes) }

def dropLease (i : Nat) (lease : CidrLease υ) : NetworkLimiter υ :=
  { s with
    table := s.table.releaseUserShare lease.user lease.share
    leases := s.leases.set i { lease with live := false } }

def step (s : NetworkLimiter υ) : NetworkEvent υ → Option (NetworkLimiter υ)
  | .acquireLease user cleanup => some (s.acquireLease user cleanup)
  | .tryConsume i direction requested userEpoch epoch =>
    s.leases[i]?.bind fun lease =>
      if lease.live ∧ s.epoch ≤ userEpoch ∧ userEpoch ≤ epoch then
        some ({ s with epoch := epoch }.tryConsume policy lease direction requested userEpoch epoch).2
      else none
  | .refund i direction bytes =>
    s.leases[i]?.bind fun lease =>
      if lease.live then some (s.refund policy lease direction bytes) else none
  | .drop i =>
    s.leases[i]?.bind fun lease => if lease.live then some (s.dropLease i lease) else none

def usersReached (epoch : Nat) (direction : RateDirection) : Finset υ :=
  ((s.reached.filter fun reach => reach.epoch = epoch ∧ reach.direction = direction).map
    Reach.user).toFinset

def OneShareEach (epoch : Nat) (direction : RateDirection) : Prop :=
  ∀ reach ∈ s.reached, ∀ reach' ∈ s.reached, reach.epoch = epoch → reach.direction = direction →
    reach'.epoch = epoch → reach'.direction = direction → reach.user = reach'.user →
    reach.share = reach'.share

instance (epoch : Nat) (direction : RateDirection) :
    Decidable (s.OneShareEach epoch direction) :=
  inferInstanceAs (Decidable (∀ reach ∈ s.reached, ∀ reach' ∈ s.reached, _ → _))

end Calls

def marks (s : NetworkLimiter υ) (direction : RateDirection) : EpochMarks Nat where
  epoch := (s.buckets direction).epoch
  count := (s.buckets direction).activeUsers
  mark share := ((s.table.shares share).state direction).epoch

def visits (s : NetworkLimiter υ) (direction : RateDirection) : List (Nat × Nat) :=
  (s.reached.filter fun reach => reach.direction = direction).map fun reach => (reach.epoch, reach.share)

end NetworkLimiter

theorem bytesPerEpoch_ne_zero {bps : Nat} (capped : bps ≠ 0) : bytesPerEpoch bps ≠ 0 := by
  unfold bytesPerEpoch
  rw [if_neg capped]
  omega

theorem state_setState (table : CidrShares υ) (share share' : Nat) (direction direction' : RateDirection)
    (state : CidrUserDirectionState) :
    ((table.setState share direction state).shares share').state direction' =
      if share' = share ∧ direction' = direction then state
      else (table.shares share').state direction' := by
  unfold CidrShares.setState
  by_cases same : share' = share
  · subst same
    by_cases this : direction' = direction
    · simp [this]
    · simp [this]
  · simp [same]

theorem state_setConns (table : CidrShares υ) (share conns share' : Nat) :
    ((table.setConns share conns).shares share').state = (table.shares share').state := by
  unfold CidrShares.setConns
  dsimp only
  rw [Function.update_apply]
  split_ifs with same
  · rw [same]
  · rfl

theorem tryConsume_marks {bucket : CidrDirectionBucket} {state : CidrUserDirectionState}
    {capEpoch epoch requested : Nat} (asks : requested ≠ 0) (capped : capEpoch ≠ 0) (share : Nat)
    (mark : Nat → Nat) (own : mark share = state.epoch) :
    let result := bucket.tryConsume state capEpoch epoch requested
    (⟨result.2.1.epoch, result.2.1.activeUsers, Function.update mark share result.2.2.epoch⟩ :
        EpochMarks Nat) =
      EpochMarks.visit ⟨bucket.epoch, bucket.activeUsers, mark⟩ epoch share := by
  intro result
  have neither : ¬(requested = 0 ∨ capEpoch = 0) := by
    rintro (none_ | none_)
    · exact asks none_
    · exact capped none_
  have kept : Function.update mark share state.epoch = mark := by
    rw [← own]
    exact Function.update_eq_self share mark
  simp only [result, CidrDirectionBucket.tryConsume, if_neg neither, EpochMarks.visit,
    EpochMarks.sync, EpochMarks.note, CidrDirectionBucket.syncEpoch,
    CidrUserDirectionState.syncEpochAndMarkActive]
  by_cases older : bucket.epoch < epoch
  · by_cases unmarked : state.epoch < epoch
    · simp [older, unmarked, own]
    · simp [older, unmarked, own, kept]
  · by_cases unmarked : state.epoch < epoch
    · simp [older, unmarked, own]
    · simp [older, unmarked, own, kept]

namespace NetworkLimiter
variable {policy : NetworkPolicy υ} {s t : NetworkLimiter υ} {lease : CidrLease υ}
  {direction : RateDirection} {requested userEpoch epoch : Nat}

structure Alike (s t : NetworkLimiter υ) : Prop where
  epoch : t.epoch = s.epoch
  table : t.table = s.table
  buckets : t.buckets = s.buckets
  leases : t.leases = s.leases
  reached : t.reached = s.reached

theorem Alike.trans {u : NetworkLimiter υ} (first : s.Alike t) (second : t.Alike u) : s.Alike u :=
  ⟨second.1.trans first.1, second.2.trans first.2, second.3.trans first.3, second.4.trans first.4,
    second.5.trans first.5⟩

theorem Alike.consumeCidr (alike : s.Alike t) (capBps granted : Nat) :
    (s.consumeCidr lease direction capBps granted epoch).2.Alike
      (t.consumeCidr lease direction capBps granted epoch).2 := by
  obtain ⟨sameEpoch, table, buckets, leases, reached⟩ := alike
  unfold NetworkLimiter.consumeCidr
  rw [table, buckets, reached]
  exact ⟨sameEpoch, rfl, rfl, leases, rfl⟩

theorem consumeCidr_marks {granted capBps : Nat} (asks : granted ≠ 0) (capped : capBps ≠ 0) :
    (s.consumeCidr lease direction capBps granted epoch).2.marks direction =
      (s.marks direction).visit epoch lease.share := by
  have visited := @tryConsume_marks (s.buckets direction)
    ((s.table.shares lease.share).state direction) (bytesPerEpoch capBps) epoch granted asks
    (bytesPerEpoch_ne_zero capped) lease.share (s.marks direction).mark rfl
  refine Eq.trans ?_ visited
  unfold marks consumeCidr
  dsimp only
  rw [Function.update_self]
  congr 1
  funext share
  rw [state_setState]
  by_cases same : share = lease.share
  · rw [if_pos ⟨same, rfl⟩, same, Function.update_self]
  · rw [if_neg fun both => same both.1, Function.update_of_ne same]

variable {granted capBps : Nat}

theorem consumeCidr_marks_other {other : RateDirection} (apart : other ≠ direction) :
    (s.consumeCidr lease direction capBps granted epoch).2.marks other = s.marks other := by
  unfold marks consumeCidr
  dsimp only
  rw [Function.update_of_ne apart]
  congr 1
  funext share
  rw [state_setState, if_neg fun both => apart both.2]

theorem consumeCidr_visits :
    (s.consumeCidr lease direction capBps granted epoch).2.visits direction =
      (epoch, lease.share) :: s.visits direction := by
  simp [visits, consumeCidr]

theorem consumeCidr_visits_other {other : RateDirection} (apart : other ≠ direction) :
    (s.consumeCidr lease direction capBps granted epoch).2.visits other = s.visits other := by
  simp [visits, consumeCidr, apart.symm]

structure Counted (s : NetworkLimiter υ) : Prop where
  started : 0 < s.epoch
  past : ∀ direction, (s.marks direction).epoch ≤ s.epoch
  counted : ∀ direction, (s.marks direction).Exact (s.visits direction)

theorem Counted.congr (counted : s.Counted) (epoch : t.epoch = s.epoch)
    (marks : ∀ direction, t.marks direction = s.marks direction) (reached : t.reached = s.reached) :
    t.Counted := by
  refine ⟨epoch ▸ counted.started, ?_, ?_⟩
  · intro direction
    rw [marks, epoch]
    exact counted.past direction
  · intro direction
    unfold visits
    rw [marks, reached]
    exact counted.counted direction

theorem Alike.counted (alike : s.Alike t) (counted : s.Counted) : t.Counted := by
  refine counted.congr alike.epoch ?_ alike.reached
  intro direction
  unfold marks
  rw [alike.table, alike.buckets]

theorem Counted.tick (counted : s.Counted) (later : s.epoch ≤ epoch) :
    Counted { s with epoch := epoch } where
  started := counted.started.trans_le later
  past direction := (counted.past direction).trans later
  counted := counted.counted

theorem Counted.consumeCidr (counted : s.Counted) (asks : granted ≠ 0) (capped : capBps ≠ 0)
    (now : s.epoch = epoch) :
    (s.consumeCidr lease direction capBps granted epoch).2.Counted := by
  subst now
  have visited := @consumeCidr_marks υ s lease direction s.epoch granted capBps asks capped
  refine ⟨counted.started, ?_, ?_⟩
  · intro other
    by_cases same : other = direction
    · rw [same, visited, EpochMarks.visit_epoch (counted.past direction)]
      exact le_rfl
    · rw [consumeCidr_marks_other same]
      exact counted.past other
  · intro other
    by_cases same : other = direction
    · rw [same, visited, consumeCidr_visits]
      exact (counted.counted direction).visit (counted.past direction) counted.started
    · rw [consumeCidr_marks_other same, consumeCidr_visits_other same]
      exact counted.counted other

variable [DecidableEq υ]

structure Owned (s : NetworkLimiter υ) (owner : Nat → Option υ) : Prop where
  entered : ∀ user share, s.table.users.lookup user = some share →
    owner share = some user ∧ share < s.table.made
  leased : ∀ lease ∈ s.leases, owner lease.share = some lease.user ∧ lease.share < s.table.made
  logged : ∀ reach ∈ s.reached, owner reach.share = some reach.user ∧ reach.share < s.table.made

variable {owner : Nat → Option υ}

theorem Alike.owned (alike : s.Alike t) (owned : s.Owned owner) : t.Owned owner := by
  obtain ⟨_, table, _, leases, reached⟩ := alike
  constructor
  · rw [table]
    exact owned.entered
  · rw [table, leases]
    exact owned.leased
  · rw [table, reached]
    exact owned.logged

theorem Owned.consumeCidr (owned : s.Owned owner) (mine : lease ∈ s.leases) :
    (s.consumeCidr lease direction capBps granted epoch).2.Owned owner :=
  ⟨owned.entered, owned.leased, List.forall_mem_cons.mpr ⟨owned.leased lease mine, owned.logged⟩⟩

theorem alike_refundUser (user : υ) (bytes : Nat) :
    s.Alike (s.refundUser policy user direction bytes) := by
  unfold refundUser
  split <;> exact ⟨rfl, rfl, rfl, rfl, rfl⟩

theorem alike_consumeUser (user : υ) :
    s.Alike (s.consumeUser policy user direction requested userEpoch).2 := by
  unfold consumeUser
  split <;> exact ⟨rfl, rfl, rfl, rfl, rfl⟩

theorem tryConsume_cases (policy : NetworkPolicy υ) (s : NetworkLimiter υ) (lease : CidrLease υ)
    (direction : RateDirection) (requested userEpoch epoch : Nat) :
    s.Alike (s.tryConsume policy lease direction requested userEpoch epoch).2 ∨
      ∃ granted, granted ≠ 0 ∧ policy.cidr.get direction ≠ 0 ∧
        (s.consumeCidr lease direction (policy.cidr.get direction) granted epoch).2.Alike
          (s.tryConsume policy lease direction requested userEpoch epoch).2 := by
  unfold tryConsume
  by_cases nothing : requested = 0
  · rw [if_pos nothing]
    exact .inl ⟨rfl, rfl, rfl, rfl, rfl⟩
  · rw [if_neg nothing]
    have alike : s.Alike (s.consumeUser policy lease.user direction requested userEpoch).2 :=
      alike_consumeUser lease.user
    generalize s.consumeUser policy lease.user direction requested userEpoch = answer at alike ⊢
    obtain ⟨granted, _⟩ := answer
    dsimp only at alike ⊢
    by_cases blocked : granted = 0
    · rw [if_pos blocked]
      exact .inl alike
    · by_cases uncapped : policy.cidr.get direction = 0
      · rw [if_neg blocked, if_pos uncapped]
        exact .inl alike
      · refine .inr ⟨granted, blocked, uncapped, (alike.consumeCidr _ granted).trans ?_⟩
        split_ifs
        · exact alike_refundUser _ _
        · exact ⟨rfl, rfl, rfl, rfl, rfl⟩

theorem refund_marks (bytes : Nat) (other : RateDirection) :
    (s.refund policy lease direction bytes).marks other = s.marks other := by
  unfold NetworkLimiter.refund
  split_ifs
  · rfl
  · obtain ⟨_, table, buckets, _, _⟩ := @alike_refundUser υ policy s direction _ lease.user bytes
    unfold marks
    dsimp only
    rw [table, buckets]
    congr 1
    · rw [Function.update_apply]
      split_ifs with same
      · rw [same]
        rfl
      · rfl
    · rw [Function.update_apply]
      split_ifs with same
      · rw [same]
        rfl
      · rfl
    · funext share
      rw [state_setState]
      split_ifs with same
      · rw [same.1, same.2]
        rfl
      · rfl

theorem refund_rest (bytes : Nat) :
    (s.refund policy lease direction bytes).epoch = s.epoch ∧
      (s.refund policy lease direction bytes).reached = s.reached := by
  unfold NetworkLimiter.refund
  split_ifs
  · exact ⟨rfl, rfl⟩
  · obtain ⟨epoch, _, _, _, reached⟩ := @alike_refundUser υ policy s direction _ lease.user bytes
    exact ⟨epoch, reached⟩

theorem Owned.refund (owned : s.Owned owner) (bytes : Nat) :
    (s.refund policy lease direction bytes).Owned owner := by
  unfold NetworkLimiter.refund
  split_ifs
  · exact owned
  · have before : (s.refundUser policy lease.user direction bytes).Owned owner :=
      (alike_refundUser lease.user bytes).owned owned
    exact ⟨before.entered, before.leased, before.logged⟩

theorem lookup_cleanup {table : CidrShares υ} {cleanup : Bool} {user : υ} {share : Nat}
    (found : (if cleanup then table.cleanupIdleUsers else table).users.lookup user = some share) :
    table.users.lookup user = some share := by
  split_ifs at found
  · have kept : (Dict.retain (fun _ share => 0 < table.activeConns share) table.users).lookup user =
        some share := found
    rw [Dict.lookup_retain] at kept
    exact (Option.filter_eq_some_iff.mp kept).1
  · exact found

variable (table : CidrShares υ)

omit [DecidableEq υ] in
theorem cleanup_rest (cleanup : Bool) :
    (if cleanup then table.cleanupIdleUsers else table).made = table.made ∧
      (if cleanup then table.cleanupIdleUsers else table).shares = table.shares := by
  split_ifs
  · exact ⟨rfl, rfl⟩
  · exact ⟨rfl, rfl⟩

theorem release_rest (user : υ) (share : Nat) :
    (table.releaseUserShare user share).made = table.made ∧
      (∀ share', ((table.releaseUserShare user share).shares share').state =
        (table.shares share').state) ∧
      ∀ user' share', (table.releaseUserShare user share).users.lookup user' = some share' →
        table.users.lookup user' = some share' := by
  unfold CidrShares.releaseUserShare
  dsimp only
  split_ifs
  · refine ⟨rfl, state_setConns table share _, ?_⟩
    intro user' share' found
    have kept : (table.users.erase user).lookup user' = some share' := found
    rw [Dict.lookup_erase_ite] at kept
    split_ifs at kept
    exact kept
  · exact ⟨rfl, state_setConns table share _, fun _ _ found => found⟩

theorem Counted.dropLease (counted : s.Counted) (i : Nat) : (s.dropLease i lease).Counted := by
  obtain ⟨_, states, _⟩ := release_rest s.table lease.user lease.share
  refine counted.congr rfl ?_ rfl
  intro direction
  unfold marks NetworkLimiter.dropLease
  congr 1
  funext share
  rw [states]

theorem Owned.dropLease (owned : s.Owned owner) (i : Nat) (mine : lease ∈ s.leases) :
    (s.dropLease i lease).Owned owner := by
  obtain ⟨made, _, entries⟩ := release_rest s.table lease.user lease.share
  constructor
  · intro user share found
    rw [NetworkLimiter.dropLease, made]
    exact owned.entered user share (entries user share found)
  · intro other member
    rw [NetworkLimiter.dropLease, made]
    rcases List.mem_or_eq_of_mem_set member with old | rfl
    · exact owned.leased other old
    · exact owned.leased lease mine
  · intro reach member
    rw [NetworkLimiter.dropLease, made]
    exact owned.logged reach member

theorem acquireUserShare_cases (user : υ) :
    (∃ share, table.users.lookup user = some share ∧ table.acquireUserShare user =
        (share, table.raise share)) ∨
      table.users.lookup user = none ∧ table.acquireUserShare user =
        (table.made, { users := table.users.insert user table.made
                       made := table.made + 1
                       shares := Function.update table.shares table.made {} : CidrShares υ }.raise
                         table.made) := by
  unfold CidrShares.acquireUserShare CidrShares.getOrInsert
  cases found : table.users.lookup user with
  | some share => exact .inl ⟨share, rfl, rfl⟩
  | none => exact .inr ⟨rfl, rfl⟩

theorem Counted.acquireLease (counted : s.Counted) (owned : s.Owned owner) (user : υ)
    (cleanup : Bool) : (s.acquireLease user cleanup).Counted := by
  have shares := (cleanup_rest (s.table.acquireUserShare user).2 cleanup).2
  have marked (direction : RateDirection) : (s.acquireLease user cleanup).marks direction =
      { s.marks direction with
        mark := fun share =>
          (((s.table.acquireUserShare user).2.shares share).state direction).epoch } := by
    unfold marks NetworkLimiter.acquireLease
    rw [shares]
  obtain ⟨_, _, acquired⟩ | ⟨_, acquired⟩ := acquireUserShare_cases s.table user
  · refine counted.congr rfl ?_ rfl
    intro direction
    rw [marked, acquired]
    unfold marks CidrShares.raise
    dsimp only
    congr 1
    funext share'
    rw [state_setConns]
  · have fresh (direction : RateDirection) : (s.acquireLease user cleanup).marks direction =
        { s.marks direction with
          mark := Function.update (s.marks direction).mark s.table.made 0 } := by
      rw [marked, acquired]
      dsimp only
      congr 1
      funext share'
      rw [CidrShares.raise, state_setConns]
      dsimp only
      rw [Function.update_apply, Function.update_apply]
      split_ifs <;> rfl
    have unseen (direction : RateDirection) (epoch : Nat) :
        (epoch, s.table.made) ∉ s.visits direction := by
      intro member
      obtain ⟨reach, inside, same⟩ := List.mem_map.mp member
      have older := (owned.logged reach (List.mem_filter.mp inside).1).2
      exact older.ne (Prod.mk.inj same).2
    refine ⟨counted.started, ?_, ?_⟩
    · intro direction
      exact counted.past direction
    · intro direction
      rw [fresh]
      exact (counted.counted direction).forget (unseen direction)

theorem Owned.acquireLease (owned : s.Owned owner) (user : υ) (cleanup : Bool) :
    ∃ owner', (s.acquireLease user cleanup).Owned owner' := by
  have made := (cleanup_rest (s.table.acquireUserShare user).2 cleanup).1
  unfold NetworkLimiter.acquireLease
  obtain ⟨share, found, acquired⟩ | ⟨_, acquired⟩ := acquireUserShare_cases s.table user
  · rw [acquired] at made ⊢
    refine ⟨owner, ?_, ?_, ?_⟩
    · intro user' share' entry
      rw [made]
      have entry : (s.table.raise share).users.lookup user' = some share' := lookup_cleanup entry
      exact owned.entered user' share' entry
    · intro lease member
      dsimp only
      rw [made]
      rcases List.mem_append.mp member with old | new
      · exact owned.leased lease old
      · rw [List.mem_singleton.mp new]
        exact owned.entered user share found
    · intro reach member
      rw [made]
      exact owned.logged reach member
  · rw [acquired] at made ⊢
    have kept {share : Nat} {user' : Option υ} (before : owner share = user' ∧ share < s.table.made) :
        Function.update owner s.table.made (some user) share = user' ∧ share < s.table.made + 1 :=
      ⟨by rw [Function.update_of_ne before.2.ne]; exact before.1, Nat.lt_succ_of_lt before.2⟩
    have new : Function.update owner s.table.made (some user) s.table.made = some user ∧
        s.table.made < s.table.made + 1 := ⟨Function.update_self _ _ _, Nat.lt_succ_self _⟩
    refine ⟨Function.update owner s.table.made (some user), ?_, ?_, ?_⟩
    · intro user' share' entry
      dsimp only
      rw [made]
      have entry : (s.table.users.insert user s.table.made).lookup user' = some share' :=
        lookup_cleanup entry
      rw [Dict.lookup_insert_ite] at entry
      split_ifs at entry with same
      · cases entry
        rw [same]
        exact new
      · exact kept (owned.entered user' share' entry)
    · intro lease member
      rw [made]
      rcases List.mem_append.mp member with old | last
      · exact kept (owned.leased lease old)
      · rw [List.mem_singleton.mp last]
        exact new
    · intro reach member
      dsimp only
      rw [made]
      exact kept (owned.logged reach member)

theorem Counted.tryConsume (counted : s.Counted) (later : s.epoch ≤ epoch) :
    ({ s with epoch := epoch }.tryConsume policy lease direction requested userEpoch epoch).2.Counted := by
  have now : Counted { s with epoch := epoch } := counted.tick later
  obtain alike | ⟨granted, asks, capped, alike⟩ :=
    tryConsume_cases policy { s with epoch := epoch } lease direction requested userEpoch epoch
  · exact alike.counted now
  · exact alike.counted (now.consumeCidr asks capped rfl)

theorem Owned.tryConsume (owned : s.Owned owner) (mine : lease ∈ s.leases) :
    ({ s with epoch := epoch }.tryConsume policy lease direction requested userEpoch epoch).2.Owned
      owner := by
  have now : Owned { s with epoch := epoch } owner := ⟨owned.entered, owned.leased, owned.logged⟩
  obtain alike | ⟨granted, _, _, alike⟩ :=
    tryConsume_cases policy { s with epoch := epoch } lease direction requested userEpoch epoch
  · exact alike.owned now
  · exact alike.owned (now.consumeCidr mine)

def Tracked (s : NetworkLimiter υ) : Prop := s.Counted ∧ ∃ owner, s.Owned owner

theorem Tracked.step {event : NetworkEvent υ} (tracked : s.Tracked)
    (taken : s.step policy event = some t) : t.Tracked := by
  obtain ⟨counted, owner, owned⟩ := tracked
  cases event with
  | acquireLease user cleanup =>
    cases taken
    exact ⟨counted.acquireLease owned user cleanup, owned.acquireLease user cleanup⟩
  | tryConsume i direction _ _ epoch =>
    obtain ⟨lease, position, taken⟩ := Option.bind_eq_some_iff.mp taken
    split_ifs at taken with allowed
    cases taken
    obtain ⟨_, first, second⟩ := allowed
    exact ⟨counted.tryConsume (first.trans second), owner,
      owned.tryConsume (List.mem_of_getElem? position)⟩
  | refund i direction bytes =>
    obtain ⟨lease, position, taken⟩ := Option.bind_eq_some_iff.mp taken
    split_ifs at taken
    cases taken
    obtain ⟨epoch, reached⟩ := @refund_rest υ policy s lease direction _ bytes
    exact ⟨counted.congr epoch (refund_marks bytes) reached, owner, owned.refund bytes⟩
  | drop i =>
    obtain ⟨_, position, taken⟩ := Option.bind_eq_some_iff.mp taken
    split_ifs at taken
    cases taken
    exact ⟨counted.dropLease i, owner, owned.dropLease i (List.mem_of_getElem? position)⟩

theorem tracked_empty : Tracked ({} : NetworkLimiter υ) := by
  refine ⟨⟨Nat.one_pos, fun _ => Nat.zero_le _, fun _ => EpochMarks.exact_empty⟩, fun _ => none, ?_⟩
  refine ⟨?_, ?_, ?_⟩
  · intro user share found
    cases found
  · intro lease member
    cases member
  · intro reach member
    cases member

theorem tracked_run {events : List (NetworkEvent υ)}
    (run : runFrom (NetworkLimiter.step policy) {} events = some s) : s.Tracked := by
  have always : Guarded (NetworkLimiter.step policy) (fun _ _ => True) {} events :=
    guarded_of_mem (fun _ _ _ => trivial) _
  apply runFrom_invariant Tracked _ always tracked_empty run
  intro s event t _ tracked taken
  exact tracked.step taken

omit [DecidableEq υ] in
theorem mem_visitors {share : Nat} :
    share ∈ visitorsIn epoch (s.visits direction) ↔
      ∃ reach ∈ s.reached, reach.epoch = epoch ∧ reach.direction = direction ∧ reach.share = share := by
  rw [mem_visitorsIn, visits, List.mem_map]
  constructor
  · rintro ⟨reach, member, same⟩
    obtain ⟨inside, here⟩ := List.mem_filter.mp member
    obtain ⟨when_, through⟩ := Prod.mk.inj same
    exact ⟨reach, inside, when_, of_decide_eq_true here, through⟩
  · rintro ⟨reach, inside, when_, here, through⟩
    exact ⟨reach, List.mem_filter.mpr ⟨inside, decide_eq_true here⟩, Prod.ext when_ through⟩

theorem mem_usersReached {user : υ} :
    user ∈ s.usersReached epoch direction ↔
      ∃ reach ∈ s.reached, reach.epoch = epoch ∧ reach.direction = direction ∧ reach.user = user := by
  simp [usersReached, and_assoc]

theorem Owned.image_visitors (owned : s.Owned owner) :
    (visitorsIn epoch (s.visits direction)).image owner =
      (s.usersReached epoch direction).image some := by
  ext user
  rw [Finset.mem_image, Finset.mem_image]
  constructor
  · rintro ⟨share, member, rfl⟩
    obtain ⟨reach, inside, when_, here, rfl⟩ := mem_visitors.mp member
    exact ⟨reach.user, mem_usersReached.mpr ⟨reach, inside, when_, here, rfl⟩,
      (owned.logged reach inside).1.symm⟩
  · rintro ⟨_, member, rfl⟩
    obtain ⟨reach, inside, when_, here, rfl⟩ := mem_usersReached.mp member
    exact ⟨reach.share, mem_visitors.mpr ⟨reach, inside, when_, here, rfl⟩, (owned.logged reach inside).1⟩

theorem Owned.injOn_iff (owned : s.Owned owner) :
    Set.InjOn owner (visitorsIn epoch (s.visits direction)) ↔ s.OneShareEach epoch direction := by
  constructor
  · intro injective reach inside reach' inside' when_ here when' here' same
    apply injective
    · exact Finset.mem_coe.mpr (mem_visitors.mpr ⟨reach, inside, when_, here, rfl⟩)
    · exact Finset.mem_coe.mpr (mem_visitors.mpr ⟨reach', inside', when', here', rfl⟩)
    · rw [(owned.logged reach inside).1, (owned.logged reach' inside').1, same]
  · intro single share member share' member' same
    obtain ⟨reach, inside, when_, here, rfl⟩ := mem_visitors.mp (Finset.mem_coe.mp member)
    obtain ⟨reach', inside', when', here', rfl⟩ := mem_visitors.mp (Finset.mem_coe.mp member')
    rw [(owned.logged reach inside).1, (owned.logged reach' inside').1] at same
    exact single reach inside reach' inside' when_ here when' here' (Option.some.inj same)

theorem epoch_of_reached {i : Nat} (counted : s.Counted)
    (call : s.step policy (.tryConsume i direction requested userEpoch epoch) = some t)
    (reached : t.reached ≠ s.reached) : (t.marks direction).epoch = epoch := by
  obtain ⟨lease, _, taken⟩ := Option.bind_eq_some_iff.mp call
  split_ifs at taken with allowed
  cases taken
  have now : Counted { s with epoch := epoch } := counted.tick (allowed.2.1.trans allowed.2.2)
  obtain alike | ⟨granted, asks, capped, alike⟩ :=
    tryConsume_cases policy { s with epoch := epoch } lease direction requested userEpoch epoch
  · exact absurd alike.reached reached
  · have same : (marks _ direction).epoch = (marks _ direction).epoch :=
      congrArg (fun buckets => (buckets direction).epoch) alike.buckets
    rw [same, consumeCidr_marks asks capped]
    exact EpochMarks.visit_epoch (now.past direction)

end NetworkLimiter

theorem active_users_exact_iff [DecidableEq υ] (policy : NetworkPolicy υ)
    (events : List (NetworkEvent υ)) (s t : NetworkLimiter υ) (i : Nat) (direction : RateDirection)
    (requested userEpoch epoch : Nat)
    (run : runFrom (NetworkLimiter.step policy) {} events = some s)
    (call : s.step policy (.tryConsume i direction requested userEpoch epoch) = some t)
    (reached : t.reached ≠ s.reached) :
    (t.buckets direction).activeUsers = (t.usersReached epoch direction).card ↔
      t.OneShareEach epoch direction := by
  have before := NetworkLimiter.tracked_run run
  obtain ⟨counted, owner, owned⟩ := before.step call
  have now := NetworkLimiter.epoch_of_reached before.1 call reached
  have shares : (t.buckets direction).activeUsers =
      (visitorsIn epoch (t.visits direction)).card := by
    rw [← now]
    exact (counted.counted direction).counted
  have users : (t.usersReached epoch direction).card =
      ((visitorsIn epoch (t.visits direction)).image owner).card := by
    rw [owned.image_visitors, Finset.card_image_of_injective _ (Option.some_injective υ)]
  rw [shares, users, eq_comm, Finset.card_image_iff]
  exact owned.injOn_iff

def evenPolicy : NetworkPolicy Nat := { cidr := ⟨400000, 400000⟩, users := fun _ => none }

def twoSenders : List (NetworkEvent Nat) :=
  [.acquireLease 0 false, .tryConsume 0 .up 100 1 1, .drop 0, .acquireLease 0 true,
    .acquireLease 1 false, .tryConsume 1 .up 300 2 2, .refund 1 .up 100]

def twoSendersBefore : NetworkLimiter Nat :=
  (runFrom (NetworkLimiter.step evenPolicy) {} twoSenders).get (by decide +kernel)

def twoSendersAfter : NetworkLimiter Nat :=
  (twoSendersBefore.step evenPolicy (.tryConsume 2 .up 100 2 2)).get (by decide +kernel)

theorem two_senders_counted :
    (twoSendersAfter.usersReached 2 .up).card = 2 ∧
      (twoSendersAfter.buckets .up).activeUsers = (twoSendersAfter.usersReached 2 .up).card :=
  ⟨by decide +kernel,
    (active_users_exact_iff evenPolicy twoSenders twoSendersBefore twoSendersAfter 2 .up 100 2 2
      (Option.some_get _).symm (Option.some_get _).symm (by decide +kernel)).mpr (by decide +kernel)⟩

def reconnected : List (NetworkEvent Nat) :=
  [.acquireLease 0 false, .tryConsume 0 .up 100 1 1, .drop 0, .acquireLease 0 false]

def reconnectedBefore : NetworkLimiter Nat :=
  (runFrom (NetworkLimiter.step evenPolicy) {} reconnected).get (by decide +kernel)

def reconnectedAfter : NetworkLimiter Nat :=
  (reconnectedBefore.step evenPolicy (.tryConsume 1 .up 100 1 1)).get (by decide +kernel)

theorem reconnected_user_counted_twice :
    runFrom (NetworkLimiter.step evenPolicy) {} reconnected = some reconnectedBefore ∧
      reconnectedBefore.step evenPolicy (.tryConsume 1 .up 100 1 1) = some reconnectedAfter ∧
      reconnectedAfter.reached ≠ reconnectedBefore.reached ∧
      (reconnectedAfter.buckets .up).activeUsers = 2 ∧
      (reconnectedAfter.usersReached 1 .up).card = 1 :=
  ⟨(Option.some_get _).symm, (Option.some_get _).symm, by decide +kernel, by decide +kernel,
    by decide +kernel⟩

end Telemt.TrafficLimiter
