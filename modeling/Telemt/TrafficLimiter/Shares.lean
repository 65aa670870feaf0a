import Telemt.Foundation.Dict
import Telemt.TrafficLimiter.Buckets

namespace Telemt.TrafficLimiter
open Foundation

/-! # The shares of a network -/

inductive RateDirection
  | up
  | down
  deriving DecidableEq, Repr

structure CidrUserShare where
  activeConns : Nat := 0
  state : RateDirection → CidrUserDirectionState := fun _ => {}

-- A share is identified by the order in which the shares were made.
structure CidrShares (υ : Type) where
  users : Dict υ Nat := ∅
  made : Nat := 0
  shares : Nat → CidrUserShare := fun _ => {}

namespace CidrShares
variable {υ : Type} [DecidableEq υ]

variable (table : CidrShares υ) (user : υ)

def getOrInsert : Nat × CidrShares υ :=
  match table.users.lookup user with
  | some share => (share, table)
  | none =>
    (table.made,
      { users := table.users.insert user table.made
        made := table.made + 1
        shares := Function.update table.shares table.made {} })

def setConns (share conns : Nat) : CidrShares υ :=
  { table with
    shares := Function.update table.shares share { table.shares share with activeConns := conns } }

variable (share : Nat)

def activeConns : Nat := (table.shares share).activeConns

def raise : CidrShares υ :=
  table.setConns share (table.activeConns share + 1)

def lower : CidrShares υ :=
  table.setConns share (table.activeConns share - 1)

/-- The predicate of `remove_if`: the entry is this share, and nobody uses it. -/
def isIdle : Bool :=
  table.users.lookup user = some share && table.activeConns share = 0

/-- The second half of `remove_if`, which looks at the key only. -/
def remove : CidrShares υ :=
  { table with users := table.users.erase user }

/-- What `cleanup_idle_users` does to the entry of one user, under the lock of its shard. -/
def sweep : CidrShares υ :=
  match table.users.lookup user with
  | none => table
  | some share => if 0 < table.activeConns share then table else table.remove user

/-! The same as whole calls, which nobody interrupts. -/

def acquireUserShare : Nat × CidrShares υ :=
  let (share, table) := table.getOrInsert user
  (share, table.raise share)

def releaseUserShare : CidrShares υ :=
  let table := table.lower share
  if table.isIdle user share then table.remove user else table

def cleanupIdleUsers : CidrShares υ :=
  { table with users := Dict.retain (fun _ share => 0 < table.activeConns share) table.users }

end CidrShares

/-- Where a lease is; the comment says which access comes next. -/
inductive SharePhase
  -- increment of `active_conns`
  | raising (share : Nat)
  -- none until the lease is dropped
  | held (share : Nat)
  -- lookup and test of `remove_if`
  | testing (share : Nat)
  -- removal of the entry
  | removing
  | released
  deriving DecidableEq, Repr

structure SharedBucket (υ : Type) where
  table : CidrShares υ := {}
  leases : List (υ × SharePhase) := []

inductive ShareEvent (υ : Type)
  | acquire (user : υ)
  | drop (lease : Nat)
  | advance (lease : Nat)
  | sweep (user : υ)

namespace SharedBucket
variable {υ : Type} [DecidableEq υ]

variable (s : SharedBucket υ)

def acquire (user : υ) : SharedBucket υ :=
  let (share, table) := s.table.getOrInsert user
  { table := table, leases := s.leases ++ [(user, .raising share)] }

def put (table : CidrShares υ) (i : Nat) (user : υ) (phase : SharePhase) : SharedBucket υ :=
  { table := table, leases := s.leases.set i (user, phase) }

def advance (i : Nat) (user : υ) : SharePhase → Option (SharedBucket υ)
  | .raising share => some (s.put (s.table.raise share) i user (.held share))
  | .held _ => none
  | .testing share =>
    some (s.put s.table i user (if s.table.isIdle user share then .removing else .released))
  | .removing => some (s.put (s.table.remove user) i user .released)
  | .released => none

def drop (i : Nat) (user : υ) : SharePhase → Option (SharedBucket υ)
  | .held share => some (s.put (s.table.lower share) i user (.testing share))
  | _ => none

def step : ShareEvent υ → Option (SharedBucket υ)
  | .acquire user => some (s.acquire user)
  | .drop i => s.leases[i]?.bind fun lease => s.drop i lease.1 lease.2
  | .advance i => s.leases[i]?.bind fun lease => s.advance i lease.1 lease.2
  | .sweep user => some { s with table := s.table.sweep user }

def SameShare : Prop :=
  ∀ user share share', (user, .held share) ∈ s.leases → (user, .held share') ∈ s.leases →
    share = share'

def InUse (user : υ) (share : Nat) : Prop :=
  (user, .raising share) ∈ s.leases ∨ (user, .held share) ∈ s.leases

instance (user : υ) (share : Nat) : Decidable (s.InUse user share) :=
  inferInstanceAs (Decidable (_ ∈ _ ∨ _ ∈ _))

/-- An entry is only removed while no lease uses its share. -/
def Careful : ShareEvent υ → Prop
  | .advance i => ∀ lease ∈ s.leases[i]?, lease.2 = .removing →
      ∀ share ∈ s.table.users.lookup lease.1, ¬s.InUse lease.1 share
  | .sweep user =>
    ∀ share ∈ s.table.users.lookup user, s.table.activeConns share = 0 → ¬s.InUse user share
  | _ => True

instance (event : ShareEvent υ) : Decidable (s.Careful event) := by
  cases event <;> unfold Careful <;> infer_instance

variable {s t : SharedBucket υ}

structure Coherent (s : SharedBucket υ) : Prop where
  entered : ∀ user share, s.InUse user share → s.table.users.lookup user = some share
  made : ∀ user share, s.table.users.lookup user = some share → share < s.table.made

variable {i share : Nat} {user : υ}

omit [DecidableEq υ] in
theorem InUse.of_put {table : CidrShares υ} {user' : υ} {phase : SharePhase}
    (used : (s.put table i user phase).InUse user' share) :
    s.InUse user' share ∨ user' = user ∧ (phase = .raising share ∨ phase = .held share) := by
  rcases used with member | member
  · rcases List.mem_or_eq_of_mem_set member with old | new
    · exact .inl (.inl old)
    · cases new
      exact .inr ⟨rfl, .inl rfl⟩
  · rcases List.mem_or_eq_of_mem_set member with old | new
    · exact .inl (.inr old)
    · cases new
      exact .inr ⟨rfl, .inr rfl⟩

theorem Coherent.put {table : CidrShares υ} {phase : SharePhase} (coherent : s.Coherent)
    (users : table.users = s.table.users) (made : table.made = s.table.made)
    (used : ∀ share, phase = .raising share ∨ phase = .held share → s.InUse user share) :
    (s.put table i user phase).Coherent := by
  constructor
  · intro user' share inUse
    show table.users.lookup user' = some share
    rw [users]
    rcases inUse.of_put with old | ⟨rfl, now⟩
    · exact coherent.entered user' share old
    · exact coherent.entered user' share (used share now)
  · intro user' share found
    show share < table.made
    rw [made]
    exact coherent.made user' share (users ▸ found)

theorem Coherent.acquire (coherent : s.Coherent) (user : υ) : (s.acquire user).Coherent := by
  have joined {share : Nat} {table : CidrShares υ} {user' : υ} {share' : Nat}
      (inUse : InUse { table := table, leases := s.leases ++ [(user, .raising share)] } user' share') :
      s.InUse user' share' ∨ user' = user ∧ share' = share := by
    rcases inUse with member | member
    · rcases List.mem_append.mp member with old | new
      · exact .inl (.inl old)
      · cases List.mem_singleton.mp new
        exact .inr ⟨rfl, rfl⟩
    · rcases List.mem_append.mp member with old | new
      · exact .inl (.inr old)
      · cases List.mem_singleton.mp new
  unfold SharedBucket.acquire CidrShares.getOrInsert
  cases found : s.table.users.lookup user with
  | some share =>
    refine ⟨?_, coherent.made⟩
    intro user' share' inUse
    rcases joined inUse with old | ⟨rfl, rfl⟩
    · exact coherent.entered user' share' old
    · exact found
  | none =>
    constructor
    · intro user' share' inUse
      rw [Dict.lookup_insert_ite]
      rcases joined inUse with old | ⟨rfl, rfl⟩
      · -- A user without an entry has no share in use.
        have entry := coherent.entered user' share' old
        have other : user' ≠ user := by
          rintro rfl
          cases found.symm.trans entry
        rw [if_neg other]
        exact entry
      · exact if_pos rfl
    · intro user' share' present
      rw [Dict.lookup_insert_ite] at present
      split_ifs at present with same
      · cases present
        exact Nat.lt_succ_self _
      · exact Nat.lt_succ_of_lt (coherent.made user' share' present)

theorem coherent_remove {leases : List (υ × SharePhase)} (coherent : s.Coherent)
    (fewer : ∀ user' share, InUse { s with leases := leases } user' share → s.InUse user' share)
    (unused : ∀ share ∈ s.table.users.lookup user, ¬s.InUse user share) :
    Coherent { table := s.table.remove user, leases := leases } := by
  constructor
  · intro user' share inUse
    have before : s.InUse user' share := fewer user' share inUse
    have entry := coherent.entered user' share before
    have other : user' ≠ user := by
      rintro rfl
      exact unused share entry before
    show (s.table.users.erase user).lookup user' = some share
    rw [Dict.lookup_erase_ite, if_neg other]
    exact entry
  · intro user' share present
    have present : (s.table.users.erase user).lookup user' = some share := present
    rw [Dict.lookup_erase_ite] at present
    split_ifs at present
    exact coherent.made user' share present

theorem Coherent.sweep (coherent : s.Coherent) (careful : s.Careful (.sweep user)) :
    Coherent { s with table := s.table.sweep user } := by
  unfold CidrShares.sweep
  split
  · exact ⟨coherent.entered, coherent.made⟩
  · rename_i share found
    split_ifs with busy
    · exact ⟨coherent.entered, coherent.made⟩
    · apply coherent_remove coherent (fun _ _ inUse => inUse)
      intro share' found'
      exact careful share' found' (by
        cases found.symm.trans found'
        exact Nat.eq_zero_of_not_pos busy)

variable {event : ShareEvent υ}

theorem Coherent.step (coherent : s.Coherent) (careful : s.Careful event)
    (taken : s.step event = some t) : t.Coherent := by
  cases event with
  | acquire user =>
    cases taken
    exact coherent.acquire user
  | sweep user =>
    cases taken
    exact coherent.sweep careful
  | drop i =>
    obtain ⟨⟨user, phase⟩, position, taken⟩ := Option.bind_eq_some_iff.mp taken
    cases phase with
    | held share =>
      cases taken
      exact coherent.put rfl rfl (by simp)
    | _ => cases taken
  | advance i =>
    obtain ⟨⟨_, phase⟩, position, taken⟩ := Option.bind_eq_some_iff.mp taken
    have member := List.mem_of_getElem? position
    cases phase with
    | raising share =>
      cases taken
      refine coherent.put rfl rfl ?_
      rintro share' (same | same)
      · cases same
      · cases same
        exact .inl member
    | testing share =>
      cases taken
      refine coherent.put rfl rfl ?_
      split_ifs <;> simp
    | removing =>
      cases taken
      refine coherent_remove coherent ?_ (careful _ position rfl)
      intro user' share inUse
      rcases InUse.of_put inUse with old | ⟨_, now⟩
      · exact old
      · simp at now
    | held share | released => cases taken

theorem coherent_empty : Coherent ({} : SharedBucket υ) := by
  constructor
  · rintro user share (member | member)
    · cases member
    · cases member
  · intro user share found
    cases found

theorem Coherent.sameShare (coherent : s.Coherent) : s.SameShare := by
  intro user share share' first second
  have entry := coherent.entered user share (.inr first)
  have entry' := coherent.entered user share' (.inr second)
  exact Option.some.inj (entry.symm.trans entry')

theorem run_release (position : s.leases[i]? = some (user, .held share)) :
    runFrom SharedBucket.step s ([.drop i, .advance i] ++
        if (s.table.lower share).isIdle user share then [.advance i] else []) =
      some ⟨s.table.releaseUserShare user share, s.leases.set i (user, .released)⟩ := by
  obtain ⟨inside, _⟩ := List.getElem?_eq_some_iff.mp position
  have dropped : s.step (.drop i) = some (s.put (s.table.lower share) i user (.testing share)) := by
    rw [SharedBucket.step, position]
    rfl
  have here (table : CidrShares υ) (phase : SharePhase) :
      (s.put table i user phase).leases[i]? = some (user, phase) := List.getElem?_set_self inside
  have tested : (s.put (s.table.lower share) i user (.testing share)).step (.advance i) =
      some (s.put (s.table.lower share) i user
        (if (s.table.lower share).isIdle user share then .removing else .released)) := by
    rw [SharedBucket.step, here]
    exact congrArg some (congrArg (SharedBucket.mk _) (List.set_set _))
  have removed : (s.put (s.table.lower share) i user .removing).step (.advance i) =
      some (s.put ((s.table.lower share).remove user) i user .released) := by
    rw [SharedBucket.step, here]
    exact congrArg some (congrArg (SharedBucket.mk _) (List.set_set _))
  refine runFrom_cons_eq_some.mpr ⟨_, dropped, runFrom_cons_eq_some.mpr ⟨_, tested, ?_⟩⟩
  unfold CidrShares.releaseUserShare
  dsimp only
  split_ifs
  · exact runFrom_cons_eq_some.mpr ⟨_, removed, rfl⟩
  · rfl

theorem last_lease_released :
    ∃ s : SharedBucket Nat, runFrom SharedBucket.step {} [.acquire 7, .advance 0, .acquire 8] = some s ∧
      runFrom SharedBucket.step s [.drop 0, .advance 0, .advance 0] =
        some ⟨s.table.releaseUserShare 7 0, [(7, .released), (8, .raising 1)]⟩ ∧
      s.table.users.lookup 7 = some 0 ∧ (s.table.releaseUserShare 7 0).users.lookup 7 = none := by
  obtain ⟨s, run⟩ : ∃ s : SharedBucket Nat,
      runFrom SharedBucket.step {} [.acquire 7, .advance 0, .acquire 8] = some s := ⟨_, rfl⟩
  have held : s.leases = [(7, .held 0), (8, .raising 1)] := by cases run; rfl
  have idle : (s.table.lower 0).isIdle 7 0 = true := by cases run; decide
  have released := @run_release Nat _ s 0 0 7 (by rw [held]; rfl)
  rw [idle, held] at released
  exact ⟨s, run, released, by cases run; rfl, by cases run; rfl⟩

theorem coherent_run {events : List (ShareEvent υ)}
    (careful : Guarded SharedBucket.step SharedBucket.Careful s events) (coherent : s.Coherent)
    (run : runFrom SharedBucket.step s events = some t) : t.Coherent := by
  apply runFrom_invariant Coherent _ careful coherent run
  intro s event t careful coherent taken
  exact coherent.step careful taken

/-!
## A careless removal

The removed share is still in use, so the next lease of the user splits them.
-/

theorem mem_set_of_ne {α : Type} {values : List α} {value old new : α} (member : value ∈ values)
    (position : values[i]? = some old) (other : value ≠ old) :
    value ∈ values.set i new := by
  obtain ⟨j, found⟩ := List.mem_iff_getElem?.mp member
  have apart : i ≠ j := by
    rintro rfl
    exact other (Option.some.inj (found.symm.trans position))
  exact List.mem_iff_getElem?.mpr ⟨j, (List.getElem?_set_ne apart).trans found⟩

theorem removed_of_careless (coherent : s.Coherent) (taken : s.step event = some t)
    (careless : ¬s.Careful event) :
    ∃ user share, t.InUse user share ∧ t.table.users.lookup user = none ∧ share < t.table.made := by
  cases event with
  | acquire user | drop i => exact absurd trivial careless
  | sweep user =>
    simp only [Careful, not_forall, not_not] at careless
    obtain ⟨share, found, idle, used⟩ := careless
    cases taken
    have removed : s.table.sweep user = s.table.remove user := by
      unfold CidrShares.sweep
      rw [Option.mem_def.mp found]
      exact if_neg (Nat.not_lt.mpr idle.le)
    refine ⟨user, share, used, ?_, ?_⟩
    · rw [removed]
      exact AList.lookup_erase _ _
    · rw [removed]
      exact coherent.made user share found
  | advance i =>
    simp only [Careful, not_forall, not_not] at careless
    obtain ⟨⟨user, _⟩, position, removing, share, found, used⟩ := careless
    cases removing
    obtain ⟨_, position', taken⟩ := Option.bind_eq_some_iff.mp taken
    cases (Option.mem_def.mp position).symm.trans position'
    cases taken
    refine ⟨user, share, ?_, AList.lookup_erase _ _, coherent.made user share found⟩
    rcases used with member | member
    · exact .inl (mem_set_of_ne member position (by simp))
    · exact .inr (mem_set_of_ne member position (by simp))

theorem hold_of_raising (member : (user, .raising share) ∈ s.leases) :
    ∃ i t, s.step (.advance i) = some t ∧ t.table = s.table.raise share ∧
      (user, .held share) ∈ t.leases ∧
      ∀ user' share', (user', .held share') ∈ s.leases → (user', .held share') ∈ t.leases := by
  obtain ⟨i, position⟩ := List.mem_iff_getElem?.mp member
  obtain ⟨inside, _⟩ := List.getElem?_eq_some_iff.mp position
  refine ⟨i, s.put (s.table.raise share) i user (.held share), ?_, rfl, ?_, ?_⟩
  · rw [SharedBucket.step, position]
    rfl
  · exact List.mem_set inside _
  · intro user' share' held
    exact mem_set_of_ne held position (by simp)

theorem splits_of_held (held : (user, .held share) ∈ s.leases)
    (absent : s.table.users.lookup user = none) (older : share < s.table.made) :
    ∃ later t, runFrom SharedBucket.step s later = some t ∧ ¬t.SameShare := by
  have raising : (user, .raising s.table.made) ∈ (s.acquire user).leases := by
    simp [SharedBucket.acquire, CidrShares.getOrInsert, absent]
  obtain ⟨i, t, moved, _, fresh, keeps⟩ := hold_of_raising raising
  refine ⟨[.acquire user, .advance i], t, ?_, ?_⟩
  · exact runFrom_cons_eq_some.mpr ⟨_, rfl, runFrom_cons_eq_some.mpr ⟨t, moved, rfl⟩⟩
  · intro same
    have still := keeps _ _ (List.mem_append_left _ held)
    exact older.ne (same _ _ _ still fresh)

theorem careless_removal_splits (coherent : s.Coherent) (taken : s.step event = some t)
    (careless : ¬s.Careful event) :
    ∃ later u, runFrom SharedBucket.step t later = some u ∧ ¬u.SameShare := by
  obtain ⟨_, _, used, absent, older⟩ := removed_of_careless coherent taken careless
  rcases used with raising | held
  · obtain ⟨i, next, moved, table, holds, _⟩ := hold_of_raising raising
    obtain ⟨later, u, run, split⟩ := splits_of_held holds (table ▸ absent) (table ▸ older)
    exact ⟨.advance i :: later, u, runFrom_cons_eq_some.mpr ⟨next, moved, run⟩, split⟩
  · exact splits_of_held held absent older

theorem swept_share_splits :
    ∃ t, (({} : SharedBucket Unit).acquire ()).step (.sweep ()) = some t ∧
      ∃ later u, runFrom step t later = some u ∧ ¬u.SameShare :=
  ⟨_, rfl, @careless_removal_splits _ _ _ _ (.sweep ())
    (coherent_run (show Guarded _ _ _ [.acquire ()] by decide) coherent_empty rfl) rfl (by decide)⟩

end SharedBucket

open SharedBucket

variable {υ : Type} [DecidableEq υ]

theorem one_share_while_removals_careful (events : List (ShareEvent υ)) (s : SharedBucket υ)
    (careful : Guarded SharedBucket.step SharedBucket.Careful {} events)
    (run : runFrom SharedBucket.step {} events = some s) : s.SameShare :=
  (coherent_run careful coherent_empty run).sameShare

def sharedLeases : List (ShareEvent Unit) :=
  [.acquire (), .advance 0, .acquire (), .advance 1, .drop 0, .advance 0, .sweep (), .acquire (),
    .advance 2]

theorem shared_leases_one_share :
    ∃ s : SharedBucket Unit, runFrom SharedBucket.step {} sharedLeases = some s ∧ s.SameShare ∧
      s.leases = [((), .released), ((), .held 0), ((), .held 0)] := by
  have reached : (runFrom SharedBucket.step ({} : SharedBucket Unit) sharedLeases).map
      SharedBucket.leases = some [((), .released), ((), .held 0), ((), .held 0)] := by decide +kernel
  obtain ⟨s, run, leases⟩ := Option.map_eq_some_iff.mp reached
  exact ⟨s, run, one_share_while_removals_careful sharedLeases s (by decide +kernel) run, leases⟩

-- The second lease has its share in hand when the first one tests it and finds it idle.
def crossedLeases : List (ShareEvent Unit) :=
  [.acquire (), .advance 0, .acquire (), .drop 0, .advance 0, .advance 0, .advance 1, .acquire (),
    .advance 2]

theorem crossed_leases_two_shares :
    ∃ s : SharedBucket Unit, runFrom SharedBucket.step {} crossedLeases = some s ∧ ¬s.SameShare := by
  have reached : (runFrom SharedBucket.step ({} : SharedBucket Unit) crossedLeases).map
      SharedBucket.leases = some [((), .released), ((), .held 0), ((), .held 1)] := by decide +kernel
  obtain ⟨s, run, leases⟩ := Option.map_eq_some_iff.mp reached
  refine ⟨s, run, ?_⟩
  intro same
  have equal := same () 0 1 (by rw [leases]; simp) (by rw [leases]; simp)
  cases equal

end Telemt.TrafficLimiter
