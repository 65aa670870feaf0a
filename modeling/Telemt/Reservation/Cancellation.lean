import Telemt.IpTracker.Operations
import Telemt.Reservation.Model

namespace Telemt.Reservation
open Telemt.Foundation Telemt.IpTracker

/-!
# The futures of `acquire` and `release`

Each future is the await it stands at, with the values it holds across it. Every await of the two
functions is the wait for a shard's write lock: in `drain_cleanup_for_user`, once for each shard in
`maybe_compact_empty_users`, and before the locked part of `check_and_add` or `remove_ip`. A poll
carries the future to its next await or to its end, a cancellation drops it where it stands. A future
that was never polled has done nothing; dropping an unpolled `release` drops the reservation it owns.

The background drain of the queue is a batch between `take` and `apply`.
-/

inductive AcquireStage
  | drain (toRemove : List ((String × IpAddr) × Nat))
  | compact (now : Instant) (window : Duration) (remaining : List ShardIdx)
  | lock (limit : Option Nat) (mode : UserMaxUniqueIpsMode) (window : Duration) (now : Instant)
  deriving DecidableEq

inductive ReleaseStage
  | compact (now : Instant) (window : Duration) (remaining : List ShardIdx)
  | lock
  deriving DecidableEq

inductive Future
  | acquire (user : String) (ip : IpAddr) (stage : AcquireStage)
  | release (reservation : UserConnectionReservation) (stage : ReleaseStage)
  deriving DecidableEq

structure System where
  server : Server
  futures : List Future := []
  reservations : List UserConnectionReservation := []
  batches : List Batch := []

def System.tracked (s : System) : Tracked := ⟨s.server.ipTracker, s.batches⟩

def System.withTracked (s : System) (next : Tracked) : System :=
  { s with server.ipTracker := next.tracker, batches := next.batches }

inductive SystemOp
  | acquire (config : AccessConfig) (user : String) (ip : IpAddr) (utcNow : Int) (clock : Clock)
  | release (reservation : UserConnectionReservation) (clock : Clock)
  | poll (future : Future) (clock : Clock)
  | cancel (future : Future)
  | dropped (reservation : UserConnectionReservation)
  | drainTake (idx : ShardIdx) (picks : List (String × IpAddr))
  | drainApply (batch : Batch)

section Steps
variable (shardIdx : String → ShardIdx) (t : UserIpTracker)

def lockStage (user : String) (clock : Clock) : AcquireStage :=
  .lock (t.userLimit user) t.limitMode t.limitWindow clock.now

def compactStage (clock : Clock) : Option (UserIpTracker × Instant × Duration × List ShardIdx) :=
  if compactionDue t clock.epochSecs then
    some ({ t with lastCompactEpochSecs := clock.epochSecs }, clock.now, t.limitWindow,
      List.finRange userIpTrackerShards)
  else none

def afterDrain (user : String) (clock : Clock) : UserIpTracker × AcquireStage :=
  match compactStage t clock with
  | none => (t, lockStage t user clock)
  | some (t, now, window, remaining) => (t, .compact now window remaining)

def beginCheckAndAdd (user : String) (clock : Clock) : UserIpTracker × AcquireStage :=
  match takeCleanupForUser shardIdx t user with
  | (t, []) => afterDrain t user clock
  | (t, entry :: toRemove) => (t, .drain (entry :: toRemove))

def beginRemoveIp (clock : Clock) : UserIpTracker × ReleaseStage :=
  match compactStage t clock with
  | none => (t, .lock)
  | some (t, now, window, remaining) => (t, .compact now window remaining)

def System.pollAcquire (s : System) (user : String) (ip : IpAddr) (clock : Clock) :
    AcquireStage → System
  | .drain toRemove =>
    let (t, stage) := afterDrain (applyDrained s.server.ipTracker (shardIdx user) toRemove) user clock
    { s with server.ipTracker := t, futures := .acquire user ip stage :: s.futures }
  | .compact now window (idx :: rest) =>
    let t := compactShard s.server.ipTracker now window idx
    let stage := if rest = [] then lockStage t user clock else .compact now window rest
    { s with server.ipTracker := t, futures := .acquire user ip stage :: s.futures }
  | .compact _ _ [] =>
    { s with futures := .acquire user ip (lockStage s.server.ipTracker user clock) :: s.futures }
  | .lock limit mode window now =>
    let (t, answer) := checkAndAddLocked shardIdx s.server.ipTracker user ip limit mode window now
    match finishAcquire s.server.stats user ip answer with
    | (stats, .ok r) => { s with server := ⟨stats, t⟩, reservations := r :: s.reservations }
    | (stats, .error _) => { s with server := ⟨stats, t⟩ }

def System.pollRelease (s : System) (r : UserConnectionReservation) : ReleaseStage → System
  | .compact now window (idx :: rest) =>
    let stage := if rest = [] then .lock else .compact now window rest
    { s with
      server.ipTracker := compactShard s.server.ipTracker now window idx
      futures := .release r stage :: s.futures }
  | .compact _ _ [] => { s with futures := .release r .lock :: s.futures }
  | .lock =>
    let t := removeIpLocked shardIdx s.server.ipTracker r.user r.ip
    let stats := s.server.stats.decrementUserCurrConnects r.user
    { s with server := dropReservation shardIdx ⟨stats, t⟩ r }

def systemStep (s : System) : SystemOp → Option System
  | .acquire config user ip utcNow clock =>
    match beginAcquire s.server.stats config user utcNow with
    | (stats, .error _) => some { s with server.stats := stats }
    | (stats, .ok ()) =>
      let (t, stage) := beginCheckAndAdd shardIdx s.server.ipTracker user clock
      some { s with server := ⟨stats, t⟩, futures := .acquire user ip stage :: s.futures }
  | .release r clock =>
    if r ∈ s.reservations then
      let s := { s with reservations := s.reservations.erase r }
      match r.markReleased with
      | none => some { s with server := dropReservation shardIdx s.server r }
      | some r =>
        if r.tracksIp then
          let (t, stage) := beginRemoveIp s.server.ipTracker clock
          some { s with server.ipTracker := t, futures := .release r stage :: s.futures }
        else
          let stats := s.server.stats.decrementUserCurrConnects r.user
          some { s with server := dropReservation shardIdx ⟨stats, s.server.ipTracker⟩ r }
    else none
  | .poll future clock =>
    if future ∈ s.futures then
      let s := { s with futures := s.futures.erase future }
      match future with
      | .acquire user ip stage => some (s.pollAcquire shardIdx user ip clock stage)
      | .release r stage => some (s.pollRelease shardIdx r stage)
    else none
  | .cancel future =>
    if future ∈ s.futures then
      let s := { s with futures := s.futures.erase future }
      match future with
      | .acquire _ _ _ => some s
      | .release r _ => some { s with server := dropReservation shardIdx s.server r }
    else none
  | .dropped r =>
    if r ∈ s.reservations then
      some { s with
        server := dropReservation shardIdx s.server r
        reservations := s.reservations.erase r }
    else none
  | .drainTake idx picks =>
    some (s.withTracked (s.tracked.drainTake idx (takeCleanupShard s.server.ipTracker idx picks)))
  | .drainApply batch => (s.tracked.drainApply batch).map s.withTracked

variable (user : String)

def Future.connections : Future → Nat
  | .acquire user' _ _ => if user = user' then 1 else 0
  | .release r _ => if user = r.user then 1 else 0

def Future.sessions (ip : IpAddr) : Future → Nat
  | .acquire _ _ (.drain toRemove) => drainedCount toRemove user ip
  | .acquire _ _ (.compact _ _ _) | .acquire _ _ (.lock _ _ _ _) => 0
  | .release r _ => if user = r.user ∧ ip = r.ip then 1 else 0

def UserConnectionReservation.connections (r : UserConnectionReservation) : Nat :=
  if user = r.user then 1 else 0

def UserConnectionReservation.sessions (ip : IpAddr) (r : UserConnectionReservation) : Nat :=
  if user = r.user ∧ ip = r.ip then 1 else 0

def System.heldConnections (s : System) (user : String) : Nat :=
  (s.futures.map (Future.connections user)).sum +
    (s.reservations.map (UserConnectionReservation.connections user)).sum

def System.heldSessions (s : System) (user : String) (ip : IpAddr) : Nat :=
  (s.futures.map (Future.sessions user ip)).sum +
    (s.reservations.map (UserConnectionReservation.sessions user ip)).sum +
    (s.batches.map fun batch => drainedCount batch.toRemove user ip).sum +
    pendingCount shardIdx s.server.ipTracker user ip

def Future.WellPlaced : Future → Prop
  | .acquire user _ (.drain toRemove) => Belongs shardIdx (shardIdx user) toRemove
  | .acquire _ _ (.compact _ _ _) | .acquire _ _ (.lock _ _ _ _) => True
  | .release r _ => r.state = .released

structure Conserved (base : Server) (s : System) : Prop where
  enabled : s.server.stats.telemetryUserEnabled = true
  coherent : Coherent shardIdx s.server.ipTracker
  futures : ∀ future ∈ s.futures, future.WellPlaced shardIdx
  batches : ∀ batch ∈ s.batches, Belongs shardIdx batch.idx batch.toRemove
  reservations : ∀ r ∈ s.reservations, r.state = .active ∧ r.tracksIp = true
  connections : ∀ user, s.server.stats.getUserCurrConnects user =
    base.stats.getUserCurrConnects user + s.heldConnections user
  sessions : ∀ user ip, activeCount shardIdx s.server.ipTracker user ip =
    activeCount shardIdx base.ipTracker user ip + s.heldSessions shardIdx user ip

variable {shardIdx} {base : Server} {s s' : System}

section
variable (before : Conserved shardIdx base s)
include before

theorem conserved_of_delta (enabled : s'.server.stats.telemetryUserEnabled = true)
    (coherent : Coherent shardIdx s'.server.ipTracker)
    (futures : ∀ future ∈ s'.futures, future.WellPlaced shardIdx)
    (batches : ∀ batch ∈ s'.batches, Belongs shardIdx batch.idx batch.toRemove)
    (reservations : ∀ r ∈ s'.reservations, r.state = .active ∧ r.tracksIp = true)
    (connections : ∀ user, s'.server.stats.getUserCurrConnects user + s.heldConnections user = s.server.stats.getUserCurrConnects user + s'.heldConnections user)
    (sessions : ∀ user ip, activeCount shardIdx s'.server.ipTracker user ip + s.heldSessions shardIdx user ip = activeCount shardIdx s.server.ipTracker user ip + s'.heldSessions shardIdx user ip) :
    Conserved shardIdx base s' := by
  refine ⟨enabled, coherent, futures, batches, reservations, ?_, ?_⟩
  · intro user
    have moved := connections user
    have held := before.connections user
    omega
  · intro user ip
    have moved := sessions user ip
    have held := before.sessions user ip
    omega

theorem Conserved.futures_erase (future : Future) :
    ∀ other ∈ s.futures.erase future, other.WellPlaced shardIdx :=
  fun other member => before.futures other (List.mem_of_mem_erase member)

theorem Conserved.reservations_erase (r : UserConnectionReservation) :
    ∀ other ∈ s.reservations.erase r, other.state = .active ∧ other.tracksIp = true :=
  fun other member => before.reservations other (List.mem_of_mem_erase member)

end

structure Unchanged (shardIdx : String → ShardIdx) (t t' : UserIpTracker) : Prop where
  coherent : Coherent shardIdx t'
  active : ∀ user ip, activeCount shardIdx t' user ip = activeCount shardIdx t user ip
  pending : ∀ user ip, pendingCount shardIdx t' user ip = pendingCount shardIdx t user ip

variable {t : UserIpTracker}

theorem unchanged_of_compacts {now : Instant} {window : Duration} {t' : UserIpTracker}
    (compacts : Compacts now window t t') (coherent : Coherent shardIdx t) :
    Unchanged shardIdx t t' :=
  ⟨compacts.coherent coherent, compacts.activeCount, compacts.pendingCount⟩

variable {clock : Clock}

section
variable (coherent : Coherent shardIdx t) (user : String) (ip : IpAddr)
include coherent

theorem compactStage_unchanged {t' : UserIpTracker} {now : Instant} {window : Duration}
    {remaining : List ShardIdx} (due : compactStage t clock = some (t', now, window, remaining)) :
    Unchanged shardIdx t t' := by
  unfold compactStage at due
  split_ifs at due
  cases due
  exact ⟨coherent_of_active coherent rfl rfl coherent.activePositive, fun _ _ => rfl, fun _ _ => rfl⟩

theorem afterDrain_spec (clock : Clock) :
    Unchanged shardIdx t (afterDrain t user clock).1 ∧
    (Future.acquire user ip (afterDrain t user clock).2).WellPlaced shardIdx ∧
    ∀ user' ip', (Future.acquire user ip (afterDrain t user clock).2).sessions user' ip' = 0 := by
  unfold afterDrain
  cases due : compactStage t clock with
  | none => exact ⟨⟨coherent, fun _ _ => rfl, fun _ _ => rfl⟩, trivial, fun _ _ => rfl⟩
  | some =>
    exact ⟨compactStage_unchanged coherent due, trivial, fun _ _ => rfl⟩

theorem beginCheckAndAdd_spec (clock : Clock) : let next := beginCheckAndAdd shardIdx t user clock
    Coherent shardIdx next.1 ∧ (Future.acquire user ip next.2).WellPlaced shardIdx ∧
    (∀ user' ip', activeCount shardIdx next.1 user' ip' = activeCount shardIdx t user' ip') ∧
    ∀ user' ip', pendingCount shardIdx t user' ip' = pendingCount shardIdx next.1 user' ip' +
      (Future.acquire user ip next.2).sessions user' ip' := by
  have takes := takeCleanupForUser_takes coherent user
  unfold beginCheckAndAdd
  cases taken : takeCleanupForUser shardIdx t user with
  | mk _ toRemove =>
    rw [taken] at takes
    cases toRemove with
    | nil =>
      obtain ⟨unchanged, placed, nothing⟩ := afterDrain_spec takes.coherent user ip clock
      refine ⟨unchanged.coherent, placed, ?_, ?_⟩
      · intro user' ip'
        exact (unchanged.active user' ip').trans (takes.active user' ip')
      · intro user' ip'
        rw [nothing, unchanged.pending]
        exact takes.pending user' ip'
    | cons =>
      exact ⟨takes.coherent, takes.belongs, takes.active, takes.pending⟩

end

variable {user : String} {ip : IpAddr}

section
variable (before : Conserved shardIdx base s)
include before

theorem beginAcquire_conserved {config : AccessConfig} {utcNow : Int}
    (moved : systemStep shardIdx s (.acquire config user ip utcNow clock) = some s') :
    Conserved shardIdx base s' := by
  obtain ⟨telemetry, counts⟩ := beginAcquire_counts s.server.stats config user utcNow
  simp only [systemStep] at moved
  generalize beginAcquire s.server.stats config user utcNow = begun at telemetry counts moved
  obtain ⟨_, _ | _⟩ := begun
  · cases moved
    cases counts with
    | refused same =>
      refine conserved_of_delta before (telemetry.trans before.enabled) before.coherent before.futures
        before.batches before.reservations ?_ (fun _ _ => rfl)
      intro user'
      rw [same]
      rfl
  · cases moved
    cases counts with
    | uncounted off => exact absurd (before.enabled.symm.trans off) nofun
    | counted _ _ counts =>
      obtain ⟨coherent, placed, active, pending⟩ :=
        beginCheckAndAdd_spec before.coherent user ip clock
      refine conserved_of_delta before (telemetry.trans before.enabled) coherent
        (List.forall_mem_cons.mpr ⟨placed, before.futures⟩) before.batches before.reservations ?_ ?_
      · intro user'
        have counted := counts user'
        simp only [System.heldConnections, List.map_cons, List.sum_cons, Future.connections] at counted ⊢
        omega
      · intro user' ip'
        have same := active user' ip'
        have taken := pending user' ip'
        simp only [System.heldSessions, List.map_cons, List.sum_cons]
        omega

theorem replace_conserved {future future' : Future} (present : future ∈ s.futures)
    (unchanged : Unchanged shardIdx s.server.ipTracker t) (placed : future'.WellPlaced shardIdx)
    (connections : ∀ user, future'.connections user = future.connections user)
    (sessions : ∀ user ip, future'.sessions user ip = future.sessions user ip) :
    Conserved shardIdx base
      { s with server.ipTracker := t, futures := future' :: s.futures.erase future } := by
  refine conserved_of_delta before before.enabled unchanged.coherent
    (List.forall_mem_cons.mpr ⟨placed, before.futures_erase future⟩) before.batches before.reservations
    ?_ ?_
  · intro user
    have split := List.sum_map_erase (Future.connections user) present
    simp only [System.heldConnections, List.map_cons, List.sum_cons, connections]
    omega
  · intro user ip
    have split := List.sum_map_erase (Future.sessions user ip) present
    have active := unchanged.active user ip
    have pending := unchanged.pending user ip
    simp only [System.heldSessions, List.map_cons, List.sum_cons, sessions]
    omega

theorem pollDrain_conserved {toRemove : List ((String × IpAddr) × Nat)} (clock : Clock)
    (present : Future.acquire user ip (.drain toRemove) ∈ s.futures) :
    Conserved shardIdx base
      (System.pollAcquire shardIdx
        { s with futures := s.futures.erase (.acquire user ip (.drain toRemove)) } user ip clock
        (.drain toRemove)) := by
  have own := before.futures _ present
  have coherent := applyDrained_coherent before.coherent (shardIdx user) toRemove
  obtain ⟨unchanged, placed, nothing⟩ := afterDrain_spec coherent user ip clock
  refine conserved_of_delta before before.enabled unchanged.coherent
    (List.forall_mem_cons.mpr ⟨placed, before.futures_erase _⟩) before.batches before.reservations ?_ ?_
  · intro user'
    have split := List.sum_map_erase (Future.connections user') present
    simp only [System.pollAcquire, System.heldConnections, List.map_cons, List.sum_cons,
      Future.connections] at split ⊢
    omega
  · intro user' ip'
    have split := List.sum_map_erase (Future.sessions user' ip') present
    have held := before.sessions user' ip'
    have drained := applyDrained_active s.server.ipTracker own user' ip'
    have active := unchanged.active user' ip'
    have pending := unchanged.pending user' ip'
    have none := nothing user' ip'
    have same : pendingCount shardIdx
        (applyDrained s.server.ipTracker (shardIdx user) toRemove) user' ip' =
        pendingCount shardIdx s.server.ipTracker user' ip' := rfl
    simp only [System.pollAcquire, System.heldSessions, List.map_cons, List.sum_cons] at held ⊢
    simp only [Future.sessions] at split
    omega

section
variable {user : String} {ip : IpAddr} {limit : Option Nat} {mode : UserMaxUniqueIpsMode}
  {window : Duration} {now : Instant} {t : UserIpTracker} {userRecent : Dict IpAddr Instant}

section
variable (present : Future.acquire user ip (.lock limit mode window now) ∈ s.futures)
include present

theorem refusedAcquire_conserved
    (stores : Stores s.server.ipTracker t (shardIdx user) user
      (Dict.inner (s.server.ipTracker.shards (shardIdx user)).activeIps user) userRecent) :
    Conserved shardIdx base
      { s with
        server := ⟨s.server.stats.decrementUserCurrConnects user, t⟩
        futures := s.futures.erase (.acquire user ip (.lock limit mode window now)) } := by
  refine conserved_of_delta before ((decrement_telemetry _ _).trans before.enabled)
    (stores.coherent before.coherent (before.coherent.activePositive _ user)) (before.futures_erase _)
    before.batches before.reservations ?_ ?_
  · intro user'
    have split := List.sum_map_erase (Future.connections user') present
    have held := before.connections user'
    have counted := decrement_currConnects s.server.stats user user'
    simp only [System.heldConnections, Future.connections] at split held ⊢
    omega
  · intro user' ip'
    have split := List.sum_map_erase (Future.sessions user' ip') present
    have active := stores.activeCount user' ip'
    have pending := @Stores.pendingCount shardIdx _ _ _ _ _ _ stores user' ip'
    have same : activeCount shardIdx t user' ip' =
        activeCount shardIdx s.server.ipTracker user' ip' := by
      rw [active]
      split_ifs with here
      · rw [here]
        rfl
      · rfl
    simp only [System.heldSessions, Future.sessions] at split ⊢
    omega

theorem admittedAcquire_conserved
    (stores : let active := Dict.inner (s.server.ipTracker.shards (shardIdx user)).activeIps user
      Stores s.server.ipTracker t (shardIdx user) user
        (active.insert ip ((active.lookup ip).getD 0 + 1)) userRecent) :
    Conserved shardIdx base
      { s with
        server := ⟨s.server.stats, t⟩
        futures := s.futures.erase (.acquire user ip (.lock limit mode window now))
        reservations := { user := user, ip := ip, tracksIp := true } :: s.reservations } := by
  refine conserved_of_delta before before.enabled
    (stores.coherent before.coherent (positive_insert before.coherent _)) (before.futures_erase _)
    before.batches (List.forall_mem_cons.mpr ⟨⟨rfl, rfl⟩, before.reservations⟩) ?_ ?_
  · intro user'
    have split := List.sum_map_erase (Future.connections user') present
    simp only [System.heldConnections, Future.connections, List.map_cons, List.sum_cons,
      UserConnectionReservation.connections] at split ⊢
    omega
  · intro user' ip'
    have split := List.sum_map_erase (Future.sessions user' ip') present
    have active := activeCount_admitted stores user' ip'
    have pending := @Stores.pendingCount shardIdx _ _ _ _ _ _ stores user' ip'
    simp only [System.heldSessions, Future.sessions, List.map_cons, List.sum_cons,
      UserConnectionReservation.sessions] at split ⊢
    omega

end

end

theorem pollAcquire_conserved {stage : AcquireStage} (clock : Clock)
    (present : Future.acquire user ip stage ∈ s.futures) :
    Conserved shardIdx base
      (System.pollAcquire shardIdx { s with futures := s.futures.erase (.acquire user ip stage) }
        user ip clock stage) := by
  cases stage with
  | drain => exact pollDrain_conserved before clock present
  | compact now window remaining =>
    cases remaining with
    | nil =>
      exact replace_conserved before present ⟨before.coherent, fun _ _ => rfl, fun _ _ => rfl⟩
        trivial (fun _ => rfl) (fun _ _ => rfl)
    | cons idx =>
      have unchanged := unchanged_of_compacts
        (compactShard_compacts s.server.ipTracker now window idx) before.coherent
      simp only [System.pollAcquire]
      split_ifs
      all_goals exact replace_conserved before present unchanged trivial (fun _ => rfl) (fun _ _ => rfl)
  | lock limit mode window now =>
    have cases := @checkAndAddLocked_cases shardIdx s.server.ipTracker user ip limit mode window now
    simp only [System.pollAcquire]
    generalize checkAndAddLocked shardIdx s.server.ipTracker user ip limit mode window now = result
      at cases
    obtain ⟨t, _⟩ := result
    rcases cases with ⟨message, ⟨⟩, stores⟩ | ⟨⟨⟩, _, stores⟩
    · exact refusedAcquire_conserved before present stores
    · exact admittedAcquire_conserved before present stores

variable {r : UserConnectionReservation}

theorem release_conserved
    (moved : systemStep shardIdx s (.release r clock) = some s') : Conserved shardIdx base s' := by
  simp only [systemStep] at moved
  split_ifs at moved with present
  obtain ⟨active, tracks⟩ := before.reservations r present
  simp only [UserConnectionReservation.markReleased, active, ne_eq, not_true_eq_false, if_false,
    tracks, if_true, Option.some.injEq] at moved
  have unchanged : Unchanged shardIdx s.server.ipTracker (beginRemoveIp s.server.ipTracker clock).1 := by
    unfold beginRemoveIp
    cases due : compactStage s.server.ipTracker clock with
    | none => exact ⟨before.coherent, fun _ _ => rfl, fun _ _ => rfl⟩
    | some =>
      exact compactStage_unchanged before.coherent due
  subst moved
  refine conserved_of_delta before before.enabled unchanged.coherent
    (List.forall_mem_cons.mpr ⟨rfl, before.futures⟩) before.batches (before.reservations_erase r) ?_ ?_
  · intro user'
    have split := List.sum_map_erase (UserConnectionReservation.connections user') present
    simp only [System.heldConnections, List.map_cons, List.sum_cons, Future.connections,
      UserConnectionReservation.connections] at split ⊢
    omega
  · intro user' ip'
    have split := List.sum_map_erase (UserConnectionReservation.sessions user' ip') present
    have active := unchanged.active user' ip'
    have pending := unchanged.pending user' ip'
    simp only [System.heldSessions, List.map_cons, List.sum_cons, Future.sessions,
      UserConnectionReservation.sessions] at split ⊢
    omega

theorem pollRelease_conserved {stage : ReleaseStage}
    (present : Future.release r stage ∈ s.futures) :
    Conserved shardIdx base
      (System.pollRelease shardIdx { s with futures := s.futures.erase (.release r stage) } r stage) := by
  have released : r.state = .released := before.futures _ present
  cases stage with
  | compact now window remaining =>
    cases remaining with
    | nil =>
      exact replace_conserved before present ⟨before.coherent, fun _ _ => rfl, fun _ _ => rfl⟩
        released (fun _ => rfl) (fun _ _ => rfl)
    | cons idx =>
      have unchanged := unchanged_of_compacts
        (compactShard_compacts s.server.ipTracker now window idx) before.coherent
      simp only [System.pollRelease]
      split_ifs
      all_goals exact replace_conserved before present unchanged released (fun _ => rfl) (fun _ _ => rfl)
  | lock =>
    have gone (server : Server) : dropReservation shardIdx server r = server := by
      simp [dropReservation, UserConnectionReservation.markReleased, released]
    simp only [System.pollRelease, gone]
    have coherent : Coherent shardIdx (removeIpLocked shardIdx s.server.ipTracker r.user r.ip) := by
      rw [removeIpLocked_eq]
      exact applyDrained_coherent before.coherent _ _
    refine conserved_of_delta before ((decrement_telemetry _ _).trans before.enabled) coherent
      (before.futures_erase _) before.batches before.reservations ?_ ?_
    · intro user'
      have split := List.sum_map_erase (Future.connections user') present
      have held := before.connections user'
      have counted := decrement_currConnects s.server.stats r.user user'
      simp only [System.heldConnections, Future.connections] at split held ⊢
      omega
    · intro user' ip'
      have split := List.sum_map_erase (Future.sessions user' ip') present
      have held := before.sessions user' ip'
      have active := @removeIpLocked_active shardIdx s.server.ipTracker r.user r.ip user' ip'
      have pending : pendingCount shardIdx
          (removeIpLocked shardIdx s.server.ipTracker r.user r.ip) user' ip' =
          pendingCount shardIdx s.server.ipTracker user' ip' := by
        rw [removeIpLocked_eq]
        rfl
      simp only [System.heldSessions, Future.sessions] at split held ⊢
      omega

theorem dropped_conserved (moved : systemStep shardIdx s (.dropped r) = some s') :
    Conserved shardIdx base s' := by
  simp only [systemStep] at moved
  split_ifs at moved with present
  obtain ⟨active, tracks⟩ := before.reservations r present
  have counted := @dropReservation_currConnects shardIdx r active s.server
  have tracker : (dropReservation shardIdx s.server r).ipTracker =
      enqueueCleanup shardIdx s.server.ipTracker r.user r.ip := by
    simp [dropReservation, UserConnectionReservation.markReleased, active, tracks]
  have telemetry : (dropReservation shardIdx s.server r).stats.telemetryUserEnabled =
      s.server.stats.telemetryUserEnabled := by
    simp [dropReservation, UserConnectionReservation.markReleased, active, decrement_telemetry]
  cases moved
  refine conserved_of_delta before (telemetry.trans before.enabled) ?_ before.futures before.batches
    (before.reservations_erase r) ?_ ?_
  · rw [tracker]
    exact enqueueCleanup_coherent before.coherent r.user r.ip
  · intro user'
    have split := List.sum_map_erase (UserConnectionReservation.connections user') present
    have held := before.connections user'
    have decremented := counted user'
    simp only [System.heldConnections, UserConnectionReservation.connections] at split held ⊢
    omega
  · intro user' ip'
    have split := List.sum_map_erase (UserConnectionReservation.sessions user' ip') present
    have queued := @enqueueCleanup_pending shardIdx s.server.ipTracker r.user r.ip user' ip'
    have same := @enqueueCleanup_active shardIdx s.server.ipTracker r.user r.ip user' ip'
    simp only [System.heldSessions, UserConnectionReservation.sessions, tracker] at split ⊢
    omega

theorem drained_conserved {next : Tracked} {applied : String → IpAddr → Nat}
    (shifts : Tracked.Shifts shardIdx s.tracked next applied) :
    Conserved shardIdx base (s.withTracked next) := by
  refine conserved_of_delta before before.enabled shifts.sound.coherent before.futures
    shifts.sound.batches before.reservations (fun _ => rfl) ?_
  intro user' ip'
  have active := shifts.active user' ip'
  have waiting := shifts.waiting user' ip'
  have held := before.sessions user' ip'
  simp only [System.heldSessions, System.withTracked, System.tracked, Tracked.waiting,
    Tracked.inFlight] at active waiting held ⊢
  omega

end

def SystemOp.cancels : SystemOp → Bool
  | .cancel _ => true
  | _ => false

theorem systemStep_conserved {op : SystemOp} (completes : op.cancels = false)
    (before : Conserved shardIdx base s) (moved : systemStep shardIdx s op = some s') :
    Conserved shardIdx base s' := by
  have sound : s.tracked.Sound shardIdx := ⟨before.coherent, before.batches⟩
  cases op with
  | acquire _ user ip _ clock => exact beginAcquire_conserved before moved
  | release r clock => exact release_conserved before moved
  | poll future clock =>
    simp only [systemStep] at moved
    split_ifs at moved with present
    cases future with
    | acquire _ _ stage =>
      cases moved
      exact pollAcquire_conserved before clock present
    | release r =>
      cases moved
      exact pollRelease_conserved before present
  | cancel => cases completes
  | dropped r => exact dropped_conserved before moved
  | drainTake idx picks =>
    cases moved
    exact drained_conserved before (sound.drainTake (takeCleanupShard_takes before.coherent idx picks))
  | drainApply =>
    obtain ⟨_, applied, ⟨⟩⟩ := Option.map_eq_some_iff.mp moved
    exact drained_conserved before (sound.drainApply applied)

def System.Quiescent (s : System) : Prop :=
  s.futures = [] ∧ s.reservations = [] ∧ s.batches = [] ∧ QueueDrained s.server.ipTracker

theorem start_conserved {server : Server} (enabled : server.stats.telemetryUserEnabled = true)
    (coherent : Coherent shardIdx server.ipTracker) (drained : QueueDrained server.ipTracker) :
    Conserved shardIdx server { server := server } := by
  refine ⟨enabled, coherent, ?_, ?_, ?_, fun _ => rfl, ?_⟩
  · nofun
  · nofun
  · nofun
  · intro user ip
    have empty : pendingCount shardIdx server.ipTracker user ip = 0 :=
      count_eq_zero_of_drained (drained _) (coherent.pendingPositive _) user ip
    simp [System.heldSessions, empty]

theorem counters_return_when_no_future_is_cancelled (shardIdx : String → ShardIdx) (server : Server)
    (ops : List SystemOp) (s : System) (enabled : server.stats.telemetryUserEnabled = true)
    (coherent : Coherent shardIdx server.ipTracker) (drained : QueueDrained server.ipTracker)
    (complete : ∀ op ∈ ops, op.cancels = false)
    (run : runFrom (systemStep shardIdx) { server := server } ops = some s) (quiet : s.Quiescent)
    (user : String) (ip : IpAddr) :
    s.server.stats.getUserCurrConnects user = server.stats.getUserCurrConnects user ∧
    activeCount shardIdx s.server.ipTracker user ip = activeCount shardIdx server.ipTracker user ip := by
  have conserved := runFrom_invariant (Conserved shardIdx server)
    (fun _ _ _ complete before moved => systemStep_conserved complete before moved)
    (guarded_of_mem (fun move member _ => complete move member) _)
    (start_conserved enabled coherent drained) run
  obtain ⟨futures, reservations, batches, emptied⟩ := quiet
  have empty : pendingCount shardIdx s.server.ipTracker user ip = 0 :=
    count_eq_zero_of_drained (emptied _) (conserved.coherent.pendingPositive _) user ip
  constructor
  · rw [conserved.connections]
    simp [System.heldConnections, futures, reservations]
  · rw [conserved.sessions]
    simp [System.heldSessions, futures, reservations, batches, empty]

section Alone

def Polls {ι : Type} (future : ι → Future) (clock : Clock) (op : SystemOp) : Prop :=
  ∃ stage, op = .poll (future stage) clock

variable {stats : Stats} {r : List UserConnectionReservation} {b : List Batch} {clock : Clock}

theorem poll_alone (server : Server) (r : List UserConnectionReservation) (b : List Batch)
    (future : Future) (clock : Clock) :
    systemStep shardIdx ⟨server, [future], r, b⟩ (.poll future clock) =
      match future with
      | .acquire user ip stage =>
        some (System.pollAcquire shardIdx ⟨server, [], r, b⟩ user ip clock stage)
      | .release held stage => some (System.pollRelease shardIdx ⟨server, [], r, b⟩ held stage) := by
  cases future <;> simp [systemStep]

-- `compact` is the stage while shards remain to be compacted, `last` the one that waits for the lock.
variable {ι : Type} (future : ι → Future) (compact : Instant → Duration → List ShardIdx → ι)
  (last : UserIpTracker → ι)
  (polled : ∀ now window t idx rest,
    systemStep shardIdx ⟨⟨stats, t⟩, [future (compact now window (idx :: rest))], r, b⟩
        (.poll (future (compact now window (idx :: rest))) clock) =
      some ⟨⟨stats, compactShard t now window idx⟩, [future (if rest = [] then
        last (compactShard t now window idx) else compact now window rest)], r, b⟩)
include polled

theorem compact_alone (now : Instant) (window : Duration) (t : UserIpTracker) (idx : ShardIdx)
    (remaining : List ShardIdx) :
    let t' := (idx :: remaining).foldl (fun acc idx => compactShard acc now window idx) t
    Reachable (systemStep shardIdx) (Polls future clock)
      ⟨⟨stats, t⟩, [future (compact now window (idx :: remaining))], r, b⟩
      ⟨⟨stats, t'⟩, [future (last t')], r, b⟩ := by
  induction remaining generalizing t idx with
  | nil => exact .single ⟨_, ⟨_, rfl⟩, polled now window t idx []⟩
  | cons next remaining ih =>
    exact .head ⟨_, ⟨_, rfl⟩, polled now window t idx (next :: remaining)⟩
      (ih (compactShard t now window idx) next)

theorem maybeCompact_alone {t : UserIpTracker} {begun : System}
    (idle : compactStage t clock = none → begun = ⟨⟨stats, t⟩, [future (last t)], r, b⟩)
    (busy : ∀ t' now window remaining, compactStage t clock = some (t', now, window, remaining) →
      begun = ⟨⟨stats, t'⟩, [future (compact now window remaining)], r, b⟩) :
    let t' := maybeCompactEmptyUsers t clock
    Reachable (systemStep shardIdx) (Polls future clock) begun
      ⟨⟨stats, t'⟩, [future (last t')], r, b⟩ := by
  unfold maybeCompactEmptyUsers
  by_cases due : compactionDue t clock.epochSecs = true
  · rw [busy _ _ _ _ (if_pos due), if_pos due]
    cases shards : List.finRange userIpTrackerShards with
    | nil => simp [List.finRange_eq_nil_iff, userIpTrackerShards] at shards
    | cons idx remaining => exact compact_alone future compact last polled _ _ _ idx remaining
  · rw [idle (if_neg due), if_neg due]
    exact .refl

end Alone

variable (stats : Stats)

theorem afterDrain_alone (t : UserIpTracker) (user : String) (ip : IpAddr)
    (r : List UserConnectionReservation) (b : List Batch) (clock : Clock) :
    let t' := maybeCompactEmptyUsers t clock
    Reachable (systemStep shardIdx) (Polls (.acquire user ip) clock)
      ⟨⟨stats, (afterDrain t user clock).1⟩, [.acquire user ip (afterDrain t user clock).2], r, b⟩
      ⟨⟨stats, t'⟩, [.acquire user ip (lockStage t' user clock)], r, b⟩ := by
  apply maybeCompact_alone (.acquire user ip) .compact (fun t => lockStage t user clock)
  · intro now window t idx rest
    rw [poll_alone]
    simp [System.pollAcquire, apply_ite]
  · intro idle
    rw [afterDrain, idle]
  · intro t' now window remaining busy
    rw [afterDrain, busy]

theorem beginCheckAndAdd_alone (t : UserIpTracker) (user : String) (ip : IpAddr)
    (r : List UserConnectionReservation) (b : List Batch) (clock : Clock) :
    let begun := beginCheckAndAdd shardIdx t user clock
    let t' := maybeCompactEmptyUsers (drainCleanupForUser shardIdx t user) clock
    Reachable (systemStep shardIdx) (Polls (.acquire user ip) clock)
      ⟨⟨stats, begun.1⟩, [.acquire user ip begun.2], r, b⟩
      ⟨⟨stats, t'⟩, [.acquire user ip (lockStage t' user clock)], r, b⟩ := by
  unfold beginCheckAndAdd drainCleanupForUser
  cases taken : takeCleanupForUser shardIdx t user with
  | mk t' toRemove =>
    cases toRemove with
    | nil => exact afterDrain_alone stats t' user ip r b clock
    | cons entry toRemove =>
      exact .head ⟨_, ⟨_, rfl⟩, poll_alone _ r b _ clock⟩ (afterDrain_alone stats
        (applyDrained t' (shardIdx user) (entry :: toRemove)) user ip r b clock)

theorem acquire_alone (server : Server) (r : List UserConnectionReservation) (b : List Batch)
    (config : AccessConfig) (user : String) (ip : IpAddr) (utcNow : Int) (clock : Clock) :
    ∃ polls : List SystemOp,
      (∀ op ∈ polls, ∃ stage, op = .poll (.acquire user ip stage) clock) ∧
      runFrom (systemStep shardIdx) ⟨server, [], r, b⟩
          (.acquire config user ip utcNow clock :: polls) =
        some (match acquireUserConnectionReservation shardIdx server config user ip utcNow clock with
          | (server, .ok held) => ⟨server, [], held :: r, b⟩
          | (server, .error _) => ⟨server, [], r, b⟩) := by
  simp only [runFrom_cons, systemStep, acquireUserConnectionReservation]
  cases begun : beginAcquire server.stats config user utcNow with
  | mk stats outcome =>
    cases outcome with
    | error e => exact ⟨[], List.forall_mem_nil _, rfl⟩
    | ok =>
      have ended : Reachable (systemStep shardIdx) (Polls (.acquire user ip) clock) _ _ :=
        (beginCheckAndAdd_alone stats server.ipTracker user ip r b clock).tail
          ⟨_, ⟨_, rfl⟩, poll_alone _ r b _ clock⟩
      obtain ⟨polls, own, run⟩ := ended.run
      refine ⟨polls, own, run.trans (congrArg some ?_)⟩
      simp only [checkAndAdd, System.pollAcquire, lockStage]
      generalize maybeCompactEmptyUsers _ clock = t'
      cases checkAndAddLocked shardIdx t' user ip (t'.userLimit user) t'.limitMode t'.limitWindow
          clock.now with
      | mk t answer => cases answer <;> rfl

theorem beginRemoveIp_alone (t : UserIpTracker) (held : UserConnectionReservation)
    (r : List UserConnectionReservation) (b : List Batch) (clock : Clock) :
    Reachable (systemStep shardIdx) (Polls (.release held) clock)
      ⟨⟨stats, (beginRemoveIp t clock).1⟩, [.release held (beginRemoveIp t clock).2], r, b⟩
      ⟨⟨stats, maybeCompactEmptyUsers t clock⟩, [.release held .lock], r, b⟩ := by
  apply maybeCompact_alone (.release held) .compact (fun _ => .lock)
  · intro now window t idx rest
    rw [poll_alone]
    simp [System.pollRelease, apply_ite]
  · intro idle
    rw [beginRemoveIp, idle]
  · intro t' now window remaining busy
    rw [beginRemoveIp, busy]

theorem release_alone (server : Server) (r : List UserConnectionReservation) (b : List Batch)
    (user : String) (ip : IpAddr) (clock : Clock) :
    let held : UserConnectionReservation := ⟨user, ip, true, .active⟩
    ∃ polls : List SystemOp,
      (∀ op ∈ polls, ∃ stage, op = .poll (.release { held with state := .released } stage) clock) ∧
      runFrom (systemStep shardIdx) ⟨server, [], held :: r, b⟩ (.release held clock :: polls) =
        some ⟨release shardIdx server held clock, [], r, b⟩ := by
  simp only [runFrom_cons, systemStep, List.mem_cons_self, if_true,
    UserConnectionReservation.markReleased, ne_eq, not_true_eq_false, if_false,
    List.erase_cons_head]
  have ended : Reachable (systemStep shardIdx) (Polls (.release _) clock) _ _ :=
    (beginRemoveIp_alone server.stats server.ipTracker ⟨user, ip, true, .released⟩ r b clock).tail
      ⟨_, ⟨_, rfl⟩, poll_alone _ r b _ clock⟩
  obtain ⟨polls, own, run⟩ := ended.run
  refine ⟨polls, own, run.trans (congrArg some ?_)⟩
  simp [System.pollRelease, release, UserConnectionReservation.markReleased, removeIp]

end Steps

def sessionIp : IpAddr := .ofOctets 198 51 100 9

def lockFuture (t : UserIpTracker) : Future := .acquire "alice" sessionIp (lockStage t "alice" ⟨0, 0⟩)

def sessionOfAlice : UserConnectionReservation := { user := "alice", ip := sessionIp, tracksIp := true }

theorem counters_return_after_one_session :
    let ops : List SystemOp :=
      [.acquire {} "alice" sessionIp 0 ⟨0, 0⟩, .poll (lockFuture UserIpTracker.new) ⟨0, 0⟩,
        .release sessionOfAlice ⟨0, 0⟩,
        .poll (.release { sessionOfAlice with state := .released } .lock) ⟨0, 0⟩]
    ∃ s, runFrom (systemStep fun _ => 0) { server := {} } ops = some s ∧ s.Quiescent ∧
      s.server.stats.getUserCurrConnects "alice" = 0 ∧
      activeCount (fun _ => 0) s.server.ipTracker "alice" sessionIp = 0 := by
  intro ops
  have settled : ((runFrom (systemStep fun _ => 0) { server := {} } ops).map fun s =>
      decide (s.futures = []) && decide (s.reservations = []) && decide (s.batches = []) &&
        decide (QueueDrained s.server.ipTracker)) = some true := by decide
  obtain ⟨s, run, settled⟩ := Option.map_eq_some_iff.mp settled
  have quiet : s.Quiescent := by
    simpa [System.Quiescent, and_assoc] using settled
  have coherent : Coherent (fun _ => 0) ({} : Server).ipTracker := coherent_of_empty rfl rfl rfl
  have returned := counters_return_when_no_future_is_cancelled (fun _ => 0) {} ops s rfl coherent
    (fun _ => rfl) (by decide) run quiet "alice" sessionIp
  exact ⟨s, run, quiet, returned⟩

theorem cancelled_futures_leak :
    (∃ s, runFrom (systemStep fun _ => 0) { server := {} }
        [.acquire {} "alice" sessionIp 0 ⟨0, 0⟩, .cancel (lockFuture UserIpTracker.new)] = some s ∧
      s.Quiescent ∧ s.server.stats.getUserCurrConnects "alice" = 1) ∧
    (∃ s, runFrom (systemStep fun _ => 0) { server := {} }
        [.acquire {} "alice" sessionIp 0 ⟨0, 0⟩, .poll (lockFuture UserIpTracker.new) ⟨0, 0⟩,
          .release sessionOfAlice ⟨0, 0⟩,
          .cancel (.release { sessionOfAlice with state := .released } .lock)] = some s ∧
      s.Quiescent ∧ s.server.stats.getUserCurrConnects "alice" = 1 ∧
      activeCount (fun _ => 0) s.server.ipTracker "alice" sessionIp = 1) := by
  refine ⟨⟨_, rfl, ⟨rfl, rfl, rfl, ?_⟩, ?_⟩, ⟨_, rfl, ⟨rfl, rfl, rfl, ?_⟩, ?_, ?_⟩⟩
  all_goals decide

end Telemt.Reservation
