import Telemt.Foundation.Run
import Telemt.Reservation.Model

namespace Telemt.Reservation
open Telemt.Foundation Telemt.IpTracker

/-!
# Connection accounting along a run

The live reservations, each with the state of telemetry's `user_enabled` flag at its acquisition: a
reservation acquired while the flag was off was never counted.
-/

structure Held where
  reservation : UserConnectionReservation
  counted : Bool
  deriving DecidableEq

inductive ConnectionOp
  | acquire (config : AccessConfig) (user : String) (ip : IpAddr) (utcNow : Int) (clock : Clock)
  | release (held : Held) (clock : Clock)
  | dropped (held : Held)
  | setUserEnabled (enabled : Bool)
  | loadUserQuotaState (user : String) (usedBytes : Nat)

structure Connections where
  server : Server
  live : List Held := []

def countedOf (live : List Held) (user : String) : Nat :=
  live.countP fun held => held.counted && decide (user = held.reservation.user)

section Runs
variable (shardIdx : String → ShardIdx) (s : Connections)

def connectionStep : ConnectionOp → Option Connections
  | .acquire config user ip utcNow clock =>
    match acquireUserConnectionReservation shardIdx s.server config user ip utcNow clock with
    | (server, .ok r) =>
      some ⟨server, ⟨r, s.server.stats.telemetryUserEnabled⟩ :: s.live⟩
    | (server, .error _) => some { s with server := server }
  | .release held clock =>
    if held ∈ s.live then
      some ⟨release shardIdx s.server held.reservation clock, s.live.erase held⟩
    else none
  | .dropped held =>
    if held ∈ s.live then
      some ⟨dropReservation shardIdx s.server held.reservation, s.live.erase held⟩
    else none
  | .setUserEnabled enabled =>
    some { s with server.stats.telemetryUserEnabled := enabled }
  | .loadUserQuotaState user usedBytes =>
    some { s with server.stats := s.server.stats.loadUserQuotaState user usedBytes }

-- The user whose counter the operation takes down without ever having taken it up.
def uncountedDecrement : ConnectionOp → Option String
  | .acquire config user ip utcNow clock =>
    if s.server.stats.telemetryUserEnabled = false ∧
        (beginAcquire s.server.stats config user utcNow).2.isOk ∧
        (checkAndAdd shardIdx s.server.ipTracker clock user ip).2.isOk = false then some user
    else none
  | .release held _ | .dropped held => if held.counted then none else some held.reservation.user
  | .setUserEnabled _ | .loadUserQuotaState _ _ => none

def DecrementsOwnCount (op : ConnectionOp) : Prop :=
  ∀ user ∈ uncountedDecrement shardIdx s op, s.server.stats.getUserCurrConnects user = 0

instance (op : ConnectionOp) : Decidable (DecrementsOwnCount shardIdx s op) :=
  match found : uncountedDecrement shardIdx s op with
  | none => isTrue fun user member => by rw [found] at member; cases member
  | some user => decidable_of_iff (s.server.stats.getUserCurrConnects user = 0) (by
      simp [DecrementsOwnCount, found])

def AcquiresWithLimit (user : String) (limit : Nat) : ConnectionOp → Prop
  | .acquire config user' _ _ _ => user' = user → config.connectionLimit user = some limit
  | _ => True

structure Counted (s : Connections) : Prop where
  active : ∀ held ∈ s.live, held.reservation.state = .active
  exact : ∀ user, s.server.stats.getUserCurrConnects user = countedOf s.live user

variable {shardIdx} {s next : Connections}

theorem countedOf_cons (held : Held) (live : List Held) (user : String) :
    countedOf (held :: live) user =
      countedOf live user + if held.counted ∧ user = held.reservation.user then 1 else 0 := by
  unfold countedOf
  rw [List.countP_cons]
  simp

variable {held : Held}

theorem countedOf_erase {live : List Held} (present : held ∈ live) (user : String) :
    countedOf (live.erase held) user =
      countedOf live user - if held.counted ∧ user = held.reservation.user then 1 else 0 := by
  unfold countedOf
  rw [List.countP_erase]
  simp [present]

theorem counted_of_ended {server : Server} (before : Counted s) (present : held ∈ s.live)
    (own : held.counted = false → s.server.stats.getUserCurrConnects held.reservation.user = 0)
    (decremented : ∀ user, server.stats.getUserCurrConnects user =
      s.server.stats.getUserCurrConnects user - if user = held.reservation.user then 1 else 0) :
    Counted ⟨server, s.live.erase held⟩ := by
  refine ⟨fun other member => before.active other (List.mem_of_mem_erase member), ?_⟩
  intro user
  rw [countedOf_erase present, decremented, ← before.exact]
  by_cases same : user = held.reservation.user
  · subst same
    cases counted : held.counted with
    | true => simp
    | false => simp [own counted]
  · simp [same]

theorem counted_of_admitted {server : Server} (before : Counted s)
    (active : held.reservation.state = .active)
    (counts : ∀ user, server.stats.getUserCurrConnects user = s.server.stats.getUserCurrConnects
      user + if held.counted ∧ user = held.reservation.user then 1 else 0) :
    Counted ⟨server, held :: s.live⟩ := by
  refine ⟨?_, ?_⟩
  · intro other member
    rcases List.mem_cons.mp member with new | old
    · rw [new]
      exact active
    · exact before.active other old
  · intro user
    rw [countedOf_cons, counts, before.exact]

theorem counted_of_acquire {config : AccessConfig} {user : String} {ip : IpAddr} {utcNow : Int}
    {clock : Clock} (before : Counted s)
    (own : DecrementsOwnCount shardIdx s (.acquire config user ip utcNow clock))
    (moved : connectionStep shardIdx s (.acquire config user ip utcNow clock) = some next) :
    Counted next := by
  have cases := @acquire_cases shardIdx s.server config user ip utcNow clock
  simp only [connectionStep] at moved
  cases acquired : acquireUserConnectionReservation shardIdx s.server config user ip utcNow clock with
  | mk server =>
    rw [acquired] at cases moved
    rcases cases with ⟨e, refused, delta⟩ | ⟨e, refused, off, begun, answer, delta⟩ |
        ⟨admitted, off, delta⟩ | ⟨admitted, on, _, delta⟩
    · subst refused
      cases moved
      refine ⟨before.active, ?_⟩
      intro user'
      rw [delta, id_eq, ← before.exact]
      split_ifs with same
      · rw [same]
      · rfl
    · simp only at refused
      subst refused
      cases moved
      have zero : s.server.stats.getUserCurrConnects user = 0 := by
        apply own user
        simp [uncountedDecrement, off, begun, answer]
      refine ⟨before.active, ?_⟩
      intro user'
      show server.stats.getUserCurrConnects user' = countedOf s.live user'
      rw [delta, ← before.exact]
      split_ifs with same
      · rw [same, zero]
      · rfl
    · subst admitted
      cases moved
      refine counted_of_admitted before rfl ?_
      intro user'
      rw [off]
      by_cases same : user' = user
      · simpa [same] using delta user'
      · simpa [same] using delta user'
    · simp only at admitted
      subst admitted
      cases moved
      refine counted_of_admitted before rfl ?_
      intro user'
      rw [on]
      by_cases same : user' = user
      · simpa [same] using delta user'
      · simpa [same] using delta user'

theorem connectionStep_counted {op : ConnectionOp} (own : DecrementsOwnCount shardIdx s op)
    (before : Counted s) (moved : connectionStep shardIdx s op = some next) : Counted next := by
  cases op with
  | acquire _ user _ _ clock => exact counted_of_acquire before own moved
  | release held clock =>
    simp only [connectionStep] at moved
    split_ifs at moved with present
    cases moved
    refine counted_of_ended before present ?_
      (release_currConnects (before.active held present) s.server clock)
    intro uncounted
    exact own _ (by simp [uncountedDecrement, uncounted])
  | dropped held =>
    simp only [connectionStep] at moved
    split_ifs at moved with present
    cases moved
    refine counted_of_ended before present ?_
      (dropReservation_currConnects (before.active held present) s.server)
    intro uncounted
    exact own _ (by simp [uncountedDecrement, uncounted])
  | setUserEnabled =>
    cases moved
    exact ⟨before.active, before.exact⟩
  | loadUserQuotaState =>
    cases moved
    refine ⟨before.active, ?_⟩
    intro user'
    rw [← before.exact]
    unfold Stats.loadUserQuotaState Stats.getUserCurrConnects
    rw [Stats.user_setUser]
    split_ifs with same
    · rw [same]
    · rfl

theorem connectionStep_limit {op : ConnectionOp} {user : String} {limit : Nat}
    (limited : AcquiresWithLimit user limit op) (before : Counted s) (after : Counted next)
    (bound : countedOf s.live user ≤ limit) (moved : connectionStep shardIdx s op = some next) :
    countedOf next.live user ≤ limit := by
  cases op with
  | acquire config user' ip utcNow clock =>
    rw [← after.exact]
    rw [← before.exact] at bound
    have cases := @acquire_cases shardIdx s.server config user' ip utcNow clock
    have server : next.server =
        (acquireUserConnectionReservation shardIdx s.server config user' ip utcNow clock).1 := by
      simp only [connectionStep] at moved
      split at moved <;> cases moved <;> simp_all
    rw [server]
    rcases cases with ⟨_, _, delta⟩ | ⟨_, _, _, _, _, delta⟩ | ⟨_, _, delta⟩ | ⟨_, _, room, delta⟩
    all_goals
      rw [delta]
      split_ifs with same
    · rwa [← same]
    · exact bound
    · rw [← same]
      exact (Nat.sub_le _ _).trans bound
    · exact bound
    · rwa [← same]
    · exact bound
    · subst same
      exact room limit (limited rfl)
    · exact bound
  | release held clock | dropped held =>
    simp only [connectionStep] at moved
    split_ifs at moved with present
    cases moved
    rw [countedOf_erase present]
    exact (Nat.sub_le _ _).trans bound
  | setUserEnabled enabled | loadUserQuotaState user' usedBytes =>
    cases moved
    exact bound

def Connections.start (userEnabled : Bool) (ipTracker : UserIpTracker) : Connections :=
  ⟨⟨{ telemetryUserEnabled := userEnabled }, ipTracker⟩, []⟩

theorem start_counted (userEnabled : Bool) (ipTracker : UserIpTracker) :
    Counted (Connections.start userEnabled ipTracker) := by
  refine ⟨?_, fun _ => rfl⟩
  nofun

theorem curr_connects_counts_counted_reservations (shardIdx : String → ShardIdx)
    (userEnabled : Bool) (ipTracker : UserIpTracker) (ops : List ConnectionOp) (s : Connections)
    (own : Guarded (connectionStep shardIdx) (DecrementsOwnCount shardIdx)
      (Connections.start userEnabled ipTracker) ops)
    (run : runFrom (connectionStep shardIdx) (Connections.start userEnabled ipTracker) ops = some s) :
    (∀ user, s.server.stats.getUserCurrConnects user = countedOf s.live user) ∧
    (∀ user limit, (∀ op ∈ ops, AcquiresWithLimit user limit op) →
      countedOf s.live user ≤ limit) := by
  have start := start_counted userEnabled ipTracker
  constructor
  · exact (runFrom_invariant Counted (fun _ _ _ own before moved =>
      connectionStep_counted own before moved) own start run).exact
  · intro user limit limited
    have guarded := own.and (guarded_of_mem (fun op member _ => limited op member)
      (Connections.start userEnabled ipTracker))
    refine (runFrom_invariant (fun s => Counted s ∧ countedOf s.live user ≤ limit) ?_ guarded
      ⟨start, Nat.zero_le limit⟩ run).2
    intro s op next ok before moved
    have after := connectionStep_counted ok.1 before.1 moved
    exact ⟨after, connectionStep_limit ok.2 before.1 after before.2 moved⟩

end Runs

def clientIp : IpAddr := .ofOctets 192 0 2 7

def oneConnectionEach : AccessConfig := { userMaxTcpConnsGlobalEach := 1 }

def heldByAlice (counted : Bool) : Held :=
  ⟨{ user := "alice", ip := clientIp, tracksIp := true }, counted⟩

theorem curr_connects_across_toggle :
    let start := Connections.start true UserIpTracker.new
    let ops : List ConnectionOp :=
      [.acquire oneConnectionEach "alice" clientIp 0 ⟨0, 0⟩, .setUserEnabled false,
        .acquire oneConnectionEach "alice" clientIp 0 ⟨0, 0⟩, .release (heldByAlice true) ⟨0, 0⟩,
        .dropped (heldByAlice false)]
    ∃ s, Guarded (connectionStep fun _ => 0) (DecrementsOwnCount fun _ => 0) start ops ∧
      runFrom (connectionStep fun _ => 0) start ops = some s ∧
      (∀ user, s.server.stats.getUserCurrConnects user = countedOf s.live user) ∧
      countedOf s.live "alice" ≤ 1 := by
  intro start ops
  have own : Guarded (connectionStep fun _ => 0) (DecrementsOwnCount fun _ => 0) start ops := by
    decide
  have defined : (runFrom (connectionStep fun _ => 0) start ops).isSome := by decide
  obtain ⟨s, run⟩ := Option.isSome_iff_exists.mp defined
  obtain ⟨counts, limits⟩ := curr_connects_counts_counted_reservations (fun _ => 0) true
    UserIpTracker.new ops s own run
  refine ⟨s, own, run, counts, limits "alice" 1 ?_⟩
  simp [ops, AcquiresWithLimit, oneConnectionEach, AccessConfig.connectionLimit]

theorem uncounted_reservations_exceed_limit :
    ∃ s, runFrom (connectionStep fun _ => 0) (Connections.start false UserIpTracker.new)
        [.acquire oneConnectionEach "alice" clientIp 0 ⟨0, 0⟩,
          .acquire oneConnectionEach "alice" clientIp 0 ⟨0, 0⟩] = some s ∧
      oneConnectionEach.connectionLimit "alice" = some 1 ∧
      (s.live.countP fun held => held.reservation.user = "alice") = 2 ∧
      s.server.stats.getUserCurrConnects "alice" = 0 := by
  refine ⟨_, rfl, rfl, ?_, ?_⟩
  · decide
  · decide

end Telemt.Reservation
