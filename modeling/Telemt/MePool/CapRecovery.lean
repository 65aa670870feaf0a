import Telemt.MePool.Connect
import Telemt.MePool.FloorBudget

namespace Telemt.MePool
open Foundation

/-! # Reconnecting at the writer cap -/

/-- What `check_family` hands to the reconnect task of one data centre. -/
structure ReconnectTask where
  dc : Int
  endpoints : List SocketAddr
  alive : Nat
  liveWriterIdsByAddr : Dict (Int × SocketAddr) (List WriterId) := ∅
  writerIdleSince : Dict WriterId Nat := ∅
  boundClientsByWriter : Dict WriterId Nat := ∅
  activeCapEffectiveTotal : Nat

structure IdleCandidate where
  writerId : WriterId
  endpoint : SocketAddr
  idleAgeSecs : Nat

inductive AttemptOutcome
  | swapped
  | blocked
  | connected
  | failed
  deriving DecidableEq, Repr

def AttemptOutcome.opens : AttemptOutcome → Bool
  | .swapped | .connected => true
  | .blocked | .failed => false

namespace ReconnectTask
variable (task : ReconnectTask)

def liveWriters : List (WriterId × SocketAddr) :=
  task.endpoints.flatMap fun endpoint =>
    ((task.liveWriterIdsByAddr.lookup (task.dc, endpoint)).getD []).map fun writerId =>
      (writerId, endpoint)

-- The first of the writers without clients that have been idle for longest.
def considerIdle (now : Nat) (candidate : Option IdleCandidate) (writer : WriterId × SocketAddr) :
    Option IdleCandidate :=
  if 0 < (task.boundClientsByWriter.lookup writer.1).getD 0 then candidate
  else
    match task.writerIdleSince.lookup writer.1 with
    | none => candidate
    | some idleSince =>
      if candidate.all fun current => decide (current.idleAgeSecs < now - idleSince) then
        some ⟨writer.1, writer.2, now - idleSince⟩
      else candidate

def idleCandidate (now : Nat) : Option IdleCandidate :=
  task.liveWriters.foldl (task.considerIdle now) none

end ReconnectTask

namespace ConnectingPool

section Attempt
variable (task : ReconnectTask) (network : Network) (clock : Clock) (p : ConnectingPool)

def maybeSwapIdleWriterForCap : ConnectingPool × Bool :=
  match task.idleCandidate clock.epochSecs with
  | none => (p, false)
  | some candidate =>
    match p.connectOneForDc network clock candidate.endpoint task.dc with
    | (p, .error _) => (p, false)
    | (p, .ok _) =>
      ({ p with
        toWriterPool := p.toWriterPool.markWriterDrainingWithTimeout candidate.writerId
          p.forceCloseTimeout false clock.epochSecs }, true)

def directConnect : ConnectingPool × AttemptOutcome :=
  match p.connectEndpointsRoundRobin network clock task.dc task.endpoints with
  | (p, true) => (p, .connected)
  | (p, false) => (p, .failed)

-- One round of the task's loop, once it has its permit.
def reconnectAttempt (restored : Nat) : ConnectingPool × AttemptOutcome :=
  if task.activeCapEffectiveTotal ≤ p.activeContourWriterCountTotal then
    match p.maybeSwapIdleWriterForCap task network clock with
    | (p, true) => (p, .swapped)
    | (p, false) =>
      if p.floor.requiredWritersForDcWithFloorMode task.endpoints.length false ≤
          task.alive + restored then
        (p, .blocked)
      else p.directConnect task network clock
  else p.directConnect task network clock

end Attempt

def reconnect (task : ReconnectTask) :
    List (Option (Network × Clock)) → ConnectingPool → Nat → ConnectingPool × Nat
  | [], p, restored => (p, restored)
  | none :: _, p, restored => (p, restored)
  | some (network, clock) :: rounds, p, restored =>
    match p.reconnectAttempt task network clock restored with
    | (p, .swapped) => reconnect task rounds p (restored + 1)
    | (p, .connected) => reconnect task rounds p (restored + 1)
    | (p, .failed) => reconnect task rounds p restored
    | (p, .blocked) => (p, restored)

variable (p : ConnectingPool)

def Full : Prop :=
  p.floor.adaptiveFloorActiveCapConfiguredTotal ≤ p.activeContourWriterCountTotal

structure SameGate (p after : ConnectingPool) : Prop where
  writers : after.writers = p.writers
  floor : after.floor = p.floor
  secret : after.proxySecretLen = p.proxySecretLen

theorem SameGate.refl : p.SameGate p := ⟨rfl, rfl, rfl⟩

theorem SameGate.full_iff {p after : ConnectingPool} (same : p.SameGate after) :
    after.Full ↔ p.Full := by
  unfold Full activeContourWriterCountTotal
  rw [same.writers, same.floor]

theorem canOpen_active (dc : Int) (now : Nat) :
    p.canOpenWriterForContour .active false dc now = true ↔ ¬ p.Full := by
  unfold canOpenWriterForContour Full activeContourWriterCountTotal
  simp

variable {p : ConnectingPool} {network : Network} {clock : Clock}

theorem connectOne_of_full (full : p.Full) (addr : SocketAddr) (generation : Nat) (dc : Int) :
    p.connectOneWithGenerationContourForDcWithCapPolicy network clock addr generation .active dc
        false =
      (p, .error (.proxy "ME Active writer cap reached")) := by
  have refused : p.canOpenWriterForContour .active false dc clock.epochSecs = false :=
    Bool.eq_false_iff.mpr fun opens => (canOpen_active p dc clock.epochSecs).mp opens full
  unfold connectOneWithGenerationContourForDcWithCapPolicy
  rw [refused]
  rfl

theorem connectOne_of_room (room : ¬ p.Full) (secret : 32 ≤ p.proxySecretLen) {addr : SocketAddr}
    (accepted : (network addr).isSome) (generation : Nat) (dc : Int) :
    ∃ after, p.connectOneWithGenerationContourForDcWithCapPolicy network clock addr generation .active
      dc false = (after, .ok ()) := by
  obtain ⟨_, connected⟩ := Option.isSome_iff_exists.mp accepted
  unfold connectOneWithGenerationContourForDcWithCapPolicy
  rw [(canOpen_active p dc clock.epochSecs).mpr room, connected]
  simp only [Bool.not_true, Bool.false_eq_true, if_false, if_neg (Nat.not_lt.mpr secret)]
  exact ⟨_, rfl⟩

theorem connectFirst_of_full (full : p.Full) (generation : Nat) (dc : Int)
    (candidates : List SocketAddr) :
    connectFirst network clock generation .active dc false p candidates = (p, false) := by
  induction candidates with
  | nil => rfl
  | cons _ _ ih =>
    unfold connectFirst
    rw [connectOne_of_full full]
    exact ih

theorem connectFirst_of_room (room : ¬ p.Full) (secret : 32 ≤ p.proxySecretLen)
    {candidates : List SocketAddr} (some_candidate : candidates ≠ [])
    (accepted : ∀ addr ∈ candidates, (network addr).isSome) (generation : Nat) (dc : Int) :
    ∃ after, connectFirst network clock generation .active dc false p candidates =
      (after, true) := by
  cases candidates with
  | nil => exact absurd rfl some_candidate
  | cons addr =>
    obtain ⟨after, connected⟩ :=
      connectOne_of_room room secret (accepted addr List.mem_cons_self) generation dc
    unfold connectFirst
    rw [connected]
    exact ⟨after, rfl⟩

theorem connectableEndpoints_same (p : ConnectingPool) (endpoints : List SocketAddr)
    (now : Instant) : p.SameGate (p.connectableEndpoints endpoints now).1 := by
  unfold connectableEndpoints
  by_cases none : endpoints = []
  · rw [if_pos none]
    exact .refl p
  · rw [if_neg none]
    exact ⟨rfl, rfl, rfl⟩

theorem connectableEndpoints_of_free {endpoints : List SocketAddr} {now : Instant}
    (free : ∀ addr ∈ endpoints, ∀ expiry ∈ p.endpointQuarantine.lookup addr, expiry ≤ now) :
    (p.connectableEndpoints endpoints now).2 = endpoints := by
  unfold connectableEndpoints
  by_cases none : endpoints = []
  · rw [if_pos none, none]
  · rw [if_neg none]
    have ready : (endpoints.filter fun addr =>
        addr ∉ Dict.retain (fun _ expiry => decide (now < expiry)) p.endpointQuarantine) =
          endpoints := by
      rw [List.filter_eq_self]
      intro addr member
      simp only [decide_eq_true_eq, Dict.mem_iff_lookup, Dict.lookup_retain]
      rintro ⟨expiry, kept⟩
      obtain ⟨quarantined, later⟩ := Option.filter_eq_some_iff.mp kept
      exact absurd (of_decide_eq_true later) (not_lt.mpr (free addr member expiry quarantined))
    simp only [ready, if_pos none, ite_self]

theorem connectEndpointsRoundRobin_tries (p : ConnectingPool) (network : Network) (clock : Clock)
    (dc : Int) (endpoints : List SocketAddr) :
    ∃ turned order, p.SameGate turned ∧
      order.Perm (p.connectableEndpoints endpoints clock.now).2 ∧
      p.connectEndpointsRoundRobin network clock dc endpoints =
        connectFirst network clock p.reinit.activeGeneration .active dc false turned order := by
  unfold connectEndpointsRoundRobin connectEndpointsRoundRobinWithGenerationContour
  have same := connectableEndpoints_same p endpoints clock.now
  generalize p.connectableEndpoints endpoints clock.now = ready at same ⊢
  obtain ⟨pruned, candidates⟩ := ready
  by_cases none : candidates = []
  · refine ⟨pruned, [], same, none ▸ .refl _, ?_⟩
    dsimp only
    rw [if_pos none]
    rfl
  · refine ⟨{ pruned with rr := (pruned.rr + 1) % 2 ^ 64 }, _,
      ⟨same.writers, same.floor, same.secret⟩, ?_, if_neg none⟩
    refine (List.rotate_perm _ _).trans ?_
    split_ifs
    · exact sortByKey_perm _ candidates
    · exact .refl _

section RoundRobin
variable (dc : Int) (endpoints : List SocketAddr)

theorem connectEndpointsRoundRobin_of_full (full : p.Full) :
    ∃ after, p.SameGate after ∧
      p.connectEndpointsRoundRobin network clock dc endpoints = (after, false) := by
  obtain ⟨turned, _, same, -, tries⟩ :=
    connectEndpointsRoundRobin_tries p network clock dc endpoints
  rw [tries, connectFirst_of_full (same.full_iff.mpr full)]
  exact ⟨turned, same, rfl⟩

variable {endpoints}

theorem connectEndpointsRoundRobin_of_room (room : ¬ p.Full) (secret : 32 ≤ p.proxySecretLen)
    (some_endpoint : endpoints ≠ []) (accepted : ∀ addr ∈ endpoints, (network addr).isSome)
    (free : ∀ addr ∈ endpoints, ∀ expiry ∈ p.endpointQuarantine.lookup addr, expiry ≤ clock.now) :
    ∃ after, p.connectEndpointsRoundRobin network clock dc endpoints = (after, true) := by
  obtain ⟨_, _, same, perm, tries⟩ :=
    connectEndpointsRoundRobin_tries p network clock dc endpoints
  rw [connectableEndpoints_of_free free] at perm
  rw [tries]
  apply connectFirst_of_room (mt same.full_iff.mp room) (same.secret ▸ secret)
  · exact fun empty => some_endpoint (List.nil_perm.mp (empty ▸ perm))
  · exact fun addr member => accepted addr (perm.mem_iff.mp member)

end RoundRobin

theorem considerIdle_endpoint (task : ReconnectTask) (now : Nat) {candidate : Option IdleCandidate}
    {writer : WriterId × SocketAddr} (configured : writer.2 ∈ task.endpoints)
    (known : ∀ current ∈ candidate, current.endpoint ∈ task.endpoints) :
    ∀ current ∈ task.considerIdle now candidate writer, current.endpoint ∈ task.endpoints := by
  intro current chosen
  unfold ReconnectTask.considerIdle at chosen
  split at chosen
  · exact known current chosen
  · split at chosen
    · exact known current chosen
    · split at chosen
      · cases chosen
        exact configured
      · exact known current chosen

theorem idleCandidate_endpoint (task : ReconnectTask) (now : Nat) {candidate : IdleCandidate}
    (found : task.idleCandidate now = some candidate) : candidate.endpoint ∈ task.endpoints := by
  have configured : ∀ writer ∈ task.liveWriters, writer.2 ∈ task.endpoints := by
    intro writer member
    obtain ⟨endpoint, listed, inside⟩ := List.mem_flatMap.mp member
    obtain ⟨_, -, rfl⟩ := List.mem_map.mp inside
    exact listed
  have known : ∀ current ∈ task.idleCandidate now, current.endpoint ∈ task.endpoints := by
    refine List.foldlRecOn (motive := fun candidate => ∀ current ∈ candidate,
      current.endpoint ∈ task.endpoints) task.liveWriters (task.considerIdle now) ?_ ?_
    · rintro current ⟨⟩
    · intro candidate known writer member
      exact considerIdle_endpoint task now (configured writer member) known
  exact known candidate found

variable {task : ReconnectTask}

theorem maybeSwapIdleWriterForCap_of_full (full : p.Full) :
    p.maybeSwapIdleWriterForCap task network clock = (p, false) := by
  unfold maybeSwapIdleWriterForCap
  split
  · rfl
  · unfold connectOneForDc connectOneWithGenerationContour connectOneWithGenerationContourForDc
    rw [connectOne_of_full full]

theorem maybeSwapIdleWriterForCap_of_room (room : ¬ p.Full) (secret : 32 ≤ p.proxySecretLen)
    (accepted : ∀ addr ∈ task.endpoints, (network addr).isSome) :
    p.maybeSwapIdleWriterForCap task network clock = (p, false) ∨
      ∃ after, p.maybeSwapIdleWriterForCap task network clock = (after, true) := by
  unfold maybeSwapIdleWriterForCap
  split
  · exact .inl rfl
  · rename_i candidate found
    obtain ⟨_, connected⟩ :=
      @connectOne_of_room p network clock room secret candidate.endpoint
        (accepted _ (idleCandidate_endpoint task _ found)) p.reinit.activeGeneration task.dc
    unfold connectOneForDc connectOneWithGenerationContour connectOneWithGenerationContourForDc
    rw [connected]
    exact .inr ⟨_, rfl⟩

theorem reconnectAttempt_of_full (full : p.Full) (restored : Nat) :
    ∃ after outcome, p.SameGate after ∧ outcome.opens = false ∧
      p.reconnectAttempt task network clock restored = (after, outcome) := by
  obtain ⟨after, same, refused⟩ :=
    @connectEndpointsRoundRobin_of_full p network clock task.dc task.endpoints full
  have direct : p.directConnect task network clock = (after, .failed) := by
    unfold directConnect
    rw [refused]
  unfold reconnectAttempt
  rw [maybeSwapIdleWriterForCap_of_full full]
  dsimp only
  rw [direct]
  split_ifs
  · exact ⟨p, .blocked, .refl p, rfl, rfl⟩
  · exact ⟨after, .failed, same, rfl, rfl⟩
  · exact ⟨after, .failed, same, rfl, rfl⟩

theorem reconnectAttempt_of_room (room : ¬ p.Full) (restored : Nat)
    (belowFloor : task.alive + restored <
      p.floor.requiredWritersForDcWithFloorMode task.endpoints.length false)
    (secret : 32 ≤ p.proxySecretLen)
    (accepted : ∀ addr ∈ task.endpoints, (network addr).isSome)
    (free : ∀ addr ∈ task.endpoints, ∀ expiry ∈ p.endpointQuarantine.lookup addr,
      expiry ≤ clock.now) :
    (p.reconnectAttempt task network clock restored).2.opens = true := by
  have some_endpoint : task.endpoints ≠ [] := by
    intro empty
    rw [empty] at belowFloor
    exact Nat.not_lt_zero _ belowFloor
  obtain ⟨after, connected⟩ :=
    connectEndpointsRoundRobin_of_room task.dc room secret some_endpoint accepted free
  have direct : p.directConnect task network clock = (after, .connected) := by
    unfold directConnect
    rw [connected]
  unfold reconnectAttempt
  rcases @maybeSwapIdleWriterForCap_of_room p network clock task room secret accepted with
    kept | ⟨swapped, swap⟩
  · rw [kept]
    dsimp only
    rw [if_neg (Nat.not_le.mpr belowFloor), ite_self, direct]
    rfl
  · rw [swap, direct]
    split_ifs
    · rfl
    · rfl

theorem reconnect_of_full (full : p.Full) (rounds : List (Option (Network × Clock)))
    (restored : Nat) :
    (reconnect task rounds p restored).1.writers = p.writers ∧
      (reconnect task rounds p restored).2 = restored := by
  induction rounds generalizing p with
  | nil => exact ⟨rfl, rfl⟩
  | cons round _ ih =>
    rcases round with _ | ⟨network, clock⟩
    · exact ⟨rfl, rfl⟩
    · obtain ⟨_, outcome, same, closed, attempt⟩ :=
        @reconnectAttempt_of_full p network clock task full restored
      unfold reconnect
      rw [attempt]
      cases outcome with
      | swapped | connected => cases closed
      | blocked => exact ⟨same.writers, rfl⟩
      | failed =>
        obtain ⟨writers, count⟩ := ih (same.full_iff.mpr full)
        exact ⟨writers.trans same.writers, count⟩

end ConnectingPool

theorem configured_le_effective {floor : FloorRuntime} {input : FloorInput} {fuel : Nat}
    {plan : FamilyFloorPlan} (built : buildFamilyFloorPlan floor input fuel = some plan) :
    floor.adaptiveFloorActiveCapConfiguredTotal ≤ plan.activeCapEffectiveTotal := by
  unfold buildFamilyFloorPlan at built
  dsimp only at built
  split_ifs at built
  · cases built
    exact le_rfl
  · cases built
    exact le_max_left _ _
  · obtain ⟨s, -, rfl⟩ := Option.map_eq_some_iff.mp built
    exact le_max_left _ _
  · obtain ⟨s, -, rfl⟩ := Option.map_eq_some_iff.mp built
    exact le_max_left _ _

theorem reconnect_opens_iff_below_cap (p : ConnectingPool) (task : ReconnectTask) (restored : Nat)
    (network : Network) (clock : Clock)
    (belowFloor : task.alive + restored <
      p.floor.requiredWritersForDcWithFloorMode task.endpoints.length false)
    (secret : 32 ≤ p.proxySecretLen)
    (accepted : ∀ addr ∈ task.endpoints, (network addr).isSome)
    (free : ∀ addr ∈ task.endpoints, ∀ expiry ∈ p.endpointQuarantine.lookup addr,
      expiry ≤ clock.now) :
    ((p.reconnectAttempt task network clock restored).2.opens = true ↔
      p.activeContourWriterCountTotal < p.floor.adaptiveFloorActiveCapConfiguredTotal) ∧
    ∀ input fuel plan, buildFamilyFloorPlan p.floor input fuel = some plan →
      plan.activeCapEffectiveTotal ≤ p.activeContourWriterCountTotal →
      (p.reconnectAttempt task network clock restored).2.opens = false ∧
        (p.reconnectAttempt task network clock restored).1.writers = p.writers := by
  refine ⟨⟨?_, ?_⟩, ?_⟩
  · intro opens
    by_contra reached
    obtain ⟨after, outcome, -, closed, attempt⟩ :=
      ConnectingPool.reconnectAttempt_of_full (Nat.not_lt.mp reached) restored
    rw [attempt] at opens
    exact Bool.noConfusion (closed.symm.trans opens)
  · intro below
    exact ConnectingPool.reconnectAttempt_of_room (Nat.not_le.mpr below) restored belowFloor secret
      accepted free
  · intro input fuel plan built reached
    obtain ⟨_, _, same, closed, attempt⟩ :=
      ConnectingPool.reconnectAttempt_of_full ((configured_le_effective built).trans reached) restored
    rw [attempt]
    exact ⟨closed, same.writers⟩

def threeWriters : FloorRuntime := { sevenWriters with maxActiveWritersPerCore := 3 }

def linkTo (dc : Int) : MeWriter where
  addr := planEndpoint dc
  sourceIp := IpAddr.ofOctets 10 0 0 1
  writerDc := dc
  generation := 1

def crowded (ids : List WriterId) : ConnectingPool where
  writers := Dict.assign (fun _ => linkTo 1) ids ∅
  reinit := { hardswap := true }
  floor := threeWriters
  nextWriterId := 4
  proxySecretLen := 128

def crowdedInput (ids : List WriterId) : FloorInput where
  writers := (crowded ids).writers
  dcEndpoints := Dict.assign (fun dc => if dc = 1 then [planEndpoint 1]
    else [planEndpoint 2, planEndpoint 3]) [1, 2] ∅
  liveAddrCounts := AList.singleton (1, planEndpoint 1) ids.length

def secondDc : ReconnectTask where
  dc := 2
  endpoints := [planEndpoint 2, planEndpoint 3]
  alive := 0
  activeCapEffectiveTotal := 3

def allAccept : Network := fun _ => some (IpAddr.ofOctets 10 0 0 1)

theorem two_writers_leave_room :
    ((crowded [1, 2]).reconnectAttempt secondDc allAccept ⟨0, 0⟩ 0).2.opens = true := by
  obtain ⟨opens, -⟩ := reconnect_opens_iff_below_cap (crowded [1, 2]) secondDc 0 allAccept ⟨0, 0⟩
    (by decide) (by decide) (fun _ _ => rfl) nofun
  exact opens.mpr (by decide +kernel)

theorem three_writers_stay_three :
    let after := ConnectingPool.reconnect secondDc
      [some (allAccept, ⟨0, 0⟩), some (allAccept, ⟨1, 1⟩), none] (crowded [1, 2, 3]) 0
    after.1.writers = (crowded [1, 2, 3]).writers ∧ after.2 = 0 :=
  ConnectingPool.reconnect_of_full (show _ ≤ _ by decide +kernel) _ 0

theorem three_writers_starve_second_dc :
    ((buildFamilyFloorPlan threeWriters (crowdedInput [1, 2, 3]) 9).map fun plan =>
      (plan.activeCapEffectiveTotal,
        (plan.byDc.lookup 2).map DcFloorPlanEntry.targetRequired)) =
      some (secondDc.activeCapEffectiveTotal, some 2) ∧
    (crowded [1, 2, 3]).activeContourWriterCountTotal = secondDc.activeCapEffectiveTotal ∧
    secondDc.alive < threeWriters.requiredWritersForDcWithFloorMode secondDc.endpoints.length false ∧
    (∀ addr ∈ secondDc.endpoints, (allAccept addr).isSome) ∧
    (crowded [1, 2, 3]).endpointQuarantine = ∅ ∧
    ((crowded [1, 2, 3]).reconnectAttempt secondDc allAccept ⟨0, 0⟩ 0).2 = .failed ∧
    ((crowded [1, 2, 3]).reconnectAttempt secondDc allAccept ⟨0, 0⟩ 0).1.writers =
      (crowded [1, 2, 3]).writers := by
  refine ⟨by decide +kernel, by decide +kernel, by decide, fun _ _ => rfl, rfl, by decide +kernel, ?_⟩
  rfl

end Telemt.MePool
