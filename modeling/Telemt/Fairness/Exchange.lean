import Telemt.Fairness.Accounting
import Telemt.Fairness.Ring

namespace Telemt.Fairness
open Foundation WorkerFairnessState

/-! # Calls of a scheduler in any order -/

namespace WorkerFairnessState
variable {s t u : WorkerFairnessState} {connId : ConnId} {now : Instant} {flow : FlowEntry}

structure Grown (flow entry : FlowEntry) (front back : List QueuedFrame) : Prop where
  queue : entry.queue = front ++ flow.queue ++ back
  deficit : entry.fairness.deficitBytes = flow.fairness.deficitBytes ∨
    (entry.fairness.pendingBytes = 0 ∧ entry.fairness.deficitBytes = 0)

structure Amended (s t : WorkerFairnessState) (connId : ConnId) (entry : FlowEntry) : Prop where
  config : t.config = s.config
  flows : ∀ other,
    t.flows.lookup other = if other = connId then some entry else s.flows.lookup other
  activeRing : t.activeRing =
    if entry.fairness.inActiveRing = true then joined s.activeRing connId else s.activeRing
  members : ∀ other, other ∈ t.activeRingMembers ↔ other ∈ t.activeRing

structure Removed (s t : WorkerFairnessState) (connId : ConnId) : Prop where
  config : t.config = s.config
  flows : t.flows = s.flows.erase connId
  activeRing : t.activeRing = s.activeRing.filter (· ≠ connId)
  activeRingMembers : t.activeRingMembers = s.activeRingMembers.erase connId

def entryOf (s : WorkerFairnessState) (connId : ConnId) (frameWeight : Nat) : FlowEntry :=
  (s.flows.lookup connId).getD { fairness := .new (s.bucketFor connId) frameWeight }

theorem openFlow_eq (s : WorkerFairnessState) (connId : ConnId) (frameWeight : Nat) :
    let opened := s.openFlow connId (s.bucketFor connId) frameWeight
    opened.2 = s.entryOf connId frameWeight ∧ opened.1.config = s.config ∧
      opened.1.pressure = s.pressure ∧
      opened.1.activeRing = s.activeRing ∧ opened.1.activeRingMembers = s.activeRingMembers ∧
      ∀ other, other ≠ connId → opened.1.flows.lookup other = s.flows.lookup other := by
  unfold openFlow entryOf
  cases found : s.flows.lookup connId with
  | some => exact ⟨rfl, rfl, rfl, rfl, rfl, fun _ _ => rfl⟩
  | none =>
    refine ⟨rfl, rfl, rfl, rfl, rfl, fun other different => ?_⟩
    exact AList.lookup_insert_ne different

theorem ring_enqueueActiveConn (members : ∀ other, other ∈ s.activeRingMembers ↔ other ∈ s.activeRing)
    (connId : ConnId) :
    (s.enqueueActiveConn connId).activeRing = joined s.activeRing connId ∧
      ∀ other, other ∈ (s.enqueueActiveConn connId).activeRingMembers ↔
        other ∈ (s.enqueueActiveConn connId).activeRing := by
  unfold enqueueActiveConn joined
  by_cases here : connId ∈ s.activeRing
  · rw [if_pos here, if_pos ((members connId).mpr here)]
    exact ⟨rfl, members⟩
  · rw [if_neg here, if_neg (mt (members connId).mp here)]
    refine ⟨rfl, fun other => ?_⟩
    rw [Finset.mem_insert, members, List.mem_append, List.mem_singleton, or_comm]

theorem config_enqueueActiveConn (s : WorkerFairnessState) (connId : ConnId) :
    (s.enqueueActiveConn connId).config = s.config := by
  unfold enqueueActiveConn
  split <;> rfl

theorem joined_of_active (ringed : s.Ringed)
    (found : s.flows.lookup connId = some flow) (active : flow.fairness.inActiveRing = true) :
    joined s.activeRing connId = s.activeRing :=
  joined_of_mem (ringed.active connId flow found (.inl active))

variable {entry : FlowEntry}

theorem Ringed.amended (ringed : s.Ringed) (amended : s.Amended t connId entry)
    (fit : entry.Fit s.config connId)
    (active : entry.queue ≠ [] → entry.fairness.inActiveRing = true ∨ connId ∈ s.activeRing)
    (size : Dict.size t.flows ≤ s.config.maxActiveFlows) : t.Ringed := by
  have found : t.flows.lookup connId = some entry := by rw [amended.flows, if_pos rfl]
  refine ringed.change connId amended.config ?_ amended.members ?_ ?_ ?_ ?_ size
  · rw [amended.activeRing]
    split
    · exact nodup_joined ringed.nodup connId
    · exact ringed.nodup
  · intro other different
    rw [amended.activeRing]
    split
    · rw [mem_joined, or_iff_right different]
    · rfl
  · intro other different
    rw [amended.flows, if_neg different]
  · exact fun _ => Dict.mem_iff_lookup.mpr ⟨entry, found⟩
  · intro flow same
    cases found.symm.trans same
    refine ⟨fit, fun turns => ?_⟩
    rw [amended.activeRing]
    split
    · exact mem_joined.mpr (.inl rfl)
    · next idle => exact (active (turns.resolve_left idle)).resolve_left idle

theorem Ringed.removed (ringed : s.Ringed) (removed : s.Removed t connId) : t.Ringed := by
  have gone : t.flows.lookup connId = none := by rw [removed.flows, AList.lookup_erase]
  have outside : connId ∉ t.activeRing := by
    rw [removed.activeRing]
    simp
  refine ringed.change connId removed.config ?_ ?_ ?_ ?_ ?_ ?_ ?_
  · rw [removed.activeRing]
    exact ringed.nodup.filter _
  · intro other
    rw [removed.activeRing, removed.activeRingMembers, Finset.mem_erase, ringed.members,
      List.mem_filter, and_comm]
    simp
  · intro other different
    rw [removed.activeRing, List.mem_filter]
    simp [different]
  · intro other different
    rw [removed.flows, AList.lookup_erase_ne different]
  · exact fun here => absurd here outside
  · intro flow found
    cases gone.symm.trans found
  · rw [removed.flows]
    refine (Dict.size_le_of_subset fun other known => ?_).trans ringed.size
    exact (AList.mem_erase.mp known).2

structure Passed (returned : List QueuedFrame) (s t : WorkerFairnessState) : Prop where
  ringed : t.Ringed
  scales : t.config.scales = s.config.scales
  grown : ∀ connId flow entry, s.flows.lookup connId = some flow →
    t.flows.lookup connId = some entry →
      ∃ front back, Grown flow entry front back ∧ ∀ frame ∈ front, frame ∈ returned
  ring : ∃ keep more, t.activeRing = s.activeRing.filter keep ++ more ∧
    ∀ connId ∈ t.flows, keep connId = true

variable {returned : List QueuedFrame}

theorem Grown.refl (flow : FlowEntry) : Grown flow flow [] [] :=
  ⟨(List.append_nil _).symm, .inl rfl⟩

theorem deficit_classifyFlow_cases (config : WorkerFairnessConfig) (state : PressureState)
    (now : Instant) (fairness : FlowFairnessState) :
    (classifyFlow config state now fairness).deficitBytes = fairness.deficitBytes ∨
      ((classifyFlow config state now fairness).pendingBytes = 0 ∧
        (classifyFlow config state now fairness).deficitBytes = 0) := by
  rw [deficitBytes_classifyFlow]
  split
  · exact .inr ⟨‹_›, rfl⟩
  · exact .inl rfl

variable {front back : List QueuedFrame}

theorem Grown.fit {config : WorkerFairnessConfig} (grown : Grown flow entry front back)
    (fit : flow.Fit config connId)
    (new : ∀ frame ∈ front ++ back, frame.queuedBytes ≤ config.maxDeficit ∧ frame.connId = connId)
    (pending : entry.fairness.pendingBytes = queuedBytes entry.queue) : entry.Fit config connId := by
  have cases (frame : QueuedFrame) (member : frame ∈ entry.queue) :
      frame ∈ flow.queue ∨ frame ∈ front ++ back := by
    rw [grown.queue] at member
    grind
  refine ⟨pending, fun frame member => ?_, fun frame member => ?_, ?_⟩
  · exact (cases frame member).elim (fit.frames frame) fun added => (new frame added).1
  · exact (cases frame member).elim (fit.own frame) fun added => (new frame added).2
  · rcases grown.deficit with same | ⟨_, zero⟩
    · exact same ▸ fit.deficit
    · exact zero.ge

theorem passed_refl (returned : List QueuedFrame) (ringed : s.Ringed) : Passed returned s s where
  ringed := ringed
  scales := rfl
  grown := by
    intro connId flow entry found same
    cases found.symm.trans same
    exact ⟨[], [], Grown.refl flow, nofun⟩
  ring := ⟨fun _ => true, [], by simp, fun _ _ => rfl⟩

theorem Passed.still (passed : Passed returned s t) (still : t.Still u) : Passed returned s u where
  ringed := passed.ringed.still still
  scales := still.scales.trans passed.scales
  grown := by
    rw [still.flows]
    exact passed.grown
  ring := by
    rw [still.flows, still.activeRing]
    exact passed.ring

theorem Passed.removed (passed : Passed returned s t) (removed : t.Removed u connId) :
    Passed returned s u where
  ringed := passed.ringed.removed removed
  scales := (congrArg _ removed.config).trans passed.scales
  grown := by
    intro other flow entry found left
    rw [removed.flows, Dict.lookup_erase_ite] at left
    split at left
    · cases left
    · exact passed.grown other flow entry found left
  ring := by
    obtain ⟨keep, more, ring, kept⟩ := passed.ring
    refine ⟨fun other => decide (other ≠ connId) && keep other, more.filter (· ≠ connId), ?_, ?_⟩
    · rw [removed.activeRing, ring, List.filter_append, List.filter_filter]
    · intro other known
      rw [removed.flows] at known
      obtain ⟨different, known⟩ := AList.mem_erase.mp known
      simp [different, kept other known]

theorem size_amended (amended : s.Amended t connId entry)
    (room : connId ∈ s.flows ∨ Dict.size s.flows < s.config.maxActiveFlows)
    (bounded : Dict.size s.flows ≤ s.config.maxActiveFlows) :
    Dict.size t.flows ≤ s.config.maxActiveFlows := by
  have subset (other : ConnId) (known : other ∈ t.flows) : other ∈ s.flows.insert connId entry := by
    obtain ⟨flow, found⟩ := Dict.mem_iff_lookup.mp known
    rw [amended.flows, ← Dict.lookup_insert_ite] at found
    exact Dict.mem_iff_lookup.mpr ⟨flow, found⟩
  refine (Dict.size_le_of_subset subset).trans ?_
  by_cases known : connId ∈ s.flows
  · rw [Dict.size_insert_of_mem _ known]
    exact bounded
  · rw [Dict.size_insert_of_notMem _ known]
    exact room.resolve_left known

theorem passed_amended (ringed : s.Ringed) (amended : s.Amended t connId entry)
    (here : ∀ old, s.flows.lookup connId = some old → flow = old) (fit : flow.Fit s.config connId)
    (grown : Grown flow entry front back) (returns : front ⊆ returned)
    (new : ∀ frame ∈ front ++ back, frame.queuedBytes ≤ s.config.maxDeficit ∧ frame.connId = connId)
    (pending : entry.fairness.pendingBytes = queuedBytes entry.queue)
    (active : entry.queue ≠ [] → entry.fairness.inActiveRing = true ∨ connId ∈ s.activeRing)
    (room : connId ∈ s.flows ∨ Dict.size s.flows < s.config.maxActiveFlows) : Passed returned s t where
  ringed := ringed.amended amended (grown.fit fit new pending) active
    (size_amended amended room ringed.size)
  scales := congrArg _ amended.config
  grown := by
    intro other old entry' found left
    rw [amended.flows] at left
    split at left
    · rename_i same
      subst same
      cases left
      exact ⟨front, back, here old found ▸ grown, fun _ member => returns member⟩
    · cases found.symm.trans left
      exact ⟨[], [], Grown.refl old, nofun⟩
  ring := by
    have all : s.activeRing.filter (fun _ => true) = s.activeRing := by simp
    rw [amended.activeRing]
    unfold joined
    split_ifs
    · exact ⟨fun _ => true, [], by rw [all, List.append_nil], fun _ _ => rfl⟩
    · exact ⟨fun _ => true, [connId], by rw [all], fun _ _ => rfl⟩
    · exact ⟨fun _ => true, [], by rw [all, List.append_nil], fun _ _ => rfl⟩

def weighed (flow : FlowEntry) (frameWeight : Nat) : FlowEntry :=
  { flow with fairness := { flow.fairness with
    weightQuanta := max flow.fairness.weightQuanta frameWeight } }

def admittedEntry (config : WorkerFairnessConfig) (state : PressureState) (now : Instant)
    (flow : FlowEntry) (frame : QueuedFrame) : FlowEntry where
  fairness := classifyFlow config state now { flow.fairness with
    pendingBytes := saturatingAdd 64 flow.fairness.pendingBytes frame.queuedBytes
    queueStartedAt := flow.fairness.queueStartedAt.or (some now)
    inActiveRing := true }
  queue := flow.queue ++ [frame]

theorem entryOf_eq {frameWeight : Nat} (found : s.flows.lookup connId = some flow) :
    s.entryOf connId frameWeight = flow := by
  rw [entryOf, found, Option.getD_some]

theorem entryOf_fit (ringed : s.Ringed) (connId : ConnId) (frameWeight : Nat) :
    (s.entryOf connId frameWeight).Fit s.config connId := by
  unfold entryOf
  cases found : s.flows.lookup connId with
  | some flow => exact ringed.fit connId flow found
  | none =>
    have nothing (frame : QueuedFrame) : frame ∉ ([] : List QueuedFrame) := List.not_mem_nil
    exact ⟨rfl, fun frame member => absurd member (nothing frame),
      fun frame member => absurd member (nothing frame), Int.le_refl _⟩

variable {frameWeight : Nat}

theorem entryOf_active (ringed : s.Ringed)
    (active : (s.entryOf connId frameWeight).fairness.inActiveRing = true ∨
      (s.entryOf connId frameWeight).queue ≠ []) : connId ∈ s.activeRing := by
  unfold entryOf at active
  cases found : s.flows.lookup connId with
  | some flow =>
    rw [found] at active
    exact ringed.active connId flow found active
  | none =>
    rw [found] at active
    rcases active with active | queued
    · cases active
    · exact absurd rfl queued

theorem amended_weighed (ringed : s.Ringed) (connId : ConnId) (frameWeight : Nat) :
    s.Amended ((s.openFlow connId (s.bucketFor connId) frameWeight).1.setFlow connId
      (weighed (s.entryOf connId frameWeight) frameWeight)) connId
      (weighed (s.entryOf connId frameWeight) frameWeight) := by
  obtain ⟨_, config, _, ring, members, others⟩ := s.openFlow_eq connId frameWeight
  refine ⟨config, ?_, ?_, ?_⟩
  · intro other
    rw [flows_setFlow, Dict.lookup_insert_ite]
    split
    · rfl
    · exact others other ‹_›
  · change (s.openFlow connId _ _).1.activeRing = _
    rw [ring]
    split
    · rename_i active
      exact (joined_of_mem (entryOf_active ringed (.inl active))).symm
    · rfl
  · intro other
    change other ∈ (s.openFlow connId _ _).1.activeRingMembers ↔
      other ∈ (s.openFlow connId _ _).1.activeRing
    rw [ring, members]
    exact ringed.members other

theorem amended_admitFrame (amended : s.Amended t connId flow)
    (listed : flow.fairness.inActiveRing = true → connId ∈ s.activeRing) (bucketId : Nat)
    (frame : QueuedFrame) (now : Instant) :
    s.Amended (t.admitFrame connId bucketId flow frame now) connId
      (admittedEntry t.config t.pressure.state now flow frame) := by
  have ring : t.activeRing = s.activeRing := by
    rw [amended.activeRing]
    split
    · exact joined_of_mem (listed ‹_›)
    · rfl
  have flows (other : ConnId) (entry : FlowEntry) : (t.flows.insert connId entry).lookup other =
      if other = connId then some entry else s.flows.lookup other := by
    rw [Dict.lookup_insert_ite, amended.flows]
    split <;> rfl
  let stored := (t.addBucketBytes bucketId frame.queuedBytes).setFlow connId
    (admittedEntry t.config t.pressure.state now flow frame)
  obtain ⟨joins, members⟩ := ring_enqueueActiveConn (s := stored) amended.members connId
  unfold admitFrame
  dsimp only
  split
  · rename_i active
    refine ⟨amended.config, fun other => flows other _, ?_, amended.members⟩
    exact ring.trans (joined_of_mem (listed active)).symm
  · refine ⟨?_, ?_, ?_, ?_⟩
    · exact (config_enqueueActiveConn stored connId).trans amended.config
    · intro other
      rw [flows_evaluatePressure, flows_applyFlowMembershipDelta, flows_enqueueActiveConn]
      exact flows other _
    · exact joins.trans (congrArg (joined · connId) ring)
    · exact members

theorem grown_admittedEntry (config : WorkerFairnessConfig) (state : PressureState) (now : Instant)
    (flow : FlowEntry) (frame : QueuedFrame) :
    Grown flow (admittedEntry config state now flow frame) [] [frame] :=
  ⟨rfl, deficit_classifyFlow_cases _ _ _ _⟩

def Holds (s : WorkerFairnessState) (connId : ConnId) (bytes : Nat) : Prop :=
  bytes < 2 ^ 63 ∧
    ∀ flow, s.flows.lookup connId = some flow → queuedBytes flow.queue + bytes < 2 ^ 64

theorem Holds.entryOf {bytes : Nat} (holds : s.Holds connId bytes) (frameWeight : Nat) :
    queuedBytes (s.entryOf connId frameWeight).queue + bytes < 2 ^ 64 := by
  obtain ⟨_, fits⟩ := holds
  unfold WorkerFairnessState.entryOf
  cases found : s.flows.lookup connId with
  | some flow => exact fits flow found
  | none =>
    change 0 + bytes < 2 ^ 64
    omega

theorem passed_weighed (ringed : s.Ringed)
    (room : connId ∈ s.flows ∨ Dict.size s.flows < s.config.maxActiveFlows)
    (amended : s.Amended t connId (weighed (s.entryOf connId frameWeight) frameWeight)) :
    Passed [] s t := by
  have fit := entryOf_fit ringed connId frameWeight
  exact passed_amended ringed amended (fun _ => entryOf_eq) fit ⟨(List.append_nil _).symm, .inl rfl⟩
    (List.nil_subset _) (by simp) fit.pending
    (fun queued => .inr (entryOf_active ringed (.inr queued))) room

variable {frame : QueuedFrame}

theorem passed_admitted (ringed : s.Ringed) {state : PressureState} (own : frame.connId = connId)
    (small : frame.queuedBytes ≤ s.config.maxDeficit)
    (fits : queuedBytes (s.entryOf connId frameWeight).queue + frame.queuedBytes < 2 ^ 64)
    (room : connId ∈ s.flows ∨ Dict.size s.flows < s.config.maxActiveFlows)
    (amended : s.Amended t connId (admittedEntry s.config state now
      (weighed (s.entryOf connId frameWeight) frameWeight) frame)) : Passed [] s t := by
  have fit := entryOf_fit ringed connId frameWeight
  obtain ⟨queue, deficit⟩ := grown_admittedEntry s.config state now
    (weighed (s.entryOf connId frameWeight) frameWeight) frame
  refine passed_amended ringed amended (fun _ => entryOf_eq) fit ⟨queue, deficit⟩
    (List.nil_subset _) (by simp [small, own]) ?_ (fun _ => .inl rfl) room
  unfold admittedEntry
  dsimp only
  rw [pendingBytes_classifyFlow, queuedBytes_append]
  dsimp only [weighed]
  rw [fit.pending]
  exact Nat.min_eq_left (Nat.le_sub_one_of_lt fits)

theorem passed_enqueueData (ringed : s.Ringed) {data : Bytes} (holds : s.Holds connId data.length)
    (flags : UInt32) (now : Instant) : Passed [] s (s.enqueueData connId flags data now).1 := by
  have quiet : Passed [] s s := passed_refl [] ringed
  have amended := amended_weighed ringed connId (weightForFlags s.config flags)
  have fits := holds.entryOf (weightForFlags s.config flags)
  have listed (active : (weighed (s.entryOf connId (weightForFlags s.config flags))
      (weightForFlags s.config flags)).fairness.inActiveRing = true) : connId ∈ s.activeRing :=
    entryOf_active ringed (.inl active)
  obtain ⟨entry, config, _⟩ := s.openFlow_eq connId (weightForFlags s.config flags)
  unfold enqueueData
  dsimp only
  generalize s.openFlow connId (s.bucketFor connId) (weightForFlags s.config flags) = opened at *
  obtain ⟨m, _⟩ := opened
  dsimp only at entry config amended ⊢
  subst entry
  split_ifs with saturated total flows bucket flowCap standing
  · exact quiet.still ⟨rfl, rfl, rfl, rfl⟩
  · exact quiet.still ⟨rfl, rfl, rfl, rfl⟩
  · exact quiet.still ⟨rfl, rfl, rfl, rfl⟩
  · exact quiet.still ⟨rfl, rfl, rfl, rfl⟩
  all_goals
    have room : connId ∈ s.flows ∨ Dict.size s.flows < s.config.maxActiveFlows := by
      by_contra full
      obtain ⟨unknown, full⟩ := not_or.mp full
      exact flows ⟨unknown, Nat.not_lt.mp full⟩
  · exact (passed_weighed ringed room amended).still ⟨rfl, rfl, rfl, rfl⟩
  · exact (passed_weighed ringed room amended).still ⟨rfl, rfl, rfl, rfl⟩
  · let frame : QueuedFrame := ⟨connId, flags, data, now⟩
    have small : frame.queuedBytes ≤ s.config.maxDeficit := by
      have below : frame.queuedBytes < 2 ^ 63 := holds.1
      have within : saturatingAdd 64 _ frame.queuedBytes ≤ s.config.maxFlowQueuedBytes :=
        config ▸ Nat.not_lt.mp flowCap
      unfold saturatingAdd at within
      unfold WorkerFairnessConfig.maxDeficit
      omega
    have admitted := amended_admitFrame amended listed (s.bucketFor connId) frame now
    rw [amended.config] at admitted
    exact passed_admitted ringed rfl small fits room admitted

theorem passed_removeFlow (passed : Passed returned s t) (connId : ConnId) :
    Passed returned s (t.removeFlow connId) := by
  unfold removeFlow
  split
  · exact passed
  · exact passed.removed ⟨rfl, rfl, rfl, rfl⟩

theorem passed_setBackpressureEnabled (ringed : s.Ringed) (enabled : Bool) (now : Instant) :
    Passed [] s (s.setBackpressureEnabled enabled now) := by
  unfold setBackpressureEnabled
  split
  · exact passed_refl [] ringed
  · exact (passed_refl [] ringed).still ⟨rfl, rfl, rfl, rfl⟩

theorem passed_rewritten (ringed : s.Ringed) (found : s.flows.lookup connId = some flow)
    {fairness : FlowFairnessState}
    (flows : t.flows = s.flows.insert connId { flow with fairness := fairness })
    (config : t.config = s.config) (ring : t.activeRing = s.activeRing)
    (members : t.activeRingMembers = s.activeRingMembers)
    (pending : fairness.pendingBytes = flow.fairness.pendingBytes)
    (active : fairness.inActiveRing = flow.fairness.inActiveRing)
    (deficit : fairness.deficitBytes = flow.fairness.deficitBytes ∨
      (fairness.pendingBytes = 0 ∧ fairness.deficitBytes = 0)) : Passed returned s t := by
  have fit := ringed.fit connId flow found
  have known : connId ∈ s.flows := Dict.mem_iff_lookup.mpr ⟨flow, found⟩
  have amended : s.Amended t connId { flow with fairness := fairness } := by
    refine ⟨config, ?_, ?_, ?_⟩
    · intro other
      rw [flows, Dict.lookup_insert_ite]
    · dsimp only
      rw [ring, active]
      split
      · exact (joined_of_active ringed found ‹_›).symm
      · rfl
    · rw [ring, members]
      exact ringed.members
  exact passed_amended ringed amended (fun _ same => Option.some.inj (found.symm.trans same)) fit
    ⟨(List.append_nil _).symm, deficit⟩ (List.nil_subset _) (by simp) (pending.trans fit.pending)
    (fun queued => .inr (ringed.active connId flow found (.inr queued))) (.inl known)

theorem passed_feedbackRouted (ringed : s.Ringed) (connId : ConnId) (candidate : DispatchCandidate)
    (now : Instant) : Passed returned s (s.feedbackRouted connId candidate now) := by
  unfold feedbackRouted
  split
  · exact passed_refl returned ringed
  · rename_i flow found
    refine passed_rewritten ringed found rfl rfl rfl rfl rfl rfl ?_
    exact deficit_classifyFlow_cases _ _ _ _

theorem still_noteStall (s : WorkerFairnessState) (now : Instant) : s.Still (s.noteStall now) := by
  unfold noteStall
  split <;> exact ⟨rfl, rfl, rfl, rfl⟩

variable (config : WorkerFairnessConfig)

theorem stalled_eq (fairness : FlowFairnessState) :
    (stalled config fairness).pendingBytes = fairness.pendingBytes ∧
      (stalled config fairness).deficitBytes = fairness.deficitBytes ∧
      (stalled config fairness).inActiveRing = fairness.inActiveRing := by
  unfold stalled
  split <;> exact ⟨rfl, rfl, rfl⟩

def returnedEntry (state : PressureState) (now : Instant) (flow : FlowEntry) (frame : QueuedFrame) :
    FlowEntry where
  fairness := classifyFlow config state now { stalled config flow.fairness with
    pendingBytes := saturatingAdd 64 (stalled config flow.fairness).pendingBytes frame.queuedBytes
    queueStartedAt := some frame.enqueuedAt
    inActiveRing := true }
  queue := frame :: flow.queue

theorem grown_returnedEntry (state : PressureState) (now : Instant)
    (flow : FlowEntry) (frame : QueuedFrame) :
    Grown flow (returnedEntry config state now flow frame) [frame] [] := by
  refine ⟨(List.append_nil _).symm, ?_⟩
  have cases_ := deficit_classifyFlow_cases config state now { stalled config flow.fairness with
    pendingBytes := saturatingAdd 64 (stalled config flow.fairness).pendingBytes frame.queuedBytes
    queueStartedAt := some frame.enqueuedAt
    inActiveRing := true }
  rcases cases_ with same | reset
  · exact .inl (same.trans (stalled_eq config flow.fairness).2.1)
  · exact .inr reset

theorem Passed.after_still (still : s.Still t) (passed : Passed returned t u) :
    Passed returned s u where
  ringed := passed.ringed
  scales := passed.scales.trans still.scales
  grown := by
    rw [← still.flows]
    exact passed.grown
  ring := by
    rw [← still.activeRing]
    exact passed.ring

theorem amended_returned (ringed : s.Ringed) (found : s.flows.lookup connId = some flow)
    (state : PressureState) (now : Instant) (frame : QueuedFrame) (bucketId : Nat)
    (before after : Bool × Bool) :
    let stored := (s.addBucketBytes bucketId frame.queuedBytes).setFlow connId
      (returnedEntry s.config state now flow frame)
    s.Amended ((if (stalled s.config flow.fairness).inActiveRing = true then stored
      else stored.enqueueActiveConn connId).applyFlowMembershipDelta before after) connId
      (returnedEntry s.config state now flow frame) := by
  intro stored
  obtain ⟨joins, members⟩ := ring_enqueueActiveConn (s := stored) ringed.members connId
  split
  · rename_i active
    rw [(stalled_eq s.config flow.fairness).2.2] at active
    refine ⟨rfl, fun other => Dict.lookup_insert_ite _ _ _ _, ?_, ringed.members⟩
    exact (joined_of_active ringed found active).symm
  · refine ⟨config_enqueueActiveConn stored connId, fun other => ?_, joins, members⟩
    rw [flows_applyFlowMembershipDelta, flows_enqueueActiveConn]
    exact Dict.lookup_insert_ite _ _ _ _

theorem passed_returned (ringed : s.Ringed) (found : s.flows.lookup connId = some flow)
    {state : PressureState} (own : frame.connId = connId)
    (small : frame.queuedBytes ≤ s.config.maxDeficit)
    (fits : queuedBytes flow.queue + frame.queuedBytes < 2 ^ 64)
    (amended : s.Amended t connId (returnedEntry s.config state now flow frame)) :
    Passed [frame] s t := by
  have known : connId ∈ s.flows := Dict.mem_iff_lookup.mpr ⟨flow, found⟩
  have fit := ringed.fit connId flow found
  refine passed_amended ringed amended (fun _ same => Option.some.inj (found.symm.trans same)) fit
    (grown_returnedEntry s.config state now flow frame) (List.Subset.refl _) (by simp [small, own])
    ?_ (fun _ => .inl rfl) (.inl known)
  change saturatingAdd 64 (stalled s.config flow.fairness).pendingBytes frame.queuedBytes =
    frame.queuedBytes + queuedBytes flow.queue
  rw [(stalled_eq s.config flow.fairness).1, fit.pending, Nat.add_comm frame.queuedBytes]
  exact Nat.min_eq_left (Nat.le_sub_one_of_lt fits)

theorem passed_closed (passed : Passed returned s t) (connId : ConnId) (now : Instant)
    (close : Bool) :
    Passed returned s (if close = true then
      ((t.removeFlow connId).evaluatePressure now true, DispatchAction.closeFlow)
      else (t.evaluatePressure now true, DispatchAction.continue)).1 := by
  cases close with
  | false => exact passed.still ⟨rfl, rfl, rfl, rfl⟩
  | true => exact (passed_removeFlow passed connId).still ⟨rfl, rfl, rfl, rfl⟩

section
variable (ringed : s.Ringed) {candidate : DispatchCandidate}
  (small : candidate.frame.queuedBytes ≤ s.config.maxDeficit)
  (fits : ∀ flow, s.flows.lookup candidate.frame.connId = some flow →
    queuedBytes flow.queue + candidate.frame.queuedBytes < 2 ^ 64)
include ringed small fits

theorem passed_feedbackQueueFull (now : Instant) :
    Passed [candidate.frame] s (s.feedbackQueueFull candidate.frame.connId candidate now).1 := by
  have noted := still_noteStall s now
  have config := (pressure_noteStall s now).2
  rw [← noted.flows] at fits
  rw [← config] at small
  have ringed := ringed.still noted
  refine Passed.after_still noted ?_
  unfold feedbackQueueFull
  dsimp only
  generalize s.noteStall now = m at *
  cases found : m.flows.lookup candidate.frame.connId with
  | none => exact (passed_refl _ ringed).still ⟨rfl, rfl, rfl, rfl⟩
  | some flow =>
    obtain ⟨pending, deficit, active⟩ := stalled_eq m.config flow.fairness
    apply passed_closed
    cases shed : shouldShedFrame m.config m.pressure.state (stalled m.config flow.fairness) with
    | true =>
      refine passed_rewritten ringed found rfl rfl rfl rfl pending active ?_
      rw [← deficit]
      exact deficit_classifyFlow_cases _ _ _ _
    | false =>
      have amended := amended_returned ringed found m.pressure.state now candidate.frame
        flow.fairness.bucketId
      simp only [Bool.false_eq_true, if_false, false_or]
      exact passed_returned ringed found rfl small (fits flow found) (amended _ _)

theorem passed_applyDispatchFeedback (feedback : DispatchFeedback) (now : Instant) :
    Passed [candidate.frame] s
      (s.applyDispatchFeedback candidate.frame.connId candidate feedback now).1 := by
  have quiet := passed_refl [candidate.frame] ringed
  cases feedback with
  | routed => exact (passed_feedbackRouted ringed _ candidate now).still ⟨rfl, rfl, rfl, rfl⟩
  | queueFull => exact passed_feedbackQueueFull ringed small fits now
  | channelClosed | noConn => exact (passed_removeFlow quiet _).still ⟨rfl, rfl, rfl, rfl⟩

end

end WorkerFairnessState

/-- A scheduler and the candidates that it has handed out and that nobody has reported on. -/
structure Exchange where
  fairness : WorkerFairnessState
  outstanding : List DispatchCandidate := []

namespace Exchange

def start (config : WorkerFairnessConfig) (now : Instant) : Exchange where
  fairness := .new config now

variable (x : Exchange)

def step : Call → Option Exchange
  | .enqueueData connId flags data now =>
    some { x with fairness := (x.fairness.enqueueData connId flags data now).1 }
  | .nextDecision now =>
    some { fairness := (x.fairness.nextDecision now).1
           outstanding := x.outstanding ++ (x.fairness.nextDecision now).2.candidate?.toList }
  | .applyDispatchFeedback connId candidate feedback now =>
    if candidate ∈ x.outstanding ∧ connId = candidate.frame.connId then
      some { fairness := (x.fairness.applyDispatchFeedback connId candidate feedback now).1
             outstanding := x.outstanding.erase candidate }
    else none
  | .removeFlow connId => some { x with fairness := x.fairness.removeFlow connId }
  | .setBackpressureEnabled enabled now =>
    some { x with fairness := x.fairness.setBackpressureEnabled enabled now }

def Countable : Call → Prop
  | .enqueueData connId _ data _ => x.fairness.Holds connId data.length
  | .applyDispatchFeedback connId candidate _ _ => ∀ flow,
      x.fairness.flows.lookup connId = some flow →
        queuedBytes flow.queue + candidate.frame.queuedBytes < 2 ^ 64
  | _ => True

instance : (call : Call) → Decidable (x.Countable call)
  | .enqueueData connId _ _ _ => inferInstanceAs (Decidable
      (_ ∧ ∀ flow ∈ x.fairness.flows.lookup connId, _))
  | .applyDispatchFeedback connId _ _ _ =>
    inferInstanceAs (Decidable (∀ flow ∈ x.fairness.flows.lookup connId, _))
  | .nextDecision _ | .removeFlow _ | .setBackpressureEnabled _ _ => inferInstanceAs (Decidable True)

def handedOut : Call → Option DispatchCandidate
  | .nextDecision now => (x.fairness.nextDecision now).2.candidate?
  | _ => none

structure Sound (x : Exchange) : Prop where
  ringed : x.fairness.Ringed
  small : ∀ candidate ∈ x.outstanding, candidate.frame.queuedBytes ≤ x.fairness.config.maxDeficit

/-- The worker of a reader is the case of at most one candidate. -/
def ofWorker (w : Worker) : Exchange where
  fairness := w.fairness
  outstanding := w.inFlight.toList

variable {call : Call}

theorem step_ofWorker {w t : Worker} (stepped : w.step call = some t) :
    (ofWorker w).step call = some (ofWorker t) := by
  cases call with
  | enqueueData connId flags data now | removeFlow connId | setBackpressureEnabled enabled now =>
    obtain ⟨idle, rfl⟩ := Worker.whenIdle_eq_some.mp stepped
    simp only [ofWorker, step, idle]
  | nextDecision now =>
    obtain ⟨idle, rfl⟩ := Worker.whenIdle_eq_some.mp stepped
    simp only [ofWorker, step, idle, Option.toList_none, List.nil_append]
  | applyDispatchFeedback =>
    obtain ⟨⟨flying, rfl⟩, ⟨⟩⟩ := Option.ite_none_right_eq_some.mp stepped
    simp [ofWorker, step, flying]

theorem sound_start (config : WorkerFairnessConfig) (now : Instant) : (start config now).Sound where
  ringed :=
    { nodup := List.nodup_nil
      members := fun connId => by simp [start, WorkerFairnessState.new]
      known := nofun
      active := by rintro connId flow ⟨⟩
      fit := by rintro connId flow ⟨⟩
      size := Nat.zero_le _ }
  small := nofun

variable {x y : Exchange}

theorem Sound.passed (countable : x.Countable call) (sound : x.Sound)
    (turnless : ∀ now, call ≠ .nextDecision now) (stepped : x.step call = some y) :
    ∃ returned, Passed returned x.fairness y.fairness ∧
      y.outstanding ⊆ x.outstanding ∧
      ∀ frame ∈ returned, ∃ candidate ∈ x.outstanding, candidate.frame = frame := by
  have none (frame : QueuedFrame) (member : frame ∈ ([] : List QueuedFrame)) :
      ∃ candidate ∈ x.outstanding, candidate.frame = frame := absurd member List.not_mem_nil
  cases call with
  | enqueueData connId flags _ now =>
    cases stepped
    exact ⟨[], passed_enqueueData sound.ringed countable flags now, List.Subset.refl _, none⟩
  | nextDecision now => exact absurd rfl (turnless now)
  | applyDispatchFeedback connId candidate feedback now =>
    obtain ⟨⟨member, rfl⟩, ⟨⟩⟩ := Option.ite_none_right_eq_some.mp stepped
    refine ⟨[candidate.frame], ?_, List.erase_subset, ?_⟩
    · exact passed_applyDispatchFeedback sound.ringed (sound.small candidate member) countable
        feedback now
    · intro frame only
      exact ⟨candidate, member, (List.mem_singleton.mp only).symm⟩
  | removeFlow connId =>
    cases stepped
    exact ⟨[], passed_removeFlow (passed_refl [] sound.ringed) connId, List.Subset.refl _, none⟩
  | setBackpressureEnabled enabled now =>
    cases stepped
    exact ⟨[], passed_setBackpressureEnabled sound.ringed enabled now, List.Subset.refl _, none⟩

theorem Sound.nextDecision (sound : x.Sound) (now : Instant) :
    Sound { fairness := (x.fairness.nextDecision now).1
            outstanding := x.outstanding ++ (x.fairness.nextDecision now).2.candidate?.toList } := by
  have ringed := sound.ringed.still (still_rated x.fairness now)
  rw [nextDecision_eq]
  obtain ⟨config, _, sent⟩ := serveRing_keeps ringed x.fairness.activeRing.length now
  refine ⟨ringed.serveRing now, ?_⟩
  intro candidate member
  dsimp only at member ⊢
  rw [config]
  rcases List.mem_append.mp member with old | new
  · exact sound.small candidate old
  · refine sent candidate ?_
    generalize (serveRing x.fairness.activeRing.length (x.fairness.rated now) now).2 = decision at new
    cases decision with
    | idle => exact absurd new List.not_mem_nil
    | dispatch => rw [List.mem_singleton.mp new]

theorem Sound.step (countable : x.Countable call) (sound : x.Sound)
    (stepped : x.step call = some y) : y.Sound := by
  by_cases turn : ∃ now, call = .nextDecision now
  · obtain ⟨now, rfl⟩ := turn
    cases stepped
    exact sound.nextDecision now
  · obtain ⟨_, passed, fewer, _⟩ :=
      sound.passed countable (fun now same => turn ⟨now, same⟩) stepped
    refine ⟨passed.ringed, fun candidate member => ?_⟩
    rw [WorkerFairnessConfig.maxDeficit_eq passed.scales]
    exact sound.small candidate (fewer member)

theorem scales_step (countable : x.Countable call) (sound : x.Sound)
    (stepped : x.step call = some y) : y.fairness.config.scales = x.fairness.config.scales := by
  by_cases turn : ∃ now, call = .nextDecision now
  · obtain ⟨now, rfl⟩ := turn
    cases stepped
    have ringed := sound.ringed.still (still_rated x.fairness now)
    exact congrArg _ (serveRing_keeps ringed x.fairness.activeRing.length now).1
  · obtain ⟨_, passed, _⟩ :=
      sound.passed countable (fun now same => turn ⟨now, same⟩) stepped
    exact passed.scales

theorem scales_run {config : WorkerFairnessConfig} {now : Instant} {calls : List Call}
    (countable : Guarded Exchange.step Exchange.Countable (start config now) calls)
    (run : runFrom Exchange.step (start config now) calls = some x) :
    x.Sound ∧ x.fairness.config.scales = config.scales := by
  refine runFrom_invariant (fun x => x.Sound ∧ x.fairness.config.scales = config.scales) ?_ countable
    ⟨sound_start config now, rfl⟩ run
  rintro x call y countable ⟨sound, same⟩ stepped
  exact ⟨sound.step countable stepped, (scales_step countable sound stepped).trans same⟩

end Exchange

end Telemt.Fairness
