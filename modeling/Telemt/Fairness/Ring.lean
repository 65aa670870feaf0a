import Telemt.Fairness.Books

namespace Telemt.Fairness
open Foundation WorkerFairnessState

/-! # The ring of a scheduler -/

def WorkerFairnessConfig.maxDeficit (config : WorkerFairnessConfig) : Nat :=
  min config.maxFlowQueuedBytes (2 ^ 63 - 1)

def WorkerFairnessConfig.scales (config : WorkerFairnessConfig) : Nat × Nat × Nat × Nat × Nat :=
  (config.maxActiveFlows, config.maxFlowQueuedBytes, config.baseQuantumBytes,
    config.pressuredQuantumBytes, config.penalizedQuantumBytes)

variable {config : WorkerFairnessConfig}

theorem WorkerFairnessConfig.maxDeficit_eq {other : WorkerFairnessConfig}
    (same : other.scales = config.scales) : other.maxDeficit = config.maxDeficit := by
  have flow : other.maxFlowQueuedBytes = config.maxFlowQueuedBytes :=
    congrArg (fun scales => scales.2.1) same
  unfold maxDeficit
  rw [flow]

theorem schedulerState_classifyFlow {state : PressureState}
    {now : Instant} {fairness : FlowFairnessState} :
    (classifyFlow config state now fairness).schedulerState = .idle ↔ fairness.pendingBytes = 0 := by
  unfold classifyFlow deriveFlowClassification
  dsimp only
  split_ifs <;> simp_all

theorem deficitBytes_classifyFlow (config : WorkerFairnessConfig) (state : PressureState)
    (now : Instant) (fairness : FlowFairnessState) :
    (classifyFlow config state now fairness).deficitBytes =
      if fairness.pendingBytes = 0 then 0 else fairness.deficitBytes := by
  have idle := @schedulerState_classifyFlow config state now fairness
  change (if (classifyFlow config state now fairness).schedulerState = .idle then 0
    else fairness.deficitBytes) = _
  simp only [idle]

def FlowFairnessState.credit (fairness : FlowFairnessState) : Int :=
  if fairness.pendingBytes = 0 then 0 else fairness.deficitBytes

def turnQuantum (config : WorkerFairnessConfig) (state : PressureState) (now : Instant)
    (fairness : FlowFairnessState) : Nat :=
  effectiveQuantumBytes config state
    (classifyFlow config state now { fairness with inActiveRing := false })

def turnBudget (config : WorkerFairnessConfig) (state : PressureState) (now : Instant)
    (fairness : FlowFairnessState) : Int :=
  min (fairness.credit + turnQuantum config state now fairness) config.maxDeficit

theorem cast_maxDeficit (config : WorkerFairnessConfig) :
    (config.maxDeficit : Int) = min (config.maxFlowQueuedBytes : Int) (2 ^ 63 - 1) := by
  unfold WorkerFairnessConfig.maxDeficit
  omega

theorem clamp_grant {deficit : Int} (positive : 0 ≤ deficit) (quantum : Nat) :
    min (max (saturatingAddInt deficit quantum) 0)
        (min (config.maxFlowQueuedBytes : Int) (2 ^ 63 - 1)) =
      min (deficit + quantum) config.maxDeficit := by
  rw [cast_maxDeficit]
  unfold saturatingAddInt
  omega

theorem clamp_charge {budget : Int} {length : Nat} (covered : length ≤ budget)
    (bounded : budget ≤ config.maxDeficit) :
    min (max (saturatingAddInt budget (-length)) 0)
        (min (config.maxFlowQueuedBytes : Int) (2 ^ 63 - 1)) = budget - length := by
  rw [cast_maxDeficit] at bounded
  unfold saturatingAddInt
  omega

section Turn
variable (config : WorkerFairnessConfig) (state : PressureState) (now : Instant)
  {fairness : FlowFairnessState} {front : QueuedFrame} {rest : List QueuedFrame}

section
variable (positive : 0 ≤ fairness.credit)
include positive

theorem clampDeficitBytes_grant :
    let classified := classifyFlow config state now { fairness with inActiveRing := false }
    clampDeficitBytes config { classified with
        deficitBytes := saturatingAddInt classified.deficitBytes
          (effectiveQuantumBytes config state classified) } =
      { classified with deficitBytes := turnBudget config state now fairness } := by
  intro classified
  have deficit : classified.deficitBytes = fairness.credit := deficitBytes_classifyFlow _ _ _ _
  unfold clampDeficitBytes
  dsimp only
  rw [deficit, clamp_grant positive]
  rfl

theorem takeTurn_skips (short : turnBudget config state now fairness < front.queuedBytes) :
    takeTurn config state now fairness front rest =
      ({ fairness := { classifyFlow config state now { fairness with inActiveRing := false } with
          deficitBytes := turnBudget config state now fairness
          consecutiveSkips := saturatingAdd 8 fairness.consecutiveSkips 1
          inActiveRing := true }
         queue := front :: rest }, none) := by
  unfold takeTurn
  dsimp only
  rw [clampDeficitBytes_grant config state now positive, if_pos short]
  rfl

theorem takeTurn_sends (covered : front.queuedBytes ≤ turnBudget config state now fairness) :
    takeTurn config state now fairness front rest =
      ({ fairness := { classifyFlow config state now { fairness with inActiveRing := false } with
          pendingBytes := fairness.pendingBytes - front.queuedBytes
          deficitBytes :=
            if rest = [] then 0 else turnBudget config state now fairness - front.queuedBytes
          consecutiveSkips := 0
          queueStartedAt := rest.head?.map QueuedFrame.enqueuedAt
          schedulerState :=
            if rest = [] then .idle
            else (classifyFlow config state now
              { fairness with inActiveRing := false }).schedulerState
          inActiveRing := decide (rest ≠ []) }
         queue := rest }, some front) := by
  have bounded : turnBudget config state now fairness ≤ config.maxDeficit := min_le_right _ _
  unfold takeTurn
  dsimp only
  rw [clampDeficitBytes_grant config state now positive, if_neg (Int.not_lt.mpr covered)]
  unfold clampDeficitBytes
  dsimp only
  rw [clamp_charge covered bounded]
  by_cases last : rest = []
  · simp only [if_pos last]
    simp [last]
  · simp only [if_neg last]
    simp [last]

end

end Turn

def FlowEntry.turned (flow : FlowEntry) (config : WorkerFairnessConfig) (state : PressureState)
    (now : Instant) : FlowEntry × Option QueuedFrame :=
  match flow.queue with
  | [] =>
    ({ flow with fairness := { flow.fairness with
        inActiveRing := false
        schedulerState := .idle
        pendingBytes := 0
        deficitBytes := 0
        queueStartedAt := none } }, none)
  | front :: rest => takeTurn config state now flow.fairness front rest

def joined (ring : List ConnId) (connId : ConnId) : List ConnId :=
  if connId ∈ ring then ring else ring ++ [connId]

variable {ring : List ConnId}

theorem mem_joined {connId other : ConnId} :
    other ∈ joined ring connId ↔ other = connId ∨ other ∈ ring := by
  unfold joined
  split
  · rename_i here
    constructor
    · exact Or.inr
    · rintro (rfl | there)
      · exact here
      · exact there
  · rw [List.mem_append, List.mem_singleton, or_comm]

theorem joined_of_mem {connId : ConnId} (here : connId ∈ ring) :
    joined ring connId = ring := if_pos here

theorem nodup_joined (nodup : ring.Nodup) (connId : ConnId) :
    (joined ring connId).Nodup := by
  unfold joined
  split
  · exact nodup
  · rename_i outside
    exact nodup.append (List.nodup_singleton _) (by simpa using outside)

theorem idxOf_filter_le {other : ConnId} (keep : ConnId → Bool) (kept : keep other = true) :
    (ring.filter keep).idxOf other ≤ ring.idxOf other := by
  induction ring with
  | nil => exact Nat.le_refl _
  | cons front _ ih =>
    by_cases same : front = other
    · subst same
      rw [List.filter_cons_of_pos kept, List.idxOf_cons_self]
      exact Nat.zero_le _
    · rw [List.idxOf_cons_ne _ same]
      cases stays : keep front with
      | true =>
        rw [List.filter_cons_of_pos stays, List.idxOf_cons_ne _ same]
        exact Nat.succ_le_succ ih
      | false =>
        rw [List.filter_cons_of_neg (by rw [stays]; exact Bool.false_ne_true)]
        exact ih.trans (Nat.le_succ _)

structure FlowEntry.Fit (config : WorkerFairnessConfig) (connId : ConnId) (flow : FlowEntry) : Prop where
  pending : flow.fairness.pendingBytes = queuedBytes flow.queue
  frames : ∀ frame ∈ flow.queue, frame.queuedBytes ≤ config.maxDeficit
  own : ∀ frame ∈ flow.queue, frame.connId = connId
  deficit : 0 ≤ flow.fairness.deficitBytes

namespace WorkerFairnessState

structure Ringed (s : WorkerFairnessState) : Prop where
  nodup : s.activeRing.Nodup
  members : ∀ connId, connId ∈ s.activeRingMembers ↔ connId ∈ s.activeRing
  known : ∀ connId ∈ s.activeRing, connId ∈ s.flows
  active : ∀ connId flow, s.flows.lookup connId = some flow →
    flow.fairness.inActiveRing = true ∨ flow.queue ≠ [] → connId ∈ s.activeRing
  fit : ∀ connId flow, s.flows.lookup connId = some flow → flow.Fit s.config connId
  size : Dict.size s.flows ≤ s.config.maxActiveFlows

variable {s t : WorkerFairnessState} {connId : ConnId} {flow entry : FlowEntry} {now : Instant}

theorem Ringed.length_le (ringed : s.Ringed) : s.activeRing.length ≤ s.config.maxActiveFlows := by
  refine le_trans ?_ ringed.size
  have within : s.activeRing ⊆ s.flows.keys := ringed.known
  have fewer := (List.subperm_of_subset ringed.nodup within).length_le
  rwa [AList.keys, List.keys, List.length_map] at fewer

theorem Ringed.place_lt (ringed : s.Ringed) (here : connId ∈ s.activeRing) :
    s.activeRing.idxOf connId < s.config.maxActiveFlows :=
  (List.idxOf_lt_length_of_mem here).trans_le ringed.length_le

theorem Ringed.change (ringed : s.Ringed) (connId : ConnId) (config : t.config = s.config)
    (nodup : t.activeRing.Nodup)
    (members : ∀ other, other ∈ t.activeRingMembers ↔ other ∈ t.activeRing)
    (ring : ∀ other, other ≠ connId → (other ∈ t.activeRing ↔ other ∈ s.activeRing))
    (flows : ∀ other, other ≠ connId → t.flows.lookup other = s.flows.lookup other)
    (known : connId ∈ t.activeRing → connId ∈ t.flows)
    (entry : ∀ flow, t.flows.lookup connId = some flow → flow.Fit s.config connId ∧
      (flow.fairness.inActiveRing = true ∨ flow.queue ≠ [] → connId ∈ t.activeRing))
    (size : Dict.size t.flows ≤ s.config.maxActiveFlows) : t.Ringed where
  nodup := nodup
  members := members
  known := by
    intro other here
    by_cases same : other = connId
    · subst same
      exact known here
    · obtain ⟨flow, found⟩ := Dict.mem_iff_lookup.mp (ringed.known other ((ring other same).mp here))
      exact Dict.mem_iff_lookup.mpr ⟨flow, (flows other same).trans found⟩
  active := by
    intro other flow found turns
    by_cases same : other = connId
    · subst same
      exact (entry flow found).2 turns
    · rw [flows other same] at found
      exact (ring other same).mpr (ringed.active other flow found turns)
  fit := by
    intro other flow found
    rw [config]
    by_cases same : other = connId
    · subst same
      exact (entry flow found).1
    · rw [flows other same] at found
      exact ringed.fit other flow found
  size := config ▸ size

structure Still (s t : WorkerFairnessState) : Prop where
  scales : t.config.scales = s.config.scales
  flows : t.flows = s.flows
  activeRing : t.activeRing = s.activeRing
  activeRingMembers : t.activeRingMembers = s.activeRingMembers

theorem Ringed.still (ringed : s.Ringed) (still : s.Still t) : t.Ringed where
  nodup := still.activeRing ▸ ringed.nodup
  members := by rw [still.activeRing, still.activeRingMembers]; exact ringed.members
  known := by rw [still.activeRing, still.flows]; exact ringed.known
  active := by rw [still.activeRing, still.flows]; exact ringed.active
  fit := by
    rw [still.flows]
    intro connId flow found
    obtain ⟨pending, frames, own, deficit⟩ := ringed.fit connId flow found
    exact ⟨pending, WorkerFairnessConfig.maxDeficit_eq still.scales ▸ frames, own, deficit⟩
  size := by
    rw [still.flows, show t.config.maxActiveFlows = _ from congrArg Prod.fst still.scales]
    exact ringed.size

structure Core where
  config : WorkerFairnessConfig
  pressure : PressureEvaluator
  flows : Dict ConnId FlowEntry
  activeRing : List ConnId
  activeRingMembers : Finset ConnId

def core (s : WorkerFairnessState) : Core :=
  ⟨s.config, s.pressure, s.flows, s.activeRing, s.activeRingMembers⟩

def Core.enqueueActiveConn (c : Core) (connId : ConnId) : Core :=
  if connId ∈ c.activeRingMembers then c
  else
    { c with
      activeRingMembers := insert connId c.activeRingMembers
      activeRing := c.activeRing ++ [connId] }

theorem core_enqueueActiveConn (s : WorkerFairnessState) (connId : ConnId) :
    (s.enqueueActiveConn connId).core = s.core.enqueueActiveConn connId := by
  unfold enqueueActiveConn Core.enqueueActiveConn
  by_cases here : connId ∈ s.activeRingMembers
  · rw [if_pos here]
    exact (if_pos here).symm
  · rw [if_neg here]
    exact (if_neg here).symm

theorem core_serveFlow (s : WorkerFairnessState) (now : Instant) (connId : ConnId)
    (flow : FlowEntry) :
    let turn := flow.turned s.config s.pressure.state now
    let stored := { s.core with flows := s.flows.insert connId turn.1 }
    (s.serveFlow now connId flow).1.core =
        (if turn.1.queue = [] then stored else stored.enqueueActiveConn connId) ∧
      (s.serveFlow now connId flow).2.map DispatchCandidate.frame = turn.2 := by
  obtain ⟨fairness, queue⟩ := flow
  cases queue with
  | nil => exact ⟨rfl, rfl⟩
  | cons front rest =>
    have taken := shelf_takeTurn s.config s.pressure.state now fairness front rest
    unfold serveFlow FlowEntry.turned
    dsimp only at taken ⊢
    generalize takeTurn s.config s.pressure.state now fairness front rest = turn at taken ⊢
    obtain ⟨served, _⟩ := turn
    rcases taken with ⟨kept, shelf⟩ | ⟨sends, shelf⟩
    · have more : served.queue ≠ [] := by
        rw [show served.queue = front :: rest from congrArg Shelf.queue shelf]
        exact List.cons_ne_nil _ _
      subst kept
      refine ⟨?_, rfl⟩
      rw [if_neg more]
      exact core_enqueueActiveConn _ connId
    · have left : served.queue = rest := congrArg Shelf.queue shelf
      subst sends
      refine ⟨?_, rfl⟩
      rw [left]
      dsimp only
      by_cases last : rest = []
      · rw [if_pos last, if_pos last]
        rfl
      · rw [if_neg last, if_neg last]
        exact core_enqueueActiveConn _ connId

structure Turned (s t : WorkerFairnessState) (now : Instant) (connId : ConnId) (ring : List ConnId)
    (flow : FlowEntry) : Prop where
  config : t.config = s.config
  pressure : t.pressure = s.pressure
  flows : t.flows = s.flows.insert connId (flow.turned s.config s.pressure.state now).1
  activeRing : t.activeRing =
    if (flow.turned s.config s.pressure.state now).1.queue = [] then ring else ring ++ [connId]
  members : ∀ other, other ∈ t.activeRingMembers ↔ other ∈ t.activeRing

theorem turned_of_core (ringed : s.Ringed) (front : s.activeRing = connId :: ring)
    (outside : connId ∉ ring)
    (core : let turn := flow.turned s.config s.pressure.state now
      let stored : Core := ⟨s.config, s.pressure, s.flows.insert connId turn.1, ring,
        s.activeRingMembers.erase connId⟩
      t.core = if turn.1.queue = [] then stored else stored.enqueueActiveConn connId) :
    s.Turned t now connId ring flow := by
  have stays (other : ConnId) : other ∈ s.activeRingMembers.erase connId ↔ other ∈ ring := by
    rw [Finset.mem_erase, ringed.members, front, List.mem_cons]
    constructor
    · rintro ⟨different, same | there⟩
      · exact absurd same different
      · exact there
    · intro there
      exact ⟨fun same => outside (same ▸ there), .inr there⟩
  dsimp only at core
  unfold Core.enqueueActiveConn at core
  rw [if_neg (Finset.notMem_erase connId _)] at core
  have read {α : Type} (field : Core → α) := (congrArg field core).trans (apply_ite field _ _ _)
  refine ⟨(read Core.config).trans (ite_self _), (read Core.pressure).trans (ite_self _),
    (read Core.flows).trans (ite_self _), read Core.activeRing, fun other => ?_⟩
  rw [show t.activeRingMembers = _ from read Core.activeRingMembers,
    show t.activeRing = _ from read Core.activeRing]
  split
  · exact stays other
  · rw [Finset.mem_insert, stays, List.mem_append, List.mem_singleton, or_comm]

theorem serveRing_succ (ringed : s.Ringed)
    (front : s.activeRing = connId :: ring) (turns : Nat) (now : Instant) :
    ∃ flow t, s.flows.lookup connId = some flow ∧ s.Turned t now connId ring flow ∧
      (((flow.turned s.config s.pressure.state now).2 = none ∧
          serveRing (turns + 1) s now = serveRing turns t now) ∨
        ∃ candidate, (flow.turned s.config s.pressure.state now).2 = some candidate.frame ∧
          serveRing (turns + 1) s now = (t, .dispatch candidate)) := by
  have here : connId ∈ s.activeRing := by
    rw [front]
    exact List.mem_cons_self
  have outside : connId ∉ ring := by
    have nodup := ringed.nodup
    rw [front] at nodup
    exact (List.nodup_cons.mp nodup).1
  have members := (ringed.members connId).mpr here
  obtain ⟨flow, found⟩ := Dict.mem_iff_lookup.mp (ringed.known connId here)
  let popped := { s with activeRing := ring, activeRingMembers := s.activeRingMembers.erase connId }
  obtain ⟨core, sent⟩ := core_serveFlow popped now connId flow
  rcases served : popped.serveFlow now connId flow with ⟨t, candidate⟩
  rw [served] at core sent
  have unfolded : serveRing (turns + 1) s now =
      candidate.elim (serveRing turns t now) fun candidate => (t, .dispatch candidate) := by
    rw [serveRing, front]
    dsimp only
    rw [if_neg (not_not_intro members), found]
    dsimp only
    rw [served]
    cases candidate with
    | none => rfl
    | some => rfl
  refine ⟨flow, t, found, turned_of_core ringed front outside core, ?_⟩
  cases candidate with
  | none => exact .inl ⟨sent.symm, unfolded⟩
  | some candidate => exact .inr ⟨candidate, sent.symm, unfolded⟩

end WorkerFairnessState

namespace FlowEntry
variable {config : WorkerFairnessConfig} {connId : ConnId} {flow : FlowEntry}

section
variable (fit : flow.Fit config connId) (state : PressureState) (now : Instant)
include fit

theorem Fit.credit_nonneg : 0 ≤ flow.fairness.credit := by
  unfold FlowFairnessState.credit
  split
  · exact Int.le_refl _
  · exact fit.deficit

theorem Fit.budget_nonneg : 0 ≤ turnBudget config state now flow.fairness := by
  have credit := fit.credit_nonneg
  unfold turnBudget
  omega

theorem Fit.turned :
    (flow.turned config state now).1.Fit config connId ∧
      ((flow.turned config state now).1.fairness.inActiveRing = true →
        (flow.turned config state now).1.queue ≠ []) := by
  have budget := fit.budget_nonneg state now
  have positive := fit.credit_nonneg
  obtain ⟨pending, frames, own, _⟩ := fit
  obtain ⟨fairness, queue⟩ := flow
  unfold FlowEntry.turned
  cases queue with
  | nil => exact ⟨⟨rfl, frames, own, Int.le_refl _⟩, nofun⟩
  | cons front =>
    dsimp only at pending frames own positive budget ⊢
    by_cases short : turnBudget config state now fairness < front.queuedBytes
    · rw [takeTurn_skips config state now positive short]
      exact ⟨⟨pending, frames, own, budget⟩, fun _ => List.cons_ne_nil _ _⟩
    · have covered := Int.not_lt.mp short
      rw [takeTurn_sends config state now positive covered]
      refine ⟨⟨?_, ?_, ?_, ?_⟩, of_decide_eq_true⟩
      · dsimp only
        rw [pending, queuedBytes_cons, Nat.add_sub_cancel_left]
      · exact fun frame member => frames frame (List.mem_cons_of_mem front member)
      · exact fun frame member => own frame (List.mem_cons_of_mem front member)
      · dsimp only
        split
        · exact Int.le_refl _
        · exact Int.sub_nonneg_of_le covered

end

variable {state : PressureState} {now : Instant}

theorem turned_keeps (nothing : (flow.turned config state now).2 = none) :
    (flow.turned config state now).1.queue = flow.queue := by
  obtain ⟨fairness, queue⟩ := flow
  unfold turned at nothing ⊢
  cases queue with
  | nil => rfl
  | cons front rest =>
    dsimp only at nothing ⊢
    rcases shelf_takeTurn config state now fairness front rest with ⟨_, shelf⟩ | ⟨sends, _⟩
    · exact congrArg Shelf.queue shelf
    · cases sends.symm.trans nothing

theorem turned_short {front : QueuedFrame} {rest : List QueuedFrame} (fit : flow.Fit config connId)
    (queue : flow.queue = front :: rest) (nothing : (flow.turned config state now).2 = none) :
    turnBudget config state now flow.fairness < front.queuedBytes ∧
      (flow.turned config state now).1.fairness.pendingBytes = flow.fairness.pendingBytes ∧
      (flow.turned config state now).1.fairness.deficitBytes =
        turnBudget config state now flow.fairness := by
  have positive := fit.credit_nonneg
  obtain ⟨fairness, _⟩ := flow
  dsimp only at queue positive
  subst queue
  unfold FlowEntry.turned at nothing ⊢
  dsimp only at nothing ⊢
  by_cases short : turnBudget config state now fairness < front.queuedBytes
  · rw [takeTurn_skips config state now positive short]
    exact ⟨short, rfl, rfl⟩
  · rw [takeTurn_sends config state now positive (Int.not_lt.mp short)] at nothing
    cases nothing

theorem turned_sends {frame : QueuedFrame} (sent : (flow.turned config state now).2 = some frame) :
    ∃ rest, flow.queue = frame :: rest ∧ (flow.turned config state now).1.queue = rest := by
  obtain ⟨fairness, queue⟩ := flow
  unfold turned at sent ⊢
  cases queue with
  | nil => cases sent
  | cons front rest =>
    dsimp only at sent ⊢
    rcases shelf_takeTurn config state now fairness front rest with ⟨kept, _⟩ | ⟨sends, shelf⟩
    · cases kept.symm.trans sent
    · cases sends.symm.trans sent
      exact ⟨rest, rfl, congrArg Shelf.queue shelf⟩

end FlowEntry

def SchedulerDecision.frameFor : SchedulerDecision → ConnId → Option QueuedFrame
  | .idle, _ => none
  | .dispatch candidate, connId =>
    if candidate.frame.connId = connId then some candidate.frame else none

namespace WorkerFairnessState
variable {s t : WorkerFairnessState} {connId : ConnId} {flow : FlowEntry} {now : Instant}
  {ring : List ConnId}

theorem Ringed.turned (ringed : s.Ringed) (front : s.activeRing = connId :: ring)
    (found : s.flows.lookup connId = some flow) (turned : s.Turned t now connId ring flow) :
    t.Ringed := by
  obtain ⟨fit, active⟩ := (ringed.fit connId flow found).turned s.pressure.state now
  have nodup := ringed.nodup
  rw [front] at nodup
  obtain ⟨outside, nodup⟩ := List.nodup_cons.mp nodup
  have known : connId ∈ s.flows := Dict.mem_iff_lookup.mpr ⟨flow, found⟩
  have entry : t.flows.lookup connId = some (flow.turned s.config s.pressure.state now).1 := by
    rw [turned.flows, AList.lookup_insert]
  refine ringed.change connId turned.config ?_ turned.members ?_ ?_ ?_ ?_ ?_
  · rw [turned.activeRing]
    split
    · exact nodup
    · exact nodup.append (List.nodup_singleton _) (by simpa using outside)
  · intro other different
    rw [turned.activeRing, front, List.mem_cons]
    split <;> simp [different]
  · intro other different
    rw [turned.flows, AList.lookup_insert_ne different]
  · intro _
    exact Dict.mem_iff_lookup.mpr ⟨_, entry⟩
  · intro served same
    cases entry.symm.trans same
    refine ⟨fit, fun turns => ?_⟩
    have more : (flow.turned s.config s.pressure.state now).1.queue ≠ [] := turns.elim active id
    rw [turned.activeRing, if_neg more]
    exact List.mem_append_right _ List.mem_cons_self
  · rw [turned.flows, Dict.size_insert_of_mem _ known]
    exact ringed.size

theorem Ringed.serveRing {turns : Nat} (ringed : s.Ringed) (now : Instant) :
    (serveRing turns s now).1.Ringed := by
  induction turns generalizing s with
  | zero => exact ringed
  | succ turns ih =>
    cases front : s.activeRing with
    | nil =>
      rw [WorkerFairnessState.serveRing, front]
      exact ringed
    | cons =>
      obtain ⟨_, t, found, turned, ⟨_, ran⟩ | ⟨_, _, ran⟩⟩ :=
        serveRing_succ ringed front turns now
      · rw [ran]
        exact ih (ringed.turned front found turned)
      · rw [ran]
        exact ringed.turned front found turned

def queueOf (s : WorkerFairnessState) (connId : ConnId) : List QueuedFrame :=
  ((s.flows.lookup connId).map FlowEntry.queue).getD []

theorem queueOf_eq (found : s.flows.lookup connId = some flow) : s.queueOf connId = flow.queue := by
  unfold queueOf
  rw [found]
  rfl

structure Served (s : WorkerFairnessState) (turns : Nat) (now : Instant)
    (result : WorkerFairnessState × SchedulerDecision) (before after done : List ConnId) : Prop where
  ring : result.1.activeRing = after ++ done ++ before.filter fun c => result.1.queueOf c ≠ []
  others : ∀ c, c ∉ before → result.1.flows.lookup c = s.flows.lookup c
  turned : ∀ c ∈ before, ∃ flow, s.flows.lookup c = some flow ∧
    result.1.flows.lookup c = some (flow.turned s.config s.pressure.state now).1 ∧
    (flow.turned s.config s.pressure.state now).2 = SchedulerDecision.frameFor result.2 c
  sender : ∀ candidate, result.2 = .dispatch candidate → candidate.frame.connId ∈ before
  idle : result.2 = .idle → turns ≤ before.length

theorem served_serveRing {ahead done : List ConnId} {turns : Nat} (ringed : s.Ringed)
    (shape : s.activeRing = ahead ++ done) (few : turns ≤ ahead.length) (now : Instant) :
    ∃ before after, ahead = before ++ after ∧
      s.Served turns now (WorkerFairnessState.serveRing turns s now) before after done := by
  induction turns generalizing s ahead done with
  | zero =>
    refine ⟨[], ahead, rfl, ?_, fun _ _ => rfl, ?_, ?_, fun _ => Nat.le_refl _⟩
    · rw [List.filter_nil, List.append_nil]
      exact shape
    · exact nofun
    · exact nofun
  | succ turns ih =>
    obtain _ | ⟨front, ahead⟩ := ahead
    · exact absurd few (Nat.not_succ_le_zero _)
    · have nodup := ringed.nodup
      rw [shape, List.cons_append, List.nodup_cons] at nodup
      obtain ⟨flow, t, found, turned, ran⟩ := serveRing_succ ringed shape turns now
      have ringedNext := ringed.turned shape found turned
      have entry : t.flows.lookup front = some (flow.turned s.config s.pressure.state now).1 := by
        rw [turned.flows, AList.lookup_insert]
      have others (c : ConnId) (different : c ≠ front) : t.flows.lookup c = s.flows.lookup c := by
        rw [turned.flows, AList.lookup_insert_ne different]
      rcases ran with ⟨nothing, ran⟩ | ⟨candidate, sent, ran⟩
      · have left : t.activeRing = ahead ++
            if (flow.turned s.config s.pressure.state now).1.queue = [] then done
            else done ++ [front] := by
          rw [turned.activeRing]
          split
          · rfl
          · exact List.append_assoc _ _ _
        obtain ⟨before, after, split, served⟩ := ih ringedNext left (Nat.le_of_succ_le_succ few)
        have outside : front ∉ before := by
          intro again
          refine nodup.1 (List.mem_append_left _ ?_)
          rw [split]
          exact List.mem_append_left _ again
        have stays := (served.others front outside).trans entry
        rw [ran]
        refine ⟨front :: before, after, by rw [split]; rfl, ?_, ?_, ?_, ?_, ?_⟩
        · rw [served.ring, List.filter_cons, queueOf_eq stays]
          by_cases none : (flow.turned s.config s.pressure.state now).1.queue = []
          · simp [none]
          · simp [none]
        · intro c passed
          have behind := List.not_mem_of_not_mem_cons passed
          exact (served.others c behind).trans (others c (List.ne_of_not_mem_cons passed))
        · intro c member
          rcases List.mem_cons.mp member with rfl | behind
          · refine ⟨flow, found, stays, nothing.trans ?_⟩
            cases decision : (WorkerFairnessState.serveRing turns t now).2 with
            | idle => rfl
            | dispatch candidate =>
              have sender := served.sender candidate decision
              exact (if_neg fun (same : candidate.frame.connId = c) => outside (same ▸ sender)).symm
          · obtain ⟨entered, known, turns⟩ := served.turned c behind
            rw [turned.config, turned.pressure] at turns
            exact ⟨entered, (others c fun same => outside (same ▸ behind)) ▸ known, turns⟩
        · exact fun candidate sent => List.mem_cons_of_mem front (served.sender candidate sent)
        · exact fun idle => Nat.succ_le_succ (served.idle idle)
      · obtain ⟨_, queue, _⟩ := FlowEntry.turned_sends sent
        have own : candidate.frame.connId = front :=
          (ringed.fit front flow found).own candidate.frame (by rw [queue]; exact List.mem_cons_self)
        rw [ran]
        refine ⟨[front], ahead, rfl, ?_, ?_, ?_, ?_, nofun⟩
        · rw [turned.activeRing, List.filter_cons, queueOf_eq entry]
          by_cases none : (flow.turned s.config s.pressure.state now).1.queue = []
          · simp [none]
          · simp [none]
        · exact fun c passed => others c (List.ne_of_not_mem_cons passed)
        · intro c member
          cases List.mem_singleton.mp member
          exact ⟨flow, found, entry, sent.trans (if_pos own).symm⟩
        · rintro _ ⟨⟩
          rw [own]
          exact List.mem_cons_self

theorem serveRing_keeps (ringed : s.Ringed) (turns : Nat) (now : Instant) :
    (WorkerFairnessState.serveRing turns s now).1.config = s.config ∧
      (WorkerFairnessState.serveRing turns s now).1.pressure = s.pressure ∧
      ∀ candidate, (WorkerFairnessState.serveRing turns s now).2 = .dispatch candidate →
        candidate.frame.queuedBytes ≤ s.config.maxDeficit := by
  induction turns generalizing s with
  | zero => exact ⟨rfl, rfl, nofun⟩
  | succ turns ih =>
    cases front : s.activeRing with
    | nil =>
      rw [WorkerFairnessState.serveRing, front]
      exact ⟨rfl, rfl, nofun⟩
    | cons connId =>
      obtain ⟨flow, t, found, turned, ⟨_, ran⟩ | ⟨candidate, sent, ran⟩⟩ :=
        serveRing_succ ringed front turns now
      · obtain ⟨config, pressure, small⟩ := ih (ringed.turned front found turned)
        rw [ran, config, pressure]
        rw [turned.config] at small
        exact ⟨turned.config, turned.pressure, small⟩
      · rw [ran]
        refine ⟨turned.config, turned.pressure, ?_⟩
        rintro _ ⟨⟩
        obtain ⟨_, queue, _⟩ := FlowEntry.turned_sends sent
        refine (ringed.fit connId flow found).frames candidate.frame ?_
        rw [queue]
        exact List.mem_cons_self

def rated (s : WorkerFairnessState) (now : Instant) : WorkerFairnessState :=
  { s with schedulerRounds := saturatingAdd 64 s.schedulerRounds 1 }.evaluatePressure now false

theorem still_rated (s : WorkerFairnessState) (now : Instant) : s.Still (s.rated now) :=
  ⟨rfl, rfl, rfl, rfl⟩

theorem nextDecision_eq (s : WorkerFairnessState) (now : Instant) :
    s.nextDecision now = serveRing s.activeRing.length (s.rated now) now := rfl

end WorkerFairnessState

end Telemt.Fairness
