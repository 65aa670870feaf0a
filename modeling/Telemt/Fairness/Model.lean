import Telemt.Basic
import Telemt.Foundation.Bytes
import Telemt.Foundation.Dict

namespace Telemt.Fairness
open Foundation

/-!
# `WorkerFairnessState`

The scheduler between the reader of one middle proxy connection and its clients. Counters are natural
numbers that saturate where the source saturates; a bucket index is in range because it is taken
modulo the number of buckets.
-/

def saturatingAdd (bits a b : Nat) : Nat := min (a + b) (2 ^ bits - 1)

def saturatingMul (bits a b : Nat) : Nat := min (a * b) (2 ^ bits - 1)

def saturatingAddInt (a b : Int) : Int := min (max (a + b) (-2 ^ 63)) (2 ^ 63 - 1)

abbrev ConnId := Nat

inductive PressureState
  | normal
  | pressured
  | shedding
  | saturated
  deriving DecidableEq, Repr

def PressureState.asU8 : PressureState → Nat
  | .normal => 0
  | .pressured => 1
  | .shedding => 2
  | .saturated => 3

structure PressureSignals where
  activeFlows : Nat
  totalQueuedBytes : Nat
  standingFlows : Nat
  backpressuredFlows : Nat

structure PressureConfig where
  backpressureEnabled : Bool := true
  evaluateEveryRounds : Nat := 8
  transitionHysteresisRounds : Nat := 3
  standingRatioPressuredPct : Nat := 20
  standingRatioSheddingPct : Nat := 35
  standingRatioSaturatedPct : Nat := 50
  queueRatioPressuredPct : Nat := 65
  queueRatioSheddingPct : Nat := 82
  queueRatioSaturatedPct : Nat := 94
  rejectWindow : Duration := Duration.fromSecs 2
  rejectsPressured : Nat := 32
  rejectsShedding : Nat := 96
  rejectsSaturated : Nat := 256
  stallsPressured : Nat := 32
  stallsShedding : Nat := 96
  stallsSaturated : Nat := 256

structure PressureEvaluator where
  state : PressureState := .normal
  candidateState : PressureState := .normal
  candidateHits : Nat := 0
  roundsSinceEval : Nat := 0
  windowStartedAt : Instant
  admissionRejectsWindow : Nat := 0
  routeStallsWindow : Nat := 0

def gradeSignal (value pressured shedding saturated : Nat) : Nat :=
  if saturated ≤ value then 3
  else if shedding ≤ value then 2
  else if pressured ≤ value then 1
  else 0

namespace PressureEvaluator
variable (p : PressureEvaluator) (now : Instant) (cfg : PressureConfig)

def rotateWindowIfNeeded : PressureEvaluator :=
  if now.durationSince p.windowStartedAt < cfg.rejectWindow then p
  else { p with windowStartedAt := now, admissionRejectsWindow := 0, routeStallsWindow := 0 }

def noteAdmissionReject : PressureEvaluator :=
  let p := p.rotateWindowIfNeeded now cfg
  { p with admissionRejectsWindow := saturatingAdd 32 p.admissionRejectsWindow 1 }

def noteRouteStall : PressureEvaluator :=
  let p := p.rotateWindowIfNeeded now cfg
  { p with routeStallsWindow := saturatingAdd 32 p.routeStallsWindow 1 }

def deriveTargetState (maxTotalQueuedBytes : Nat) (signals : PressureSignals) : PressureState :=
  if !cfg.backpressureEnabled then .normal
  else
    let queueRatioPct :=
      if maxTotalQueuedBytes = 0 then 100
      else min (saturatingMul 64 signals.totalQueuedBytes 100 / maxTotalQueuedBytes) 100
    let standingRatioPct :=
      if signals.activeFlows = 0 then 0
      else min (saturatingMul 64 signals.standingFlows 100 / signals.activeFlows) 100
    let backpressured :=
      if signals.activeFlows / 2 < signals.backpressuredFlows ∧ 0 < signals.activeFlows then 2 else 0
    let score :=
      [gradeSignal queueRatioPct cfg.queueRatioPressuredPct cfg.queueRatioSheddingPct
          cfg.queueRatioSaturatedPct,
        gradeSignal standingRatioPct cfg.standingRatioPressuredPct cfg.standingRatioSheddingPct
          cfg.standingRatioSaturatedPct,
        gradeSignal p.admissionRejectsWindow cfg.rejectsPressured cfg.rejectsShedding
          cfg.rejectsSaturated,
        gradeSignal p.routeStallsWindow cfg.stallsPressured cfg.stallsShedding cfg.stallsSaturated,
        backpressured].foldl max 0
    match score with
    | 0 => .normal
    | 1 => .pressured
    | 2 => .shedding
    | _ => .saturated

def maybeEvaluate (maxTotalQueuedBytes : Nat) (signals : PressureSignals) (force : Bool) :
    PressureEvaluator :=
  let p := p.rotateWindowIfNeeded now cfg
  if !cfg.backpressureEnabled then
    { p with state := .normal, candidateState := .normal, candidateHits := 0, roundsSinceEval := 0 }
  else
    let p := { p with roundsSinceEval := saturatingAdd 32 p.roundsSinceEval 1 }
    if !force ∧ p.roundsSinceEval < max cfg.evaluateEveryRounds 1 then p
    else
      let p := { p with roundsSinceEval := 0 }
      let target := p.deriveTargetState cfg maxTotalQueuedBytes signals
      if target = p.state then { p with candidateState := target, candidateHits := 0 }
      else
        let p :=
          if p.candidateState = target then
            { p with candidateHits := saturatingAdd 8 p.candidateHits 1 }
          else { p with candidateState := target, candidateHits := 1 }
        if max cfg.transitionHysteresisRounds 1 ≤ p.candidateHits then
          { p with state := target, candidateHits := 0 }
        else p

end PressureEvaluator

inductive FlowPressureClass
  | healthy
  | bursty
  | backpressured
  | standing
  deriving DecidableEq, Repr

inductive StandingQueueState
  | transient
  | standing
  deriving DecidableEq, Repr

inductive FlowSchedulerState
  | idle
  | active
  | backpressured
  | penalized
  | sheddingCandidate
  deriving DecidableEq, Repr

structure QueuedFrame where
  connId : ConnId
  flags : UInt32
  data : Bytes
  enqueuedAt : Instant
  deriving DecidableEq, Repr

def QueuedFrame.queuedBytes (frame : QueuedFrame) : Nat := frame.data.length

structure FlowFairnessState where
  pendingBytes : Nat := 0
  deficitBytes : Int := 0
  queueStartedAt : Option Instant := none
  lastDrainAt : Option Instant := none
  recentDrainBytes : Nat := 0
  consecutiveStalls : Nat := 0
  consecutiveSkips : Nat := 0
  penaltyScore : Nat := 0
  pressureClass : FlowPressureClass := .healthy
  standingState : StandingQueueState := .transient
  schedulerState : FlowSchedulerState := .idle
  bucketId : Nat
  weightQuanta : Nat
  inActiveRing : Bool := false

def FlowFairnessState.new (bucketId weightQuanta : Nat) : FlowFairnessState where
  bucketId := bucketId
  weightQuanta := max weightQuanta 1

structure FlowEntry where
  fairness : FlowFairnessState
  queue : List QueuedFrame := []

structure WorkerFairnessConfig where
  backpressureEnabled : Bool := true
  maxActiveFlows : Nat := 4096
  maxTotalQueuedBytes : Nat := 16 * 1024 * 1024
  maxFlowQueuedBytes : Nat := 512 * 1024
  baseQuantumBytes : Nat := 32 * 1024
  pressuredQuantumBytes : Nat := 16 * 1024
  penalizedQuantumBytes : Nat := 8 * 1024
  standingQueueMinAge : Duration := 250 * 1000000
  standingQueueMinBacklogBytes : Nat := 64 * 1024
  standingStallThreshold : Nat := 3
  maxConsecutiveStallsBeforeShed : Nat := 4
  maxConsecutiveStallsBeforeClose : Nat := 16
  softBucketCount : Nat := 64
  softBucketSharePct : Nat := 25
  defaultFlowWeight : Nat := 1
  quickackFlowWeight : Nat := 4
  pressure : PressureConfig := {}

def rpcFlagQuickack : UInt32 := 0x80000000

variable (config : WorkerFairnessConfig)

def weightForFlags (flags : UInt32) : Nat :=
  if flags &&& rpcFlagQuickack ≠ 0 then max config.quickackFlowWeight 1
  else max config.defaultFlowWeight 1

def bucketCap : Nat :=
  max (saturatingMul 64 config.maxTotalQueuedBytes (max config.softBucketSharePct 1) / 100)
    config.maxFlowQueuedBytes

def flowMembership (fairness : FlowFairnessState) : Bool × Bool :=
  (fairness.standingState = .standing,
    match fairness.schedulerState with
    | .backpressured | .penalized | .sheddingCandidate => true
    | .idle | .active => false)

variable (pressureState : PressureState)

def deriveFlowClassification (now : Instant) (fairness : FlowFairnessState) :
    FlowPressureClass × StandingQueueState × FlowSchedulerState × Bool :=
  if fairness.pendingBytes = 0 then (.healthy, .transient, .idle, false)
  else
    let queueAge := (fairness.queueStartedAt.map now.durationSince).getD 0
    let drainStalled :=
      (fairness.lastDrainAt.map fun at_ =>
        decide (config.standingQueueMinAge ≤ now.durationSince at_)).getD true
    if config.standingQueueMinBacklogBytes ≤ fairness.pendingBytes ∧
        config.standingQueueMinAge ≤ queueAge ∧
        (config.standingStallThreshold ≤ fairness.consecutiveStalls ∨ drainStalled) then
      (.standing, .standing,
        if PressureState.asU8 .shedding ≤ pressureState.asU8 then .sheddingCandidate else .penalized,
        true)
    else if 0 < fairness.consecutiveStalls then (.backpressured, .transient, .backpressured, false)
    else if config.standingQueueMinBacklogBytes ≤ fairness.pendingBytes then
      (.bursty, .transient, .active, false)
    else (.healthy, .transient, .active, false)

def classifyFlow (now : Instant) (fairness : FlowFairnessState) : FlowFairnessState :=
  let (pressureClass, standingState, schedulerState, standing) :=
    deriveFlowClassification config pressureState now fairness
  { fairness with
    pressureClass := pressureClass
    standingState := standingState
    schedulerState := schedulerState
    deficitBytes := if schedulerState = .idle then 0 else fairness.deficitBytes
    penaltyScore :=
      if standing then saturatingAdd 16 fairness.penaltyScore 1 else fairness.penaltyScore - 1 }

def clampDeficitBytes (fairness : FlowFairnessState) : FlowFairnessState :=
  let maxDeficit : Int := min config.maxFlowQueuedBytes (2 ^ 63 - 1)
  { fairness with deficitBytes := min (max fairness.deficitBytes 0) maxDeficit }

def effectiveQuantumBytes (fairness : FlowFairnessState) : Nat :=
  match fairness.schedulerState with
  | .penalized | .sheddingCandidate => max config.penalizedQuantumBytes 1
  | .idle | .active | .backpressured =>
    let baseQuantum :=
      match pressureState with
      | .normal => max config.baseQuantumBytes 1
      | .pressured => max config.pressuredQuantumBytes 1
      | .shedding => max config.pressuredQuantumBytes 1
      | .saturated => max config.penalizedQuantumBytes 1
    max (saturatingMul 32 baseQuantum (max fairness.weightQuanta 1)) 1

structure WorkerFairnessState where
  config : WorkerFairnessConfig
  pressure : PressureEvaluator
  flows : Dict ConnId FlowEntry := ∅
  activeRing : List ConnId := []
  activeRingMembers : Finset ConnId := ∅
  totalQueuedBytes : Nat := 0
  bucketQueuedBytes : List Nat
  bucketActiveFlows : List Nat
  standingFlowCount : Nat := 0
  backpressuredFlowCount : Nat := 0
  schedulerRounds : Nat := 0
  deficitGrants : Nat := 0
  deficitSkips : Nat := 0
  enqueueRejects : Nat := 0
  shedDrops : Nat := 0
  fairnessPenalties : Nat := 0
  downstreamStalls : Nat := 0

inductive AdmissionDecision
  | admitted
  | rejectWorkerCap
  | rejectFlowCap
  | rejectBucketCap
  | rejectSaturated
  | rejectStandingFlow
  deriving DecidableEq, Repr

structure DispatchCandidate where
  frame : QueuedFrame
  pressureState : PressureState
  flowClass : FlowPressureClass
  deriving DecidableEq, Repr

inductive SchedulerDecision
  | idle
  | dispatch (candidate : DispatchCandidate)

inductive DispatchFeedback
  | routed
  | queueFull
  | channelClosed
  | noConn
  deriving DecidableEq, Repr

inductive DispatchAction
  | continue
  | closeFlow
  deriving DecidableEq, Repr

namespace WorkerFairnessState

def new (now : Instant) : WorkerFairnessState where
  config := { config with
    pressure := { config.pressure with backpressureEnabled := config.backpressureEnabled } }
  pressure := { windowStartedAt := now }
  bucketQueuedBytes := List.replicate (max config.softBucketCount 1) 0
  bucketActiveFlows := List.replicate (max config.softBucketCount 1) 0

variable (s : WorkerFairnessState) (now : Instant)

def evaluatePressure (force : Bool) : WorkerFairnessState :=
  { s with
    pressure := s.pressure.maybeEvaluate now s.config.pressure s.config.maxTotalQueuedBytes
      { activeFlows := s.flows.size
        totalQueuedBytes := s.totalQueuedBytes
        standingFlows := s.standingFlowCount
        backpressuredFlows := s.backpressuredFlowCount } force }

def setBackpressureEnabled (enabled : Bool) (now : Instant) : WorkerFairnessState :=
  if s.config.backpressureEnabled = enabled then s
  else
    { s with
      config := { s.config with
        backpressureEnabled := enabled
        pressure := { s.config.pressure with backpressureEnabled := enabled } } }.evaluatePressure
      now true

variable (connId : ConnId)

def bucketFor : Nat :=
  connId % max s.bucketQueuedBytes.length 1

def enqueueActiveConn : WorkerFairnessState :=
  if connId ∈ s.activeRingMembers then s
  else
    { s with
      activeRingMembers := insert connId s.activeRingMembers
      activeRing := s.activeRing ++ [connId] }

def countAfter (count : Nat) (before after : Bool) : Nat :=
  if before = after then count else if after then saturatingAdd 64 count 1 else count - 1

def applyFlowMembershipDelta (before after : Bool × Bool) : WorkerFairnessState :=
  { s with
    standingFlowCount := countAfter s.standingFlowCount before.1 after.1
    backpressuredFlowCount := countAfter s.backpressuredFlowCount before.2 after.2 }

def setFlow (flow : FlowEntry) : WorkerFairnessState :=
  { s with flows := s.flows.insert connId flow }

def noteReject : WorkerFairnessState :=
  { s with
    pressure := s.pressure.noteAdmissionReject now s.config.pressure
    enqueueRejects := saturatingAdd 64 s.enqueueRejects 1 }

def rejectWith (decision : AdmissionDecision) : WorkerFairnessState × AdmissionDecision :=
  ((s.noteReject now).evaluatePressure now true, decision)

def addBucketBytes (bucketId bytes : Nat) : WorkerFairnessState :=
  { s with
    totalQueuedBytes := saturatingAdd 64 s.totalQueuedBytes bytes
    bucketQueuedBytes := s.bucketQueuedBytes.modify bucketId fun queued =>
      saturatingAdd 64 queued bytes }

-- The entry of a flow; an unknown one is entered in the table.
def openFlow (bucketId frameWeight : Nat) : WorkerFairnessState × FlowEntry :=
  match s.flows.lookup connId with
  | some flow => (s, flow)
  | none =>
    let flow : FlowEntry := { fairness := FlowFairnessState.new bucketId frameWeight }
    ({ s.setFlow connId flow with
      bucketActiveFlows := s.bucketActiveFlows.modify bucketId (saturatingAdd 64 · 1) }, flow)

def admitFrame (bucketId : Nat) (flow : FlowEntry) (frame : QueuedFrame) (now : Instant) :
    WorkerFairnessState :=
  let queued := { flow.fairness with
    pendingBytes := saturatingAdd 64 flow.fairness.pendingBytes frame.queuedBytes
    queueStartedAt := flow.fairness.queueStartedAt.or (some now)
    inActiveRing := true }
  let fairness := classifyFlow s.config s.pressure.state now queued
  let s := (s.addBucketBytes bucketId frame.queuedBytes).setFlow connId
    { fairness := fairness, queue := flow.queue ++ [frame] }
  let s := if flow.fairness.inActiveRing then s else s.enqueueActiveConn connId
  (s.applyFlowMembershipDelta (flowMembership queued) (flowMembership fairness)).evaluatePressure
    now true

def enqueueData (flags : UInt32) (data : Bytes) (now : Instant) :
    WorkerFairnessState × AdmissionDecision :=
  let frame : QueuedFrame := ⟨connId, flags, data, now⟩
  if s.config.backpressureEnabled ∧ s.pressure.state = .saturated then
    (s.noteReject now, .rejectSaturated)
  else if s.config.maxTotalQueuedBytes < saturatingAdd 64 s.totalQueuedBytes frame.queuedBytes then
    s.rejectWith now .rejectWorkerCap
  else if connId ∉ s.flows ∧ s.config.maxActiveFlows ≤ s.flows.size then
    s.rejectWith now .rejectWorkerCap
  else
    let bucketId := s.bucketFor connId
    let frameWeight := weightForFlags s.config flags
    if bucketCap s.config <
        saturatingAdd 64 (s.bucketQueuedBytes.getD bucketId 0) frame.queuedBytes then
      s.rejectWith now .rejectBucketCap
    else
      let (s, flow) := s.openFlow connId bucketId frameWeight
      let flow := { flow with
        fairness := { flow.fairness with
          weightQuanta := max flow.fairness.weightQuanta frameWeight } }
      let s := s.setFlow connId flow
      if s.config.maxFlowQueuedBytes <
          saturatingAdd 64 flow.fairness.pendingBytes frame.queuedBytes then
        s.rejectWith now .rejectFlowCap
      else if s.config.backpressureEnabled ∧
          PressureState.asU8 .shedding ≤ s.pressure.state.asU8 ∧
          flow.fairness.standingState = .standing then
        s.rejectWith now .rejectStandingFlow
      else (s.admitFrame connId bucketId flow frame now, .admitted)

def subBytes (bucketId bytes : Nat) : WorkerFairnessState :=
  { s with
    totalQueuedBytes := s.totalQueuedBytes - bytes
    bucketQueuedBytes := s.bucketQueuedBytes.modify bucketId (· - bytes) }

def takeTurn (pressureState : PressureState) (now : Instant) (fairness : FlowFairnessState)
    (front : QueuedFrame) (rest : List QueuedFrame) : FlowEntry × Option QueuedFrame :=
  let fairness := classifyFlow config pressureState now { fairness with inActiveRing := false }
  let quantum := effectiveQuantumBytes config pressureState fairness
  let fairness := clampDeficitBytes config
    { fairness with deficitBytes := saturatingAddInt fairness.deficitBytes quantum }
  if fairness.deficitBytes < front.queuedBytes then
    ({ fairness := { fairness with
        consecutiveSkips := saturatingAdd 8 fairness.consecutiveSkips 1
        inActiveRing := true }
       queue := front :: rest }, none)
  else
    let fairness := clampDeficitBytes config { fairness with
      pendingBytes := fairness.pendingBytes - front.queuedBytes
      deficitBytes := saturatingAddInt fairness.deficitBytes (-front.queuedBytes) }
    let fairness := { fairness with
      consecutiveSkips := 0
      queueStartedAt := rest.head?.map QueuedFrame.enqueuedAt }
    let fairness :=
      if rest = [] then
        { fairness with schedulerState := .idle, inActiveRing := false, deficitBytes := 0 }
      else { fairness with inActiveRing := true }
    ({ fairness := fairness, queue := rest }, some front)

def serveFlow (now : Instant) (connId : ConnId) (flow : FlowEntry) :
    WorkerFairnessState × Option DispatchCandidate :=
  let before := flowMembership flow.fairness
  match flow.queue with
  | [] =>
    let fairness := { flow.fairness with
      inActiveRing := false
      schedulerState := .idle
      pendingBytes := 0
      deficitBytes := 0
      queueStartedAt := none }
    ((s.setFlow connId { flow with fairness := fairness }).applyFlowMembershipDelta before
      (flowMembership fairness), none)
  | front :: rest =>
    let (served, sent) := takeTurn s.config s.pressure.state now flow.fairness front rest
    let s := (s.setFlow connId served).applyFlowMembershipDelta before
      (flowMembership served.fairness)
    let s := { s with deficitGrants := saturatingAdd 64 s.deficitGrants 1 }
    match sent with
    | none =>
      ({ s with deficitSkips := saturatingAdd 64 s.deficitSkips 1 }.enqueueActiveConn connId,
        none)
    | some frame =>
      let s := s.subBytes flow.fairness.bucketId frame.queuedBytes
      (if rest = [] then s else s.enqueueActiveConn connId,
        some ⟨frame, s.pressure.state, served.fairness.pressureClass⟩)

def serveRing : Nat → WorkerFairnessState → Instant → WorkerFairnessState × SchedulerDecision
  | 0, s, _ => (s, .idle)
  | turns + 1, s, now =>
    match s.activeRing with
    | [] => (s, .idle)
    | connId :: ring =>
      let popped := { s with activeRing := ring }
      if connId ∉ s.activeRingMembers then serveRing turns popped now
      else
        let popped := { popped with activeRingMembers := s.activeRingMembers.erase connId }
        match s.flows.lookup connId with
        | none => serveRing turns popped now
        | some flow =>
          match popped.serveFlow now connId flow with
          | (s, none) => serveRing turns s now
          | (s, some candidate) => (s, .dispatch candidate)

def nextDecision (now : Instant) : WorkerFairnessState × SchedulerDecision :=
  let s := { s with schedulerRounds := saturatingAdd 64 s.schedulerRounds 1 }.evaluatePressure now
    false
  serveRing s.activeRing.length s now

def removeFlow (connId : ConnId) : WorkerFairnessState :=
  match s.flows.lookup connId with
  | none => s
  | some entry =>
    let membership := flowMembership entry.fairness
    let reclaimed := entry.queue.foldl (fun sum frame => saturatingAdd 64 sum frame.queuedBytes) 0
    { s with
      flows := s.flows.erase connId
      activeRingMembers := s.activeRingMembers.erase connId
      activeRing := s.activeRing.filter (· ≠ connId)
      standingFlowCount := s.standingFlowCount - membership.1.toNat
      backpressuredFlowCount := s.backpressuredFlowCount - membership.2.toNat
      bucketActiveFlows := s.bucketActiveFlows.modify entry.fairness.bucketId (· - 1) }.subBytes
      entry.fairness.bucketId reclaimed

def feedbackRouted (connId : ConnId) (candidate : DispatchCandidate) (now : Instant) :
    WorkerFairnessState :=
  match s.flows.lookup connId with
  | none => s
  | some flow =>
    let fairness := classifyFlow s.config s.pressure.state now { flow.fairness with
      lastDrainAt := some now
      recentDrainBytes :=
        saturatingAdd 64 flow.fairness.recentDrainBytes candidate.frame.queuedBytes
      consecutiveStalls := 0
      schedulerState := if flow.fairness.schedulerState = .idle then .idle else .active }
    (s.setFlow connId { flow with fairness := fairness }).applyFlowMembershipDelta
      (flowMembership flow.fairness) (flowMembership fairness)

def noteStall (now : Instant) : WorkerFairnessState :=
  if s.config.backpressureEnabled then
    { s with
      pressure := s.pressure.noteRouteStall now s.config.pressure
      downstreamStalls := saturatingAdd 64 s.downstreamStalls 1 }
  else s

-- The flow whose client refused a frame, before the frame is shed or put back.
def stalled (fairness : FlowFairnessState) : FlowFairnessState :=
  if config.backpressureEnabled then
    { fairness with
      consecutiveStalls := saturatingAdd 8 fairness.consecutiveStalls 1
      schedulerState := .backpressured
      pressureClass := .backpressured }
  else fairness

def shouldShedFrame (state : PressureState) (fairness : FlowFairnessState) : Bool :=
  config.backpressureEnabled &&
    (state = .saturated ||
      (state = .shedding && fairness.standingState = .standing &&
        decide (config.maxConsecutiveStallsBeforeShed ≤ fairness.consecutiveStalls)))

def shouldCloseFlow (state : PressureState) (fairness : FlowFairnessState) : Bool :=
  config.backpressureEnabled &&
    decide (config.maxConsecutiveStallsBeforeClose ≤ fairness.consecutiveStalls) &&
    state = .saturated

def feedbackQueueFull (connId : ConnId) (candidate : DispatchCandidate) (now : Instant) :
    WorkerFairnessState × DispatchAction :=
  let s := s.noteStall now
  let state := s.pressure.state
  match s.flows.lookup connId with
  | none => (s.evaluatePressure now true, .continue)
  | some flow =>
    let refused := stalled s.config flow.fairness
    let shed := shouldShedFrame s.config state refused
    let returned :=
      if shed then { flow with fairness := refused }
      else
        { fairness := { refused with
            pendingBytes := saturatingAdd 64 refused.pendingBytes candidate.frame.queuedBytes
            queueStartedAt := some candidate.frame.enqueuedAt
            inActiveRing := true }
          queue := candidate.frame :: flow.queue }
    let s :=
      if shed then
        { s with
          shedDrops := saturatingAdd 64 s.shedDrops 1
          fairnessPenalties := saturatingAdd 64 s.fairnessPenalties 1 }
      else s.addBucketBytes flow.fairness.bucketId candidate.frame.queuedBytes
    let fairness := classifyFlow s.config state now returned.fairness
    let s := s.setFlow connId { returned with fairness := fairness }
    let s := if shed ∨ refused.inActiveRing then s else s.enqueueActiveConn connId
    let s := s.applyFlowMembershipDelta (flowMembership flow.fairness) (flowMembership fairness)
    if shouldCloseFlow s.config state fairness then
      ((s.removeFlow connId).evaluatePressure now true, .closeFlow)
    else (s.evaluatePressure now true, .continue)

def applyDispatchFeedback (connId : ConnId) (candidate : DispatchCandidate)
    (feedback : DispatchFeedback) (now : Instant) : WorkerFairnessState × DispatchAction :=
  match feedback with
  | .routed => ((s.feedbackRouted connId candidate now).evaluatePressure now false, .continue)
  | .queueFull => s.feedbackQueueFull connId candidate now
  | .channelClosed | .noConn => ((s.removeFlow connId).evaluatePressure now true, .closeFlow)

end WorkerFairnessState

inductive RouteResult
  | routed
  | noConn
  | channelClosed
  | queueFullBase
  | queueFullHigh
  deriving DecidableEq, Repr

def routeFeedback : RouteResult → DispatchFeedback
  | .routed => .routed
  | .noConn => .noConn
  | .channelClosed => .channelClosed
  | .queueFullBase | .queueFullHigh => .queueFull

def shouldCloseOnRouteResultForData (result : RouteResult) : Bool :=
  result = .noConn || result = .channelClosed

def isDataRouteQueueFull (result : RouteResult) : Bool :=
  result = .queueFullBase || result = .queueFullHigh

def dataRouteQueueFullStarvationThreshold : Nat := 3

def shouldCloseOnQueueFullStreakWithPolicy (streak : Nat) (pressureState : PressureState)
    (backpressureEnabled : Bool) : Bool :=
  backpressureEnabled && decide (PressureState.asU8 .shedding ≤ pressureState.asU8) &&
    decide (dataRouteQueueFullStarvationThreshold ≤ streak)

def fairnessDrainBudgetPerLoop : Nat := 128

structure ReaderState where
  fairness : WorkerFairnessState
  dataRouteQueueFullStreak : Dict ConnId Nat := ∅

namespace ReaderState

-- The registry's `unregister` and the close message to the middle proxy are not part of this state.
def closeFlow (r : ReaderState) (connId : ConnId) : ReaderState where
  fairness := r.fairness.removeFlow connId
  dataRouteQueueFullStreak := r.dataRouteQueueFullStreak.erase connId

def dispatched (r : ReaderState) (backpressureEnabled : Bool) (candidate : DispatchCandidate)
    (result : RouteResult) (now : Instant) : ReaderState :=
  let connId := candidate.frame.connId
  let streaks :=
    if result = .routed then r.dataRouteQueueFullStreak.erase connId else r.dataRouteQueueFullStreak
  let (fairness, action) :=
    r.fairness.applyDispatchFeedback connId candidate (routeFeedback result) now
  let streak := saturatingAdd 8 ((streaks.lookup connId).getD 0) 1
  let r : ReaderState :=
    { fairness := fairness
      dataRouteQueueFullStreak :=
        if isDataRouteQueueFull result then streaks.insert connId streak else streaks }
  if isDataRouteQueueFull result ∧
      shouldCloseOnQueueFullStreakWithPolicy streak candidate.pressureState backpressureEnabled then
    r.closeFlow connId
  else if action = .closeFlow ∨ shouldCloseOnRouteResultForData result then r.closeFlow connId
  else r

-- What the registry answers for each frame that is dispatched, and when.
def drainRounds (backpressureEnabled : Bool) : ReaderState → List (Instant × RouteResult) →
    ReaderState
  | r, [] => r
  | r, (now, result) :: rounds =>
    match r.fairness.nextDecision now with
    | (fairness, .idle) => { r with fairness := fairness }
    | (fairness, .dispatch candidate) =>
      drainRounds backpressureEnabled
        ({ r with fairness := fairness }.dispatched backpressureEnabled candidate result now)
        rounds

def drainFairnessScheduler (backpressureEnabled : Bool) (r : ReaderState)
    (rounds : List (Instant × RouteResult)) : ReaderState :=
  r.drainRounds backpressureEnabled (rounds.take fairnessDrainBudgetPerLoop)

end ReaderState

end Telemt.Fairness
