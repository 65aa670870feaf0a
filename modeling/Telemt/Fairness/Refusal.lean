import Telemt.Fairness.Admission

namespace Telemt.Fairness
open Foundation WorkerFairnessState

/-! # What a refused frame leaves behind -/

structure FlowTrace where
  queue : List QueuedFrame
  pendingBytes : Nat
  weightQuanta : Nat

def FlowEntry.trace (flow : FlowEntry) : FlowTrace where
  queue := flow.queue
  pendingBytes := flow.fairness.pendingBytes
  weightQuanta := flow.fairness.weightQuanta

@[ext] structure Traces where
  flows : ConnId → Option FlowTrace
  activeRing : List ConnId
  activeRingMembers : Finset ConnId
  totalQueuedBytes : Nat
  bucketQueuedBytes : List Nat
  bucketActiveFlows : List Nat

namespace WorkerFairnessState

/-- All but the reject counter and the pressure evaluator that a refusal has to leave alone. -/
def traces (s : WorkerFairnessState) : Traces where
  flows := fun connId => (s.flows.lookup connId).map FlowEntry.trace
  activeRing := s.activeRing
  activeRingMembers := s.activeRingMembers
  totalQueuedBytes := s.totalQueuedBytes
  bucketQueuedBytes := s.bucketQueuedBytes
  bucketActiveFlows := s.bucketActiveFlows

variable (s : WorkerFairnessState) (connId : ConnId) (now : Instant)

theorem flows_traces_setFlow (flow : FlowEntry) (other : ConnId) :
    (s.setFlow connId flow).traces.flows other =
      if other = connId then some flow.trace else s.traces.flows other := by
  show ((s.flows.insert connId flow).lookup other).map FlowEntry.trace = _
  rw [Dict.lookup_insert_ite]
  split <;> rfl

def entered (bucketId frameWeight : Nat) : WorkerFairnessState :=
  let (s, flow) := s.openFlow connId bucketId frameWeight
  s.setFlow connId { flow with
    fairness := { flow.fairness with weightQuanta := max flow.fairness.weightQuanta frameWeight } }

def Weighs (connId : ConnId) (frameWeight : Nat) : Prop :=
  ∃ flow, s.flows.lookup connId = some flow ∧ frameWeight ≤ flow.fairness.weightQuanta

theorem traces_entered_iff (bucketId frameWeight : Nat) :
    (s.entered connId bucketId frameWeight).traces = s.traces ↔ s.Weighs connId frameWeight := by
  unfold entered openFlow Weighs
  cases found : s.flows.lookup connId with
  | none =>
    refine iff_of_false ?_ (by simp)
    intro same
    have here := congrFun (congrArg Traces.flows same) connId
    rw [flows_traces_setFlow, if_pos rfl] at here
    simp [traces, found] at here
  | some flow =>
    constructor
    · intro same
      have here := congrFun (congrArg Traces.flows same) connId
      rw [flows_traces_setFlow, if_pos rfl] at here
      have weight := congrArg (Option.map FlowTrace.weightQuanta) here
      simp only [traces, found, Option.map_some, FlowEntry.trace, Option.some.injEq] at weight
      exact ⟨flow, rfl, max_eq_left_iff.mp weight⟩
    · rintro ⟨_, ⟨⟩, light⟩
      refine Traces.ext (funext fun other => ?_) rfl rfl rfl rfl rfl
      rw [flows_traces_setFlow]
      split
      · rename_i here
        simp only [here, traces, found, FlowEntry.trace, max_eq_left light, Option.map_some]
      · rfl

end WorkerFairnessState

def AdmissionDecision.late : AdmissionDecision → Bool
  | .rejectFlowCap | .rejectStandingFlow => true
  | .admitted | .rejectWorkerCap | .rejectBucketCap | .rejectSaturated => false

theorem refused_frame_leaves_no_trace_iff (s : WorkerFairnessState) (connId : ConnId)
    (flags : UInt32) (data : Bytes) (now : Instant)
    (refused : (s.enqueueData connId flags data now).2 ≠ .admitted) :
    (s.enqueueData connId flags data now).1.traces = s.traces ↔
      ((s.enqueueData connId flags data now).2.late = true →
        s.Weighs connId (weightForFlags s.config flags)) := by
  have entering := s.traces_entered_iff connId (s.bucketFor connId) (weightForFlags s.config flags)
  revert refused
  unfold enqueueData
  dsimp only
  split_ifs
  · exact fun _ => iff_of_true rfl nofun
  · exact fun _ => iff_of_true rfl nofun
  · exact fun _ => iff_of_true rfl nofun
  · exact fun _ => iff_of_true rfl nofun
  · exact fun _ => entering.trans ⟨fun weighs _ => weighs, fun weighs => weighs rfl⟩
  · exact fun _ => entering.trans ⟨fun weighs _ => weighs, fun weighs => weighs rfl⟩
  · exact fun refused => absurd rfl refused

def oneByteFlows : WorkerFairnessConfig := { maxFlowQueuedBytes := 1 }

def oneByteQueued : WorkerFairnessState :=
  (WorkerFairnessState.new oneByteFlows 0).run [.enqueueData 7 0 [1] 0]

theorem second_byte_refused_without_trace :
    (oneByteQueued.enqueueData 7 0 [2] 0).2 = .rejectFlowCap ∧
      (oneByteQueued.enqueueData 7 0 [2] 0).1.traces = oneByteQueued.traces := by
  refine ⟨by decide +kernel, ?_⟩
  refine (refused_frame_leaves_no_trace_iff oneByteQueued 7 0 [2] 0 (by decide +kernel)).mpr ?_
  obtain ⟨flow, found⟩ := Option.isSome_iff_exists.mp
    (show (oneByteQueued.flows.lookup 7).isSome = true by decide +kernel)
  have weight : ((oneByteQueued.flows.lookup 7).map fun flow => flow.fairness.weightQuanta) = some 1 := by
    decide +kernel
  rw [found] at weight
  exact fun _ => ⟨flow, found, (Option.some.inj weight).ge⟩

def nothingQueued : WorkerFairnessState := .new oneByteFlows 0

/-- The first frame of a flow is too large: the flow is known afterwards. A heavier frame that is too
large: the flow is heavier afterwards. -/
theorem refused_frame_leaves_flow_and_weight :
    ((nothingQueued.enqueueData 7 0 [1, 2] 0).2 = .rejectFlowCap ∧ 7 ∉ nothingQueued.flows ∧
        7 ∈ (nothingQueued.enqueueData 7 0 [1, 2] 0).1.flows ∧
        nothingQueued.bucketActiveFlows.getD 7 0 = 0 ∧
        (nothingQueued.enqueueData 7 0 [1, 2] 0).1.bucketActiveFlows.getD 7 0 = 1) ∧
      (oneByteQueued.enqueueData 7 rpcFlagQuickack [2] 0).2 = .rejectFlowCap ∧
      (oneByteQueued.traces.flows 7).map (·.weightQuanta) = some 1 ∧
      ((oneByteQueued.enqueueData 7 rpcFlagQuickack [2] 0).1.traces.flows 7).map (·.weightQuanta) =
        some 4 := by
  decide +kernel

end Telemt.Fairness
