import Telemt.Fairness.Model
import Telemt.Foundation.Run

namespace Telemt.Fairness
open Foundation

/-! # Which flows the table of a scheduler holds -/

namespace WorkerFairnessState

section Table
variable (s : WorkerFairnessState) (connId : ConnId) (now : Instant)

@[simp] theorem flows_evaluatePressure (force : Bool) :
    (s.evaluatePressure now force).flows = s.flows := rfl

@[simp] theorem flows_setFlow (flow : FlowEntry) :
    (s.setFlow connId flow).flows = s.flows.insert connId flow := rfl

@[simp] theorem flows_applyFlowMembershipDelta (before after : Bool × Bool) :
    (s.applyFlowMembershipDelta before after).flows = s.flows := rfl

@[simp] theorem flows_addBucketBytes (bucketId bytes : Nat) :
    (s.addBucketBytes bucketId bytes).flows = s.flows := rfl

@[simp] theorem flows_enqueueActiveConn : (s.enqueueActiveConn connId).flows = s.flows := by
  unfold enqueueActiveConn
  split <;> rfl

@[simp] theorem flows_noteStall : (s.noteStall now).flows = s.flows := by
  unfold noteStall
  split <;> rfl

@[simp] theorem flows_setBackpressureEnabled (enabled : Bool) :
    (s.setBackpressureEnabled enabled now).flows = s.flows := by
  unfold setBackpressureEnabled
  split <;> rfl

theorem flows_admitFrame (bucketId : Nat) (flow : FlowEntry) (frame : QueuedFrame) :
    ∃ entry, (s.admitFrame connId bucketId flow frame now).flows = s.flows.insert connId entry := by
  unfold admitFrame
  split
  · exact ⟨_, rfl⟩
  · exact ⟨_, flows_enqueueActiveConn _ connId⟩

end Table

section Known
variable {s : WorkerFairnessState} {connId other : ConnId}

variable {flow : FlowEntry}

theorem mem_insert_of_known {entry : FlowEntry} (found : s.flows.lookup connId = some flow) :
    other ∈ s.flows.insert connId entry ↔ other ∈ s.flows := by
  have known : connId ∈ s.flows := Dict.mem_iff_lookup.mpr ⟨flow, found⟩
  rw [AList.mem_insert]
  constructor
  · rintro (rfl | present)
    · exact known
    · exact present
  · exact Or.inr

theorem mem_openFlow (known : other ∈ s.flows) (bucketId frameWeight : Nat) :
    other ∈ (s.openFlow connId bucketId frameWeight).1.flows := by
  unfold openFlow
  split
  · exact known
  · exact (AList.mem_insert _).mpr (.inr known)

theorem mem_enqueueData (known : other ∈ s.flows) (flags : UInt32) (data : Bytes) (now : Instant) :
    other ∈ (s.enqueueData connId flags data now).1.flows := by
  have opened := @mem_openFlow s connId other known (s.bucketFor connId)
    (weightForFlags s.config flags)
  unfold enqueueData
  dsimp only
  split_ifs
  · exact known
  · exact known
  · exact known
  · exact known
  · exact (AList.mem_insert _).mpr (.inr opened)
  · exact (AList.mem_insert _).mpr (.inr opened)
  · obtain ⟨_, flows⟩ := flows_admitFrame _ connId now _ _ _
    rw [flows]
    exact (AList.mem_insert _).mpr (.inr ((AList.mem_insert _).mpr (.inr opened)))

theorem mem_serveFlow (found : s.flows.lookup connId = some flow) (now : Instant) :
    other ∈ (s.serveFlow now connId flow).1.flows ↔ other ∈ s.flows := by
  unfold serveFlow
  dsimp only
  split
  · exact mem_insert_of_known found
  · split
    · rw [flows_enqueueActiveConn]
      exact mem_insert_of_known found
    · split_ifs
      · exact mem_insert_of_known found
      · rw [flows_enqueueActiveConn]
        exact mem_insert_of_known found

theorem mem_of_served {now : Instant} {served : WorkerFairnessState}
    {sent : Option DispatchCandidate} (asked : s.serveFlow now connId flow = (served, sent))
    (found : s.flows.lookup connId = some flow) : other ∈ served.flows ↔ other ∈ s.flows := by
  rw [← mem_serveFlow found now, asked]

theorem mem_serveRing (turns : Nat) (s : WorkerFairnessState) (now : Instant) :
    other ∈ (serveRing turns s now).1.flows ↔ other ∈ s.flows := by
  induction turns generalizing s with
  | zero => rfl
  | succ _ ih =>
    unfold serveRing
    split
    · rfl
    · dsimp only
      split
      · exact ih _
      · split
        · exact ih _
        · rename_i flow found
          split
          · rename_i served asked
            have kept : other ∈ served.flows ↔ _ := mem_of_served asked found
            exact (ih served).trans kept
          · rename_i served candidate asked
            have kept : other ∈ served.flows ↔ _ := mem_of_served asked found
            exact kept

section
variable (s : WorkerFairnessState) (candidate : DispatchCandidate) (now : Instant)

theorem mem_nextDecision : other ∈ (s.nextDecision now).1.flows ↔ other ∈ s.flows :=
  mem_serveRing _ _ now

theorem mem_removeFlow :
    other ∈ (s.removeFlow connId).flows ↔ other ≠ connId ∧ other ∈ s.flows := by
  unfold removeFlow
  split
  · rename_i absent
    constructor
    · intro known
      refine ⟨?_, known⟩
      rintro rfl
      exact AList.lookup_eq_none.mp absent known
    · exact And.right
  · exact AList.mem_erase

theorem mem_feedbackRouted :
    other ∈ (s.feedbackRouted connId candidate now).flows ↔ other ∈ s.flows := by
  unfold feedbackRouted
  split
  · rfl
  · rename_i flow found
    exact mem_insert_of_known found

theorem mem_feedbackQueueFull : other ∈ (s.feedbackQueueFull connId candidate now).1.flows ↔
      ¬ (other = connId ∧ (s.feedbackQueueFull connId candidate now).2 = .closeFlow) ∧
        other ∈ s.flows := by
  unfold feedbackQueueFull
  dsimp only
  split
  · simp
  · rename_i flow found
    rw [flows_noteStall] at found
    split_ifs <;> simp [mem_removeFlow, mem_insert_of_known found]

theorem mem_applyDispatchFeedback (feedback : DispatchFeedback) (now : Instant) :
    other ∈ (s.applyDispatchFeedback connId candidate feedback now).1.flows ↔
      ¬ (other = connId ∧
          (s.applyDispatchFeedback connId candidate feedback now).2 = .closeFlow) ∧
        other ∈ s.flows := by
  cases feedback with
  | routed => simp [applyDispatchFeedback, mem_feedbackRouted]
  | queueFull => exact mem_feedbackQueueFull s candidate now
  | channelClosed | noConn => simp [applyDispatchFeedback, mem_removeFlow]

end

end Known

inductive Call
  | enqueueData (connId : ConnId) (flags : UInt32) (data : Bytes) (now : Instant)
  | nextDecision (now : Instant)
  | applyDispatchFeedback (connId : ConnId) (candidate : DispatchCandidate)
      (feedback : DispatchFeedback) (now : Instant)
  | removeFlow (connId : ConnId)
  | setBackpressureEnabled (enabled : Bool) (now : Instant)

variable (s : WorkerFairnessState)

def perform : Call → WorkerFairnessState
  | .enqueueData connId flags data now => (s.enqueueData connId flags data now).1
  | .nextDecision now => (s.nextDecision now).1
  | .applyDispatchFeedback connId candidate feedback now =>
    (s.applyDispatchFeedback connId candidate feedback now).1
  | .removeFlow connId => s.removeFlow connId
  | .setBackpressureEnabled enabled now => s.setBackpressureEnabled enabled now

def run (calls : List Call) : WorkerFairnessState :=
  calls.foldl perform s

def Closes (connId : ConnId) : Call → Prop
  | .applyDispatchFeedback closed candidate feedback now =>
    connId = closed ∧ (s.applyDispatchFeedback closed candidate feedback now).2 = .closeFlow
  | .removeFlow closed => connId = closed
  | _ => False

theorem leaves_table_iff {s : WorkerFairnessState} {connId : ConnId} (known : connId ∈ s.flows)
    (call : Call) : connId ∉ (s.perform call).flows ↔ s.Closes connId call := by
  cases call with
  | enqueueData other flags data now =>
    exact iff_of_false (not_not_intro (mem_enqueueData known flags data now)) not_false
  | nextDecision now =>
    exact iff_of_false (not_not_intro ((mem_nextDecision s now).mpr known)) not_false
  | applyDispatchFeedback other _ _ now =>
    simp [perform, Closes, mem_applyDispatchFeedback, known]
  | removeFlow => simp [perform, Closes, mem_removeFlow, known]
  | setBackpressureEnabled => simp [perform, Closes, known]

theorem known_until_closed {connId : ConnId} {s : WorkerFairnessState} {calls : List Call}
    (open_ : Guarded (fun s call => some (s.perform call)) (fun s call => ¬ s.Closes connId call)
      s calls)
    (known : connId ∈ s.flows) : connId ∈ (s.run calls).flows := by
  induction calls generalizing s with
  | nil => exact known
  | cons call _ ih =>
    apply ih (open_.2 _ rfl)
    by_contra left
    exact open_.1 ((leaves_table_iff known call).mp left)

end WorkerFairnessState

namespace WorkerFairnessState
variable (s : WorkerFairnessState)

def backloggedFlows : Nat :=
  s.flows.entries.countP fun entry => !entry.2.queue.isEmpty

def drainedFlows : Nat :=
  s.flows.entries.countP fun entry => entry.2.queue.isEmpty

theorem size_flows : Dict.size s.flows = s.backloggedFlows + s.drainedFlows := by
  unfold backloggedFlows drainedFlows Dict.size
  rw [List.length_eq_countP_add_countP fun entry => !entry.2.queue.isEmpty]
  simp only [Bool.not_eq_true', Bool.not_eq_false, Bool.decide_eq_true]

structure HasRoom (s : WorkerFairnessState) (connId : ConnId) (data : Bytes) : Prop where
  total : s.totalQueuedBytes + data.length ≤ s.config.maxTotalQueuedBytes
  bucket : s.bucketQueuedBytes.getD (s.bucketFor connId) 0 + data.length ≤ bucketCap s.config
  flow : data.length ≤ s.config.maxFlowQueuedBytes

theorem saturatingAdd_le (bits a b : Nat) : saturatingAdd bits a b ≤ a + b :=
  Nat.min_le_left _ _

theorem openFlow_unknown {s : WorkerFairnessState} {connId : ConnId} (unknown : connId ∉ s.flows)
    (bucketId frameWeight : Nat) :
    (s.openFlow connId bucketId frameWeight).2 =
        { fairness := FlowFairnessState.new bucketId frameWeight } ∧
      (s.openFlow connId bucketId frameWeight).1.config = s.config := by
  have absent : s.flows.lookup connId = none := AList.lookup_eq_none.mpr unknown
  simp [openFlow, absent, setFlow]

theorem enqueueData_unknown {s : WorkerFairnessState} {connId : ConnId} {data : Bytes}
    (unknown : connId ∉ s.flows) (unsaturated : s.pressure.state ≠ .saturated)
    (room : s.HasRoom connId data) (flags : UInt32) (now : Instant) :
    (s.enqueueData connId flags data now).2 = .admitted ↔
      Dict.size s.flows < s.config.maxActiveFlows := by
  obtain ⟨fresh, sameConfig⟩ := openFlow_unknown unknown (s.bucketFor connId)
    (weightForFlags s.config flags)
  let frame : QueuedFrame := ⟨connId, flags, data, now⟩
  have total : saturatingAdd 64 s.totalQueuedBytes frame.queuedBytes ≤ _ :=
    (saturatingAdd_le _ _ _).trans room.total
  have bucket : saturatingAdd 64 (s.bucketQueuedBytes.getD (s.bucketFor connId) 0)
      frame.queuedBytes ≤ _ :=
    (saturatingAdd_le _ _ _).trans room.bucket
  have flow : saturatingAdd 64 0 frame.queuedBytes ≤ s.config.maxFlowQueuedBytes :=
    (saturatingAdd_le _ _ _).trans ((Nat.zero_add _).trans_le room.flow)
  unfold enqueueData
  dsimp only
  rw [if_neg fun refused => unsaturated refused.2, if_neg (Nat.not_lt.mpr total)]
  by_cases full : s.config.maxActiveFlows ≤ Dict.size s.flows
  · rw [if_pos ⟨unknown, full⟩]
    exact iff_of_false (by simp [rejectWith]) (Nat.not_lt.mpr full)
  · rw [if_neg fun refused => full refused.2, if_neg (Nat.not_lt.mpr bucket)]
    rw [if_neg, if_neg]
    · exact iff_of_true rfl (Nat.not_le.mp full)
    · simp [fresh, FlowFairnessState.new]
    · rw [fresh]
      rw [← sameConfig] at flow
      exact Nat.not_lt.mpr flow

end WorkerFairnessState

open WorkerFairnessState

theorem unknown_flow_admitted_iff (config : WorkerFairnessConfig) (start : Instant)
    (calls : List Call) (connId : ConnId) (flags : UInt32) (data : Bytes) (now : Instant) :
    let s := (WorkerFairnessState.new config start).run calls
    connId ∉ s.flows → s.pressure.state ≠ .saturated → s.HasRoom connId data →
      s.backloggedFlows < s.config.maxActiveFlows →
      ((s.enqueueData connId flags data now).2 = .admitted ↔
        s.backloggedFlows + s.drainedFlows < s.config.maxActiveFlows) := by
  intro s unknown unsaturated room _
  rw [enqueueData_unknown unknown unsaturated room, size_flows]

def twoFlows : WorkerFairnessConfig := { maxActiveFlows := 2 }

theorem second_flow_admitted :
    let s := (WorkerFairnessState.new twoFlows 0).run
      [.enqueueData 1 0 [7] 0, .nextDecision 0]
    (s.enqueueData 2 0 [8] 0).2 = .admitted :=
  (unknown_flow_admitted_iff twoFlows 0 [.enqueueData 1 0 [7] 0, .nextDecision 0] 2 0 [8] 0
    (by decide +kernel) (by decide +kernel)
    ⟨by decide +kernel, by decide +kernel, by decide +kernel⟩ (by decide +kernel)).mpr
    (by decide +kernel)

theorem first_flow_known :
    1 ∈ ((WorkerFairnessState.new twoFlows 0).run [.enqueueData 1 0 [7] 0, .nextDecision 0]).flows :=
  @known_until_closed 1 ((WorkerFairnessState.new twoFlows 0).run [.enqueueData 1 0 [7] 0])
    [.nextDecision 0] ⟨not_false, fun _ _ => trivial⟩ (by decide +kernel)

-- A reader has passed the only frame of connection 1 on to its client.
def afterFirstFlow : WorkerFairnessState :=
  (ReaderState.drainFairnessScheduler true
    { fairness := (WorkerFairnessState.new { maxActiveFlows := 1 } 0).run
        [.enqueueData 1 0 [7] 0] }
    [(0, .routed), (0, .routed)]).fairness

theorem drained_flow_refuses_new :
    2 ∉ afterFirstFlow.flows ∧ afterFirstFlow.pressure.state = .normal ∧
      afterFirstFlow.HasRoom 2 [8] ∧ afterFirstFlow.backloggedFlows = 0 ∧
      afterFirstFlow.config.maxActiveFlows = 1 ∧
      (afterFirstFlow.enqueueData 2 0 [8] 0).2 = .rejectWorkerCap :=
  ⟨by decide +kernel, by decide +kernel,
    ⟨by decide +kernel, by decide +kernel, by decide +kernel⟩, by decide +kernel,
    by decide +kernel, by decide +kernel⟩

end Telemt.Fairness
