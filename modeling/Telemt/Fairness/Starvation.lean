import Telemt.Fairness.Exchange

namespace Telemt.Fairness
open Foundation WorkerFairnessState

/-! # How long a flow waits -/

def WorkerFairnessConfig.leastQuantum (config : WorkerFairnessConfig) : Nat :=
  max 1 (min config.baseQuantumBytes (min config.pressuredQuantumBytes config.penalizedQuantumBytes))

structure WorkerFairnessConfig.RepresentableQuanta (config : WorkerFairnessConfig) : Prop where
  baseQuantumBytes : config.baseQuantumBytes < 2 ^ 32
  pressuredQuantumBytes : config.pressuredQuantumBytes < 2 ^ 32
  penalizedQuantumBytes : config.penalizedQuantumBytes < 2 ^ 32

theorem quanta_eq {config other : WorkerFairnessConfig} (same : other.scales = config.scales) :
    other.leastQuantum = config.leastQuantum ∧
      (config.RepresentableQuanta → other.RepresentableQuanta) := by
  have base : other.baseQuantumBytes = config.baseQuantumBytes :=
    congrArg (fun scales => scales.2.2.1) same
  have pressured : other.pressuredQuantumBytes = config.pressuredQuantumBytes :=
    congrArg (fun scales => scales.2.2.2.1) same
  have penalized : other.penalizedQuantumBytes = config.penalizedQuantumBytes :=
    congrArg (fun scales => scales.2.2.2.2) same
  constructor
  · unfold WorkerFairnessConfig.leastQuantum
    rw [base, pressured, penalized]
  · rintro ⟨baseSmall, pressuredSmall, penalizedSmall⟩
    exact ⟨base ▸ baseSmall, pressured ▸ pressuredSmall, penalized ▸ penalizedSmall⟩

theorem leastQuantum_le {config : WorkerFairnessConfig} (representable : config.RepresentableQuanta)
    (state : PressureState) (fairness : FlowFairnessState) :
    config.leastQuantum ≤ effectiveQuantumBytes config state fairness := by
  obtain ⟨base, pressured, penalized⟩ := representable
  have weighed {quantum : Nat} (small : quantum < 2 ^ 32) (least : config.leastQuantum ≤ max quantum 1) :
      config.leastQuantum ≤
        max (saturatingMul 32 (max quantum 1) (max fairness.weightQuanta 1)) 1 := by
    have grows : max quantum 1 ≤ max quantum 1 * max fairness.weightQuanta 1 :=
      Nat.le_mul_of_pos_right _ (Nat.le_max_right _ 1)
    unfold saturatingMul
    omega
  have leastBase : config.leastQuantum ≤ max config.baseQuantumBytes 1 := by
    unfold WorkerFairnessConfig.leastQuantum
    omega
  have leastPressured : config.leastQuantum ≤ max config.pressuredQuantumBytes 1 := by
    unfold WorkerFairnessConfig.leastQuantum
    omega
  have leastPenalized : config.leastQuantum ≤ max config.penalizedQuantumBytes 1 := by
    unfold WorkerFairnessConfig.leastQuantum
    omega
  unfold effectiveQuantumBytes
  split
  · exact leastPenalized
  · exact leastPenalized
  all_goals
    split
    · exact weighed base leastBase
    · exact weighed pressured leastPressured
    · exact weighed pressured leastPressured
    · exact weighed penalized leastPenalized

namespace WorkerFairnessState
variable {s t : WorkerFairnessState} {connId : ConnId} {flow : FlowEntry} {now : Instant}

/-- One round of the ring, seen from one flow: it is passed over and moves up, it has its turn and
sends nothing, or it sends. -/
theorem serveRing_round (ringed : s.Ringed) (here : connId ∈ s.activeRing)
    (found : s.flows.lookup connId = some flow) (queued : flow.queue ≠ []) (now : Instant) :
    let result := serveRing s.activeRing.length s now
    (result.1.flows.lookup connId = some flow ∧
        result.1.activeRing.idxOf connId < s.activeRing.idxOf connId) ∨
      ((flow.turned s.config s.pressure.state now).2 = none ∧ connId ∈ result.1.activeRing ∧
        result.1.flows.lookup connId = some (flow.turned s.config s.pressure.state now).1) ∨
      ∃ candidate, result.2 = .dispatch candidate ∧
        (flow.turned s.config s.pressure.state now).2 = some candidate.frame := by
  obtain ⟨before, after, split, served⟩ :=
    served_serveRing ringed (List.append_nil _).symm (Nat.le_refl _) now
  generalize serveRing s.activeRing.length s now = result at served ⊢
  by_cases member : connId ∈ before
  · obtain ⟨_, found', stored, sent⟩ := served.turned connId member
    cases found.symm.trans found'
    right
    cases turn : (flow.turned s.config s.pressure.state now).2 with
    | none =>
      refine .inl ⟨rfl, ?_, stored⟩
      rw [served.ring]
      refine List.mem_append_right _ (List.mem_filter.mpr ⟨member, ?_⟩)
      rw [queueOf_eq stored, FlowEntry.turned_keeps turn]
      exact decide_eq_true queued
    | some =>
      right
      rw [turn] at sent
      cases decision : result.2 with
      | idle =>
        rw [decision] at sent
        cases sent
      | dispatch candidate =>
        rw [decision] at sent
        obtain ⟨_, ⟨⟩⟩ := Option.ite_none_right_eq_some.mp sent.symm
        exact ⟨candidate, rfl, rfl⟩
  · refine .inl ⟨(served.others connId member).trans found, ?_⟩
    have behind : connId ∈ after := by
      rw [split] at here
      exact (List.mem_append.mp here).resolve_left member
    have some_ : 0 < before.length := by
      cases decision : result.2 with
      | idle => exact (List.length_pos_of_mem here).trans_le (served.idle decision)
      | dispatch candidate => exact List.length_pos_of_mem (served.sender candidate decision)
    rw [served.ring, List.append_nil, List.idxOf_append_of_mem behind, split,
      List.idxOf_append_of_notMem member]
    exact Nat.lt_add_of_pos_left some_

theorem credit_turned {config : WorkerFairnessConfig} {state : PressureState} {front : QueuedFrame}
    {rest : List QueuedFrame} {quantum : Nat} (fit : flow.Fit config connId)
    (queue : flow.queue = front :: rest)
    (least : quantum ≤ turnQuantum config state now flow.fairness)
    (nothing : (flow.turned config state now).2 = none) :
    flow.fairness.credit + quantum ≤ (flow.turned config state now).1.fairness.credit ∧
      (flow.turned config state now).1.fairness.credit < front.queuedBytes := by
  obtain ⟨short, pending, deficit⟩ := FlowEntry.turned_short fit queue nothing
  have bounded : front.queuedBytes ≤ config.maxDeficit :=
    fit.frames front (by rw [queue]; exact List.mem_cons_self)
  have budget := fit.budget_nonneg state now
  have some_ : (flow.turned config state now).1.fairness.pendingBytes ≠ 0 := by
    rw [pending, fit.pending, queue, queuedBytes_cons]
    omega
  unfold FlowFairnessState.credit
  rw [if_neg some_, deficit]
  refine ⟨?_, short⟩
  change flow.fairness.credit + quantum ≤ _
  unfold turnBudget at short ⊢
  omega

theorem credit_grown {config : WorkerFairnessConfig} {entry : FlowEntry}
    {front back : List QueuedFrame} (fit : flow.Fit config connId) (fitNew : entry.Fit config connId)
    (grown : Grown flow entry front back) : flow.fairness.credit ≤ entry.fairness.credit := by
  have more : flow.fairness.pendingBytes ≤ entry.fairness.pendingBytes := by
    rw [fit.pending, fitNew.pending, grown.queue, queuedBytes_append, queuedBytes_append]
    omega
  have positive := fitNew.deficit
  unfold FlowFairnessState.credit
  rcases grown.deficit with same | ⟨empty, _⟩
  · split_ifs <;> omega
  · rw [if_pos empty, if_pos (by omega)]

/-- The next turn of the flow and `turns` more pay for a frame of `size` bytes, and fewer than `budget`
calls come before the last of them. -/
def Due (s : WorkerFairnessState) (connId : ConnId) (quantum size budget : Nat) : Prop :=
  ∃ flow front rest turns, s.flows.lookup connId = some flow ∧ flow.queue = front :: rest ∧
    front.queuedBytes ≤ size ∧ (size : Int) ≤ flow.fairness.credit + (turns + 1 : Nat) * quantum ∧
    turns * s.config.maxActiveFlows + s.activeRing.idxOf connId < budget

variable {quantum size budget : Nat}

theorem mem_ring_of_queue (ringed : s.Ringed) {front : QueuedFrame} {rest : List QueuedFrame}
    (found : s.flows.lookup connId = some flow) (queue : flow.queue = front :: rest) :
    connId ∈ s.activeRing := by
  refine ringed.active connId flow found (.inr ?_)
  rw [queue]
  exact List.cons_ne_nil _ _

theorem Due.passed {returned : List QueuedFrame} (due : s.Due connId quantum size budget)
    (ringed : s.Ringed) (passed : Passed returned s t) (known : connId ∈ t.flows)
    (small : ∀ frame ∈ returned, frame.connId = connId → frame.queuedBytes ≤ size) :
    t.Due connId quantum size budget := by
  obtain ⟨flow, front, rest, turns, found, queue, covers, _, _⟩ := due
  obtain ⟨entry, foundNew⟩ := Dict.mem_iff_lookup.mp known
  obtain ⟨back, more, grown, put⟩ := passed.grown connId flow entry found foundNew
  have fit := ringed.fit connId flow found
  have fitNew := passed.ringed.fit connId entry foundNew
  have credit := credit_grown fit
    ⟨fitNew.pending, WorkerFairnessConfig.maxDeficit_eq passed.scales ▸ fitNew.frames, fitNew.own,
      fitNew.deficit⟩ grown
  have place : t.activeRing.idxOf connId ≤ s.activeRing.idxOf connId := by
    obtain ⟨keep, _, ring, kept⟩ := passed.ring
    have keeps := kept connId known
    have stays : connId ∈ s.activeRing.filter keep :=
      List.mem_filter.mpr ⟨mem_ring_of_queue ringed found queue, keeps⟩
    rw [ring, List.idxOf_append_of_mem stays]
    exact idxOf_filter_le keep keeps
  have flows : t.config.maxActiveFlows = s.config.maxActiveFlows := congrArg Prod.fst passed.scales
  have pays' : (size : Int) ≤ entry.fairness.credit + (turns + 1 : Nat) * quantum := by omega
  have few' : turns * t.config.maxActiveFlows + t.activeRing.idxOf connId < budget := by
    rw [flows]
    omega
  -- The first frame is the old one, or one that has been put back in front of it.
  cases put' : back with
  | nil =>
    have queue' : entry.queue = front :: (rest ++ more) := by
      rw [grown.queue, put', queue]
      rfl
    exact ⟨entry, front, rest ++ more, turns, foundNew, queue', covers, pays', few'⟩
  | cons first others =>
    have queue' : entry.queue = first :: (others ++ flow.queue ++ more) := by
      rw [grown.queue, put']
      rfl
    have own : first.connId = connId := fitNew.own first (by rw [queue']; exact List.mem_cons_self)
    have fits := small first (put first (by rw [put']; exact List.mem_cons_self)) own
    exact ⟨entry, first, _, turns, foundNew, queue', fits, pays', few'⟩

theorem Due.nextDecision (due : s.Due connId quantum size (budget + 1)) (ringed : s.Ringed)
    (least : ∀ state fairness, quantum ≤ effectiveQuantumBytes s.config state fairness)
    (spared : ∀ candidate, (s.nextDecision now).2 = .dispatch candidate →
      candidate.frame.connId ≠ connId) :
    (s.nextDecision now).1.Due connId quantum size budget := by
  obtain ⟨flow, front, rest, turns, found, queue, covers, pays, _⟩ := due
  have here := mem_ring_of_queue ringed found queue
  have queued : flow.queue ≠ [] := by
    rw [queue]
    exact List.cons_ne_nil _ _
  have fit := ringed.fit connId flow found
  have ringedRated := ringed.still (still_rated s now)
  rw [nextDecision_eq] at spared ⊢
  obtain ⟨config, _, _⟩ := serveRing_keeps ringedRated s.activeRing.length now
  have ringedNext : (serveRing s.activeRing.length (s.rated now) now).1.Ringed :=
    ringedRated.serveRing now
  have round := serveRing_round ringedRated here found queued now
  have length : (s.rated now).activeRing.length = s.activeRing.length := rfl
  rw [length] at round
  generalize serveRing s.activeRing.length (s.rated now) now = result at *
  rcases round with ⟨kept, up⟩ | ⟨nothing, there, kept⟩ | ⟨candidate, sent, front'⟩
  · refine ⟨flow, front, rest, turns, kept, queue, covers, pays, ?_⟩
    rw [config]
    change turns * s.config.maxActiveFlows + _ < budget
    change _ < s.activeRing.idxOf connId at up
    omega
  · -- The turn has not paid for the frame, so the deficit has grown by a quantum and more is needed.
    have fitRated : flow.Fit (s.rated now).config connId := fit
    obtain ⟨_, _⟩ := credit_turned fitRated queue (least _ _) nothing
    have queue' := (FlowEntry.turned_keeps nothing).trans queue
    have last := ringedNext.place_lt there
    rw [config] at last
    change _ < s.config.maxActiveFlows at last
    generalize flow.turned (s.rated now).config (s.rated now).pressure.state now = turned at *
    cases turns with
    | zero => omega
    | succ turns =>
      refine ⟨turned.1, front, rest, turns, kept, queue', covers, ?_, ?_⟩
      · have step : ((turns + 1 + 1 : Nat) : Int) * quantum = (turns + 1 : Nat) * quantum + quantum := by
          rw [Nat.cast_succ, Int.add_mul, Int.one_mul]
        omega
      · have round : (turns + 1) * s.config.maxActiveFlows =
            turns * s.config.maxActiveFlows + s.config.maxActiveFlows := Nat.succ_mul _ _
        rw [config]
        change turns * s.config.maxActiveFlows + _ < budget
        omega
  · obtain ⟨_, first, _⟩ := FlowEntry.turned_sends front'
    refine absurd (fit.own candidate.frame ?_) (spared candidate sent)
    rw [first]
    exact List.mem_cons_self

end WorkerFairnessState

namespace Exchange

def Spares (connId : ConnId) (x : Exchange) (call : Call) : Prop :=
  (∀ y, x.step call = some y → connId ∈ y.fairness.flows) ∧
    ∀ candidate, x.handedOut call = some candidate → candidate.frame.connId ≠ connId

instance (connId : ConnId) (x : Exchange) (call : Call) : Decidable (x.Spares connId call) :=
  inferInstanceAs (Decidable ((∀ y ∈ x.step call, _) ∧ ∀ candidate ∈ x.handedOut call, _))

def isNextDecision : Call → Bool
  | .nextDecision _ => true
  | _ => false

def nextDecisions (calls : List Call) : Nat := calls.countP isNextDecision

def Lends (x : Exchange) (connId : ConnId) (size : Nat) : Prop :=
  ∀ candidate ∈ x.outstanding, candidate.frame.connId = connId → candidate.frame.queuedBytes ≤ size

instance (x : Exchange) (connId : ConnId) (size : Nat) : Decidable (x.Lends connId size) :=
  inferInstanceAs (Decidable (∀ candidate ∈ x.outstanding, _ → _))

variable {connId : ConnId} {size : Nat}

theorem due_step {x y : Exchange} {call : Call} {budget : Nat} (countable : x.Countable call)
    (spares : x.Spares connId call) (sound : x.Sound)
    (representable : x.fairness.config.RepresentableQuanta) (lends : x.Lends connId size)
    (due : x.fairness.Due connId x.fairness.config.leastQuantum size budget)
    (stepped : x.step call = some y) :
    y.Lends connId size ∧ ∃ left, left + nextDecisions [call] = budget ∧
      y.fairness.Due connId x.fairness.config.leastQuantum size left := by
  by_cases turn : ∃ now, call = .nextDecision now
  · obtain ⟨now, rfl⟩ := turn
    have spared : ∀ candidate, (x.fairness.nextDecision now).2 = .dispatch candidate →
        candidate.frame.connId ≠ connId := by
      intro candidate sent
      refine spares.2 candidate ?_
      change (x.fairness.nextDecision now).2.candidate? = some candidate
      rw [sent]
      rfl
    cases stepped
    constructor
    · intro candidate member own
      rcases List.mem_append.mp member with old | new
      · exact lends candidate old own
      · exact absurd own (spares.2 candidate (Option.mem_toList.mp new))
    · obtain ⟨left, rfl⟩ : ∃ left, budget = left + 1 := by
        obtain ⟨_, _, _, _, _, _, _, _, _⟩ := due
        exact ⟨budget - 1, by omega⟩
      refine ⟨left, rfl, due.nextDecision sound.ringed ?_ spared⟩
      exact fun state fairness => leastQuantum_le representable state fairness
  · have turnless (now : Instant) : call ≠ .nextDecision now := fun same => turn ⟨now, same⟩
    obtain ⟨_, passed, fewer, lent⟩ := sound.passed countable turnless stepped
    constructor
    · exact fun candidate member own => lends candidate (fewer member) own
    · refine ⟨budget, ?_, due.passed sound.ringed passed (spares.1 y stepped) ?_⟩
      · cases call with
        | nextDecision now => exact absurd rfl (turnless now)
        | enqueueData | applyDispatchFeedback | removeFlow | setBackpressureEnabled => rfl
      · intro frame member own
        obtain ⟨candidate, out, rfl⟩ := lent frame member
        exact lends candidate out own

theorem due_run {x y : Exchange} {calls : List Call} {budget : Nat}
    (countable : Guarded Exchange.step Exchange.Countable x calls)
    (spares : Guarded Exchange.step (Spares connId) x calls) (sound : x.Sound)
    (representable : x.fairness.config.RepresentableQuanta) (lends : x.Lends connId size)
    (due : x.fairness.Due connId x.fairness.config.leastQuantum size budget)
    (run : runFrom Exchange.step x calls = some y) : nextDecisions calls < budget := by
  induction calls generalizing x budget with
  | nil =>
    obtain ⟨_, _, _, _, _, _, _, _, few⟩ := due
    exact Nat.zero_lt_of_lt few
  | cons call calls ih =>
    obtain ⟨next, stepped, rest⟩ := runFrom_cons_eq_some.mp run
    obtain ⟨lendsNext, _, _, dueNext⟩ :=
      due_step countable.1 spares.1 sound representable lends due stepped
    obtain ⟨same, keeps⟩ := quanta_eq (scales_step countable.1 sound stepped)
    rw [← same] at dueNext
    have fewer := ih (countable.2 next stepped) (spares.2 next stepped)
      (sound.step countable.1 stepped) (keeps representable) lendsNext dueNext rest
    have split : nextDecisions (call :: calls) = nextDecisions calls + nextDecisions [call] := by
      unfold nextDecisions
      rw [List.countP_cons, List.countP_singleton]
    omega

theorem due_of_queue {s : WorkerFairnessState} {flow : FlowEntry} {front : QueuedFrame}
    {rest : List QueuedFrame} (ringed : s.Ringed) (found : s.flows.lookup connId = some flow)
    (queue : flow.queue = front :: rest) (covers : front.queuedBytes ≤ size) {quantum : Nat}
    (positive : 0 < quantum) :
    s.Due connId quantum size
      ((max 1 size + quantum - 1) / quantum * s.config.maxActiveFlows) := by
  have place := ringed.place_lt (mem_ring_of_queue ringed found queue)
  have more : 0 < (max 1 size + quantum - 1) / quantum := Nat.div_pos (by omega) positive
  obtain ⟨turns, count⟩ := Nat.exists_eq_succ_of_ne_zero (Nat.ne_of_gt more)
  have pays : size ≤ (turns + 1) * quantum := by
    have above := Nat.lt_div_mul_add (a := max 1 size + quantum - 1) positive
    rw [count, Nat.succ_eq_add_one] at above
    omega
  refine ⟨flow, front, rest, turns, found, queue, covers, ?_, ?_⟩
  · have credit := (ringed.fit connId flow found).credit_nonneg
    rw [← Nat.cast_mul]
    omega
  · rw [count, Nat.succ_mul]
    omega

end Exchange

open Exchange

theorem flow_passed_over_at_most (config : WorkerFairnessConfig)
    (representable : config.RepresentableQuanta) (now : Instant) (calls : List Call) (x : Exchange)
    (countable : Guarded Exchange.step Exchange.Countable (Exchange.start config now) calls)
    (reached : runFrom Exchange.step (Exchange.start config now) calls = some x)
    (connId : ConnId) (flow : FlowEntry) (front : QueuedFrame) (rest : List QueuedFrame)
    (found : x.fairness.flows.lookup connId = some flow) (queue : flow.queue = front :: rest)
    (size : Nat) (covers : front.queuedBytes ≤ size) (lends : x.Lends connId size)
    (later : List Call) (y : Exchange)
    (countableLater : Guarded Exchange.step Exchange.Countable x later)
    (spared : Guarded Exchange.step (Exchange.Spares connId) x later)
    (run : runFrom Exchange.step x later = some y) :
    nextDecisions later ≤
      (max 1 size + config.leastQuantum - 1) / config.leastQuantum * config.maxActiveFlows := by
  obtain ⟨sound, same⟩ := scales_run countable reached
  obtain ⟨least, keeps⟩ := quanta_eq same
  have slots : x.fairness.config.maxActiveFlows = config.maxActiveFlows :=
    congrArg (fun scales => scales.1) same
  have positive : 0 < x.fairness.config.leastQuantum := Nat.lt_of_lt_of_le Nat.one_pos (le_max_left _ _)
  have due := due_of_queue sound.ringed found queue covers positive
  have few := due_run countableLater spared sound (keeps representable) lends due run
  rw [least, slots] at few
  exact Nat.le_of_lt few

def byteTurns : WorkerFairnessConfig :=
  { maxActiveFlows := 1, baseQuantumBytes := 1, pressuredQuantumBytes := 1, penalizedQuantumBytes := 1 }

def fiveBytes : DispatchCandidate where
  frame := { connId := 1, flags := 0, data := [1, 2, 3, 4, 5], enqueuedAt := 0 }
  pressureState := .normal
  flowClass := .healthy

def fiveBytesOut : List Call :=
  [.enqueueData 1 0 [1, 2, 3, 4, 5] 0, .enqueueData 1 0 [6] 0, .nextDecision 0, .nextDecision 0,
    .nextDecision 0, .nextDecision 0, .nextDecision 0]

def fiveBytesBack : List Call :=
  [.applyDispatchFeedback 1 fiveBytes .queueFull 0, .nextDecision 0, .nextDecision 0, .nextDecision 0,
    .nextDecision 0]

def oneByteLeft : Exchange :=
  (runFrom Exchange.step (Exchange.start byteTurns 0) fiveBytesOut).get (by decide +kernel)

theorem five_bytes_wait_five_turns :
    (runFrom Exchange.step oneByteLeft fiveBytesBack).isSome = true ∧
      nextDecisions fiveBytesBack ≤
        (max 1 5 + byteTurns.leastQuantum - 1) / byteTurns.leastQuantum * byteTurns.maxActiveFlows := by
  have out : runFrom Exchange.step (Exchange.start byteTurns 0) fiveBytesOut = some oneByteLeft :=
    (Option.some_get _).symm
  obtain ⟨y, back⟩ := Option.isSome_iff_exists.mp
    (show (runFrom Exchange.step oneByteLeft fiveBytesBack).isSome = true by decide +kernel)
  obtain ⟨flow, found⟩ := Option.isSome_iff_exists.mp
    (show (oneByteLeft.fairness.flows.lookup 1).isSome = true by decide +kernel)
  have queue : ((oneByteLeft.fairness.flows.lookup 1).map fun flow => flow.queue) =
      some [{ connId := 1, flags := 0, data := [6], enqueuedAt := 0 }] := by
    decide +kernel
  rw [found] at queue
  refine ⟨by rw [back]; rfl, ?_⟩
  exact flow_passed_over_at_most byteTurns (by constructor <;> decide) 0 fiveBytesOut oneByteLeft
    (by decide +kernel) out 1 flow _ [] found (Option.some.inj queue) 5 (by decide)
    (by decide +kernel) fiveBytesBack y (by decide +kernel) (by decide +kernel) back

/-- The frame at the front has one byte, but the flow waits for the five bytes before it. -/
theorem returned_frame_delays_flow :
    runFrom Exchange.step (Exchange.start byteTurns 0) fiveBytesOut = some oneByteLeft ∧
      Guarded Exchange.step Exchange.Countable (Exchange.start byteTurns 0)
        (fiveBytesOut ++ fiveBytesBack) ∧
      ((oneByteLeft.fairness.flows.lookup 1).map fun flow => flow.queue.map QueuedFrame.queuedBytes) =
        some [1] ∧
      Guarded Exchange.step (Exchange.Spares 1) oneByteLeft fiveBytesBack ∧
      (runFrom Exchange.step oneByteLeft fiveBytesBack).isSome = true ∧
      (max 1 1 + byteTurns.leastQuantum - 1) / byteTurns.leastQuantum * byteTurns.maxActiveFlows <
        nextDecisions fiveBytesBack := by
  refine ⟨(Option.some_get _).symm, ?_, ?_, ?_, ?_, ?_⟩ <;> decide +kernel

end Telemt.Fairness
