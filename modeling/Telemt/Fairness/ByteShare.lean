import Mathlib.Algebra.Order.Group.Abs
import Mathlib.Algebra.Order.Group.Int
import Telemt.Fairness.Exchange

namespace Telemt.Fairness
open Foundation WorkerFairnessState

/-! # The bytes of two flows -/

def weightedQuantum (config : WorkerFairnessConfig) (weight : Nat) : Nat :=
  max (saturatingMul 32 (max config.baseQuantumBytes 1) (max weight 1)) 1

theorem weightedQuantum_eq {config other : WorkerFairnessConfig} (same : other.scales = config.scales)
    (weight : Nat) : weightedQuantum other weight = weightedQuantum config weight := by
  have base : other.baseQuantumBytes = config.baseQuantumBytes :=
    congrArg (fun scales => scales.2.2.1) same
  unfold weightedQuantum
  rw [base]

def FlowSchedulerState.penalizing : FlowSchedulerState → Bool
  | .penalized | .sheddingCandidate => true
  | .idle | .active | .backpressured => false

theorem effectiveQuantumBytes_normal (config : WorkerFairnessConfig) {fairness : FlowFairnessState}
    (ordinary : fairness.schedulerState.penalizing = false) :
    effectiveQuantumBytes config .normal fairness = weightedQuantum config fairness.weightQuanta := by
  unfold effectiveQuantumBytes
  cases state : fairness.schedulerState with
  | idle | active | backpressured => rfl
  | penalized | sheddingCandidate => rw [state] at ordinary; cases ordinary

def bytesOf (frame : Option QueuedFrame) : Nat := (frame.map QueuedFrame.queuedBytes).getD 0

theorem FlowEntry.turned_balance {config : WorkerFairnessConfig} {connId : ConnId} {flow : FlowEntry}
    {now : Instant} (fit : flow.Fit config connId) (payload : queuedBytes flow.queue ≠ 0)
    (room : flow.fairness.deficitBytes + weightedQuantum config flow.fairness.weightQuanta ≤
      config.maxDeficit)
    (more : (flow.turned config .normal now).1.queue ≠ [])
    (ordinary : (flow.turned config .normal now).1.fairness.schedulerState.penalizing = false) :
    bytesOf (flow.turned config .normal now).2 +
        (flow.turned config .normal now).1.fairness.deficitBytes =
      flow.fairness.deficitBytes + weightedQuantum config flow.fairness.weightQuanta := by
  have positive := fit.credit_nonneg
  have pending := fit.pending
  obtain ⟨fairness, queue⟩ := flow
  cases queue with
  | nil => exact absurd rfl payload
  | cons front =>
    have credit : fairness.credit = fairness.deficitBytes := if_neg (pending.symm ▸ payload)
    have budget (ordinary : (classifyFlow config .normal now
        { fairness with inActiveRing := false }).schedulerState.penalizing = false) :
        turnBudget config .normal now fairness =
          fairness.deficitBytes + weightedQuantum config fairness.weightQuanta := by
      have quantum : turnQuantum config .normal now fairness =
          weightedQuantum config fairness.weightQuanta := effectiveQuantumBytes_normal config ordinary
      unfold turnBudget
      rw [credit, quantum]
      exact min_eq_left room
    unfold FlowEntry.turned at more ordinary ⊢
    dsimp only at more ordinary ⊢
    by_cases short : turnBudget config .normal now fairness < front.queuedBytes
    · rw [takeTurn_skips config .normal now positive short] at ordinary ⊢
      exact (Int.zero_add _).trans (budget ordinary)
    · have covered := Int.not_lt.mp short
      rw [takeTurn_sends config .normal now positive covered] at more ordinary ⊢
      dsimp only at more ordinary ⊢
      rw [if_neg more] at ordinary ⊢
      rw [budget ordinary]
      exact add_sub_cancel (front.queuedBytes : Int) _

theorem idxOf_filter_lt_iff {keep : ConnId → Bool} {a b : ConnId} (keepA : keep a = true)
    (keepB : keep b = true) (ring : List ConnId) :
    (ring.filter keep).idxOf a < (ring.filter keep).idxOf b ↔ ring.idxOf a < ring.idxOf b := by
  induction ring with
  | nil => rfl
  | cons front _ ih =>
    cases kept : keep front with
    | true =>
      rw [List.filter_cons_of_pos kept, List.idxOf_cons, List.idxOf_cons, List.idxOf_cons,
        List.idxOf_cons]
      cases front == a <;> cases front == b <;> simp [ih]
    | false =>
      have notA : front ≠ a := by
        rintro rfl
        exact absurd (keepA.symm.trans kept) Bool.true_eq_false.mp
      have notB : front ≠ b := by
        rintro rfl
        exact absurd (keepB.symm.trans kept) Bool.true_eq_false.mp
      rw [List.filter_cons_of_neg (by rw [kept]; exact Bool.false_ne_true),
        List.idxOf_cons_ne _ notA, List.idxOf_cons_ne _ notB]
      exact ih.trans Nat.succ_lt_succ_iff.symm

section Rotation
variable {before after : List ConnId} {keep : ConnId → Bool}

theorem idxOf_split {own other : List ConnId} {c : ConnId} (here : c ∈ own) (outside : c ∉ other)
    (rest last : List ConnId) :
    (own ++ rest).idxOf c < own.length ∧ (own ++ rest).idxOf c = own.idxOf c ∧
      (other ++ last).idxOf c = other.length + last.idxOf c := by
  rw [List.idxOf_append_of_mem here, List.idxOf_append_of_notMem outside, Nat.add_comm]
  exact ⟨List.idxOf_lt_length_of_mem here, rfl, rfl⟩

theorem lead_rotated (nodup : (before ++ after).Nodup) {a b : ConnId} (inA : a ∈ before ++ after)
    (inB : b ∈ before ++ after) (keepA : keep a = true) (keepB : keep b = true) (quantum : Int) :
    (if (after ++ before.filter keep).idxOf a < (after ++ before.filter keep).idxOf b then quantum
        else 0) + (if a ∈ before then quantum else 0) =
      (if (before ++ after).idxOf a < (before ++ after).idxOf b then quantum else 0) +
        (if b ∈ before then quantum else 0) := by
  have order := idxOf_filter_lt_iff keepA keepB before
  have apart (c : ConnId) (front : c ∈ before) (back : c ∈ after) : False :=
    (List.nodup_append.mp nodup).2.2 c front c back rfl
  have ofFront (c : ConnId) (front : c ∈ before) := idxOf_split front (apart c front) after
    (before.filter keep)
  have ofBack (c : ConnId) (back : c ∈ after) := idxOf_split back (fun front => apart c front back)
    (before.filter keep) after
  rcases List.mem_append.mp inA with frontA | backA
  · obtain ⟨placeA, oldA, newA⟩ := ofFront a frontA
    rcases List.mem_append.mp inB with frontB | backB
    · obtain ⟨placeB, oldB, newB⟩ := ofFront b frontB
      rw [if_pos frontA, if_pos frontB, oldA, oldB, newA, newB]
      simp only [Nat.add_lt_add_iff_left, order]
    · obtain ⟨placeB, oldB, newB⟩ := ofBack b backB
      rw [if_pos frontA, if_neg (apart b · backB), if_neg (by omega), if_pos (by omega)]
      exact Int.add_comm _ _
  · obtain ⟨_, oldA, newA⟩ := ofBack a backA
    rcases List.mem_append.mp inB with frontB | backB
    · obtain ⟨placeB, oldB, newB⟩ := ofFront b frontB
      rw [if_neg (apart a · backA), if_pos frontB, if_pos (by omega), if_neg (by omega)]
      exact Int.add_comm _ _
    · obtain ⟨_, oldB, newB⟩ := ofBack b backB
      rw [if_neg (apart a · backA), if_neg (apart b · backB), oldA, oldB, newA, newB]
      simp only [Nat.add_lt_add_iff_left]

end Rotation

namespace WorkerFairnessState
variable {s t : WorkerFairnessState} {a b connId : ConnId} {flow : FlowEntry} {now : Instant}

def deficitOf (s : WorkerFairnessState) (connId : ConnId) : Int :=
  ((s.flows.lookup connId).map fun flow => flow.fairness.deficitBytes).getD 0

theorem deficitOf_eq (found : s.flows.lookup connId = some flow) :
    s.deficitOf connId = flow.fairness.deficitBytes := by
  unfold deficitOf
  rw [found]
  rfl

/-- What `a` is ahead of `b`: unspent deficit, and the quantum of the turn that it has before `b`. -/
def balance (s : WorkerFairnessState) (a b : ConnId) (quantum : Nat) : Int :=
  s.deficitOf a - s.deficitOf b +
    if s.activeRing.idxOf a < s.activeRing.idxOf b then (quantum : Int) else 0

end WorkerFairnessState

@[mk_iff]
structure FlowEntry.Backlogged (flow : FlowEntry) (weight largest : Nat) : Prop where
  queue : flow.queue ≠ []
  frames : ∀ frame ∈ flow.queue, frame.queuedBytes ≤ largest
  weight : flow.fairness.weightQuanta = weight
  ordinary : flow.fairness.schedulerState.penalizing = false

instance (flow : FlowEntry) (weight largest : Nat) : Decidable (flow.Backlogged weight largest) :=
  decidable_of_iff' _ (flow.backlogged_iff weight largest)

namespace WorkerFairnessState

@[mk_iff]
structure Contended (s : WorkerFairnessState) (a b : ConnId) (weight largest : Nat) : Prop where
  normal : s.pressure.state = .normal
  backlogged : ∀ c ∈ [a, b], ∃ flow ∈ s.flows.lookup c, flow.Backlogged weight largest

instance (s : WorkerFairnessState) (a b : ConnId) (weight largest : Nat) :
    Decidable (s.Contended a b weight largest) :=
  decidable_of_iff' _ (s.contended_iff a b weight largest)

@[mk_iff]
structure Even (s : WorkerFairnessState) (a b : ConnId) (weight largest : Nat) : Prop where
  payload : ∀ c ∈ [a, b], queuedBytes (s.queueOf c) ≠ 0
  room : ∀ c ∈ [a, b], s.deficitOf c + weightedQuantum s.config weight ≤ s.config.maxDeficit
  even : |s.balance a b (weightedQuantum s.config weight)| ≤ weightedQuantum s.config weight + largest

instance (s : WorkerFairnessState) (a b : ConnId) (weight largest : Nat) :
    Decidable (s.Even a b weight largest) :=
  decidable_of_iff' _ (s.even_iff a b weight largest)

variable {s t : WorkerFairnessState} {a b connId : ConnId} {flow : FlowEntry} {now : Instant}
  {weight largest : Nat}

theorem Contended.mem_ring (contended : s.Contended a b weight largest) (ringed : s.Ringed)
    (member : connId ∈ [a, b]) : connId ∈ s.activeRing := by
  obtain ⟨flow, found, backlogged⟩ := contended.backlogged connId member
  exact ringed.active connId flow found (.inr backlogged.queue)

theorem Contended.queue_ne (contended : s.Contended a b weight largest) (member : connId ∈ [a, b]) :
    s.queueOf connId ≠ [] := by
  obtain ⟨_, found, backlogged⟩ := contended.backlogged connId member
  rw [queueOf_eq found]
  exact backlogged.queue

section
variable {turns : Nat} {result : WorkerFairnessState × SchedulerDecision}
  {before after : List ConnId} (served : s.Served turns now result before after [])
  (ringed : s.Ringed) (normal : s.pressure.state = .normal)
  (contended : s.Contended a b weight largest) (even : s.Even a b weight largest)
  (contendedNext : result.1.Contended a b weight largest) (member : connId ∈ [a, b])
include served ringed normal contended even contendedNext member

theorem Served.balance :
    (bytesOf (result.2.frameFor connId) : Int) + result.1.deficitOf connId =
      s.deficitOf connId + if connId ∈ before then (weightedQuantum s.config weight : Int) else 0 := by
  obtain ⟨flow, found, backlogged⟩ := contended.backlogged connId member
  obtain ⟨_, stored, backloggedNext⟩ := contendedNext.backlogged connId member
  have payload := even.payload connId member
  have room := even.room connId member
  rw [queueOf_eq found] at payload
  rw [deficitOf_eq found] at room ⊢
  rw [deficitOf_eq stored]
  by_cases turn : connId ∈ before
  · obtain ⟨_, found', stored', sent⟩ := served.turned connId turn
    cases found.symm.trans found'
    cases stored.symm.trans stored'
    rw [normal] at sent backloggedNext
    rw [if_pos turn, ← sent, normal]
    have turned := FlowEntry.turned_balance (ringed.fit connId flow found) payload
      (backlogged.weight ▸ room) backloggedNext.queue backloggedNext.ordinary
    rw [backlogged.weight] at turned
    exact turned
  · have kept := (served.others connId turn).trans found
    cases stored.symm.trans kept
    have nothing : result.2.frameFor connId = none := by
      cases decision : result.2 with
      | idle => rfl
      | dispatch candidate =>
        have sender := served.sender candidate decision
        exact if_neg fun (same : candidate.frame.connId = connId) => turn (same ▸ sender)
    rw [if_neg turn, nothing]
    exact (Int.zero_add _).trans (Int.add_zero _).symm

theorem Served.deficit_le
    (large : ∀ frame ∈ s.queueOf connId, weightedQuantum s.config weight ≤ frame.queuedBytes)
    (saved : s.deficitOf connId ≤ largest) : result.1.deficitOf connId ≤ largest := by
  have balance := served.balance ringed normal contended even contendedNext member
  obtain ⟨flow, found, backlogged⟩ := contended.backlogged connId member
  by_cases turn : connId ∈ before
  · obtain ⟨_, found', stored, sent⟩ := served.turned connId turn
    cases found.symm.trans found'
    rw [queueOf_eq found] at large
    rw [← sent] at balance
    cases frame : (flow.turned s.config s.pressure.state now).2 with
    | none =>
      obtain ⟨front, rest, queue⟩ := List.exists_cons_of_ne_nil backlogged.queue
      obtain ⟨_, _, deficit⟩ :=
        FlowEntry.turned_short (ringed.fit connId flow found) queue frame
      have small := backlogged.frames front (by rw [queue]; exact List.mem_cons_self)
      rw [deficitOf_eq stored, deficit]
      omega
    | some frame' =>
      obtain ⟨_, queue, _⟩ := FlowEntry.turned_sends frame
      have whole := large frame' (by rw [queue]; exact List.mem_cons_self)
      rw [frame] at balance
      change (frame'.queuedBytes : Int) + _ = _ at balance
      omega
  · rw [if_neg turn] at balance
    omega

end

structure Large (s : WorkerFairnessState) (a b : ConnId) (weight largest : Nat) : Prop where
  frames : ∀ c ∈ [a, b], ∀ frame ∈ s.queueOf c, weightedQuantum s.config weight ≤ frame.queuedBytes
  saved : ∀ c ∈ [a, b], s.deficitOf c ≤ largest
  room : largest + weightedQuantum s.config weight ≤ s.config.maxDeficit

theorem payload_of_large (contended : s.Contended a b weight largest)
    (large : ∀ frame ∈ s.queueOf connId, weightedQuantum s.config weight ≤ frame.queuedBytes)
    (member : connId ∈ [a, b]) : queuedBytes (s.queueOf connId) ≠ 0 := by
  obtain ⟨front, _, queue⟩ := List.exists_cons_of_ne_nil (contended.queue_ne member)
  have whole := large front (by rw [queue]; exact List.mem_cons_self)
  have positive : 0 < weightedQuantum s.config weight :=
    Nat.lt_of_lt_of_le Nat.one_pos (le_max_right _ _)
  rw [queue, queuedBytes_cons]
  omega

theorem Large.even (large : s.Large a b weight largest) (ringed : s.Ringed)
    (contended : s.Contended a b weight largest) : s.Even a b weight largest where
  payload := fun c member => payload_of_large contended (large.frames c member) member
  room := by
    intro c member
    have saved := large.saved c member
    have room := large.room
    omega
  even := by
    have deficit (c : ConnId) (member : c ∈ [a, b]) : 0 ≤ s.deficitOf c := by
      obtain ⟨flow, found, _⟩ := contended.backlogged c member
      rw [deficitOf_eq found]
      exact (ringed.fit c flow found).deficit
    have positiveA := deficit a List.mem_cons_self
    have positiveB := deficit b (List.mem_cons_of_mem a List.mem_cons_self)
    have savedA := large.saved a List.mem_cons_self
    have savedB := large.saved b (List.mem_cons_of_mem a List.mem_cons_self)
    unfold balance
    rw [abs_le]
    split <;> omega

theorem served_nextDecision (ringed : s.Ringed)
    (contendedNext : (s.nextDecision now).1.Contended a b weight largest) :
    (s.rated now).pressure.state = .normal ∧ ∃ before after, s.activeRing = before ++ after ∧
      (s.rated now).Served s.activeRing.length now (s.nextDecision now) before after [] := by
  have ringedRated := ringed.still (still_rated s now)
  obtain ⟨_, pressure, _⟩ := serveRing_keeps ringedRated s.activeRing.length now
  rw [← pressure]
  refine ⟨contendedNext.normal, ?_⟩
  exact @served_serveRing (s.rated now) s.activeRing [] s.activeRing.length ringedRated
    (List.append_nil _).symm (Nat.le_refl _) now

theorem balance_nextDecision (ringed : s.Ringed) (contended : s.Contended a b weight largest)
    (even : s.Even a b weight largest)
    (contendedNext : (s.nextDecision now).1.Contended a b weight largest) :
    (bytesOf ((s.nextDecision now).2.frameFor a) : Int) - bytesOf ((s.nextDecision now).2.frameFor b) +
        (s.nextDecision now).1.balance a b (weightedQuantum s.config weight) =
      s.balance a b (weightedQuantum s.config weight) := by
  have ringedRated := ringed.still (still_rated s now)
  have inA : a ∈ [a, b] := List.mem_cons_self
  have inB : b ∈ [a, b] := List.mem_cons_of_mem a List.mem_cons_self
  have hereA := contended.mem_ring ringed inA
  have hereB := contended.mem_ring ringed inB
  obtain ⟨normal, before, after, split, served⟩ := served_nextDecision ringed contendedNext
  generalize s.nextDecision now = result at *
  have rated : (s.rated now).Contended a b weight largest := ⟨normal, contended.backlogged⟩
  have evenRated : (s.rated now).Even a b weight largest := ⟨even.payload, even.room, even.even⟩
  have movedA := served.balance ringedRated normal rated evenRated contendedNext inA
  have movedB := served.balance ringedRated normal rated evenRated contendedNext inB
  change _ = s.deficitOf a + _ at movedA
  change _ = s.deficitOf b + _ at movedB
  have nodup := ringed.nodup
  have ring := served.ring
  rw [List.append_nil] at ring
  rw [split] at nodup hereA hereB
  have lead := @lead_rotated before after (fun c => result.1.queueOf c ≠ []) nodup a b hereA hereB
    (decide_eq_true (contendedNext.queue_ne inA)) (decide_eq_true (contendedNext.queue_ne inB))
    (weightedQuantum s.config weight)
  rw [← ring, ← split] at lead
  unfold balance
  change (_ = _ + if a ∈ before then (weightedQuantum s.config weight : Int) else 0) at movedA
  change (_ = _ + if b ∈ before then (weightedQuantum s.config weight : Int) else 0) at movedB
  omega

theorem saved_nextDecision (ringed : s.Ringed) (contended : s.Contended a b weight largest)
    (large : s.Large a b weight largest)
    (contendedNext : (s.nextDecision now).1.Contended a b weight largest) (member : connId ∈ [a, b]) :
    (s.nextDecision now).1.deficitOf connId ≤ largest := by
  have ringedRated := ringed.still (still_rated s now)
  have even := large.even ringed contended
  obtain ⟨normal, _, _, _, served⟩ := served_nextDecision ringed contendedNext
  have rated : (s.rated now).Contended a b weight largest := ⟨normal, contended.backlogged⟩
  have evenRated : (s.rated now).Even a b weight largest := ⟨even.payload, even.room, even.even⟩
  exact served.deficit_le ringedRated normal rated evenRated contendedNext member
    (large.frames connId member) (large.saved connId member)

theorem deficit_passed {returned : List QueuedFrame} (contended : s.Contended a b weight largest)
    (passed : Passed returned s t) (contendedNext : t.Contended a b weight largest)
    (payload : queuedBytes (t.queueOf connId) ≠ 0) (member : connId ∈ [a, b]) :
    t.deficitOf connId = s.deficitOf connId := by
  obtain ⟨flow, found, _⟩ := contended.backlogged connId member
  obtain ⟨entry, stored, _⟩ := contendedNext.backlogged connId member
  obtain ⟨_, _, grown, _⟩ := passed.grown connId flow entry found stored
  rw [deficitOf_eq found, deficitOf_eq stored]
  rcases grown.deficit with same | ⟨empty, _⟩
  · exact same
  · rw [queueOf_eq stored, ← (passed.ringed.fit connId entry stored).pending] at payload
    exact absurd empty payload

theorem balance_passed {returned : List QueuedFrame} (ringed : s.Ringed)
    (contended : s.Contended a b weight largest) (passed : Passed returned s t)
    (contendedNext : t.Contended a b weight largest) (evenNext : t.Even a b weight largest)
    (quantum : Nat) : t.balance a b quantum = s.balance a b quantum := by
  have inA : a ∈ [a, b] := List.mem_cons_self
  have inB : b ∈ [a, b] := List.mem_cons_of_mem a List.mem_cons_self
  have deficit (c : ConnId) (member : c ∈ [a, b]) : t.deficitOf c = s.deficitOf c :=
    deficit_passed contended passed contendedNext (evenNext.payload c member) member
  obtain ⟨keep, _, ring, kept⟩ := passed.ring
  have keeps (c : ConnId) (member : c ∈ [a, b]) : keep c = true := by
    obtain ⟨entry, stored, _⟩ := contendedNext.backlogged c member
    exact kept c (Dict.mem_iff_lookup.mpr ⟨entry, stored⟩)
  have place (c : ConnId) (member : c ∈ [a, b]) :
      t.activeRing.idxOf c = (s.activeRing.filter keep).idxOf c := by
    rw [ring]
    refine List.idxOf_append_of_mem (List.mem_filter.mpr ⟨?_, keeps c member⟩)
    exact contended.mem_ring ringed member
  unfold balance
  rw [deficit a inA, deficit b inB, place a inA, place b inB]
  simp only [idxOf_filter_lt_iff (keeps a inA) (keeps b inB)]

end WorkerFairnessState

namespace Exchange
variable {a b : ConnId} {weight largest : Nat}

def sentFor (connId : ConnId) (x : Exchange) : Call → Nat
  | .nextDecision now => bytesOf ((x.fairness.nextDecision now).2.frameFor connId)
  | _ => 0

def bytesSent (connId : ConnId) : Exchange → List Call → Nat
  | _, [] => 0
  | x, call :: calls =>
    x.sentFor connId call + ((x.step call).map fun y => bytesSent connId y calls).getD 0

def Routed : Call → Prop
  | .applyDispatchFeedback _ _ feedback _ => feedback = .routed
  | _ => True

def Contends (a b : ConnId) (weight largest : Nat) (x : Exchange) (call : Call) : Prop :=
  Routed call ∧ ∀ y ∈ x.step call, y.fairness.Contended a b weight largest

def StaysEven (a b : ConnId) (weight largest : Nat) (x : Exchange) (call : Call) : Prop :=
  ∀ y ∈ x.step call, y.fairness.Even a b weight largest

instance (call : Call) : Decidable (Routed call) := by
  unfold Routed
  split <;> infer_instance

instance (a b : ConnId) (weight largest : Nat) (x : Exchange) (call : Call) :
    Decidable (x.Contends a b weight largest call) :=
  inferInstanceAs (Decidable (Routed call ∧ _))

instance (a b : ConnId) (weight largest : Nat) (x : Exchange) (call : Call) :
    Decidable (x.StaysEven a b weight largest call) :=
  inferInstanceAs (Decidable (∀ y ∈ x.step call, _))

variable {call : Call}

theorem sentFor_turnless (turnless : ∀ now, call ≠ .nextDecision now) (connId : ConnId)
    (x : Exchange) : x.sentFor connId call = 0 := by
  cases call with
  | nextDecision now => exact absurd rfl (turnless now)
  | enqueueData | applyDispatchFeedback | removeFlow | setBackpressureEnabled => rfl

variable {x y : Exchange}

theorem balance_step (countable : x.Countable call) (sound : x.Sound)
    (contended : x.fairness.Contended a b weight largest)
    (even : x.fairness.Even a b weight largest)
    (contendedNext : y.fairness.Contended a b weight largest)
    (evenNext : y.fairness.Even a b weight largest) (stepped : x.step call = some y) :
    (x.sentFor a call : Int) - x.sentFor b call +
        y.fairness.balance a b (weightedQuantum x.fairness.config weight) =
      x.fairness.balance a b (weightedQuantum x.fairness.config weight) := by
  by_cases turn : ∃ now, call = .nextDecision now
  · obtain ⟨now, rfl⟩ := turn
    cases stepped
    exact balance_nextDecision sound.ringed contended even contendedNext
  · have turnless (now : Instant) : call ≠ .nextDecision now := fun same => turn ⟨now, same⟩
    obtain ⟨_, passed, _⟩ := sound.passed countable turnless stepped
    rw [sentFor_turnless turnless, sentFor_turnless turnless]
    have same := balance_passed sound.ringed contended passed contendedNext evenNext
      (weightedQuantum x.fairness.config weight)
    omega

variable {calls : List Call}

section
variable (countable : Guarded Exchange.step Exchange.Countable x calls)
  (contends : Guarded Exchange.step (Contends a b weight largest) x calls)
  (staysEven : Guarded Exchange.step (StaysEven a b weight largest) x calls) (sound : x.Sound)
  (contended : x.fairness.Contended a b weight largest) (even : x.fairness.Even a b weight largest)
  (run : runFrom Exchange.step x calls = some y)
include countable contends staysEven sound contended even run

theorem balance_run :
    y.fairness.Even a b weight largest ∧
      weightedQuantum y.fairness.config weight = weightedQuantum x.fairness.config weight ∧
      (x.bytesSent a calls : Int) - x.bytesSent b calls +
          y.fairness.balance a b (weightedQuantum x.fairness.config weight) =
        x.fairness.balance a b (weightedQuantum x.fairness.config weight) := by
  induction calls generalizing x with
  | nil =>
    cases run
    refine ⟨even, rfl, ?_⟩
    change (0 : Int) - 0 + _ = _
    omega
  | cons _ _ ih =>
    obtain ⟨next, stepped, rest⟩ := runFrom_cons_eq_some.mp run
    have contendedNext := contends.1.2 next stepped
    have evenNext := staysEven.1 next stepped
    obtain ⟨last, same, later⟩ := ih (countable.2 next stepped) (contends.2 next stepped)
      (staysEven.2 next stepped) (sound.step countable.1 stepped) contendedNext evenNext rest
    have now := balance_step countable.1 sound contended even contendedNext evenNext stepped
    rw [weightedQuantum_eq (scales_step countable.1 sound stepped)] at same later
    refine ⟨last, same, ?_⟩
    simp only [bytesSent, stepped, Option.map_some, Option.getD_some]
    omega

theorem bytesSent_of_even :
    |(x.bytesSent a calls : Int) - x.bytesSent b calls| ≤
      2 * (weightedQuantum x.fairness.config weight + largest) := by
  obtain ⟨last, same, _⟩ := balance_run countable contends staysEven sound contended even run
  have first := abs_le.mp even.even
  have final := abs_le.mp last.even
  rw [same] at final
  rw [abs_le]
  omega

end

def HoldsLarge (a b : ConnId) (weight : Nat) (x : Exchange) (call : Call) : Prop :=
  ∀ y ∈ x.step call, ∀ c ∈ [a, b], ∀ frame ∈ y.fairness.queueOf c,
    weightedQuantum y.fairness.config weight ≤ frame.queuedBytes

theorem large_step (countable : x.Countable call) (sound : x.Sound)
    (contended : x.fairness.Contended a b weight largest)
    (large : x.fairness.Large a b weight largest)
    (contendedNext : y.fairness.Contended a b weight largest)
    (holdsLarge : x.HoldsLarge a b weight call) (stepped : x.step call = some y) :
    y.fairness.Large a b weight largest := by
  have same := scales_step countable sound stepped
  have room := large.room
  have frames := holdsLarge y stepped
  rw [← weightedQuantum_eq same, ← WorkerFairnessConfig.maxDeficit_eq same] at room
  refine ⟨frames, fun c member => ?_, room⟩
  by_cases turn : ∃ now, call = .nextDecision now
  · obtain ⟨now, rfl⟩ := turn
    cases stepped
    exact saved_nextDecision sound.ringed contended large contendedNext member
  · obtain ⟨_, passed, _⟩ :=
      sound.passed countable (fun now same => turn ⟨now, same⟩) stepped
    have payload := payload_of_large contendedNext (frames c member) member
    rw [deficit_passed contended passed contendedNext payload member]
    exact large.saved c member

theorem staysEven_of_large (countable : Guarded Exchange.step Exchange.Countable x calls)
    (contends : Guarded Exchange.step (Contends a b weight largest) x calls)
    (holdsLarge : Guarded Exchange.step (HoldsLarge a b weight) x calls) (sound : x.Sound)
    (contended : x.fairness.Contended a b weight largest)
    (large : x.fairness.Large a b weight largest) :
    Guarded Exchange.step (StaysEven a b weight largest) x calls := by
  induction calls generalizing x with
  | nil => exact trivial
  | cons call _ ih =>
    have next (y : Exchange) (stepped : x.step call = some y) :=
      large_step countable.1 sound contended large (contends.1.2 y stepped) holdsLarge.1 stepped
    refine ⟨fun y stepped => ?_, fun y stepped => ?_⟩
    · have ringed := (sound.step countable.1 stepped).ringed
      exact (next y stepped).even ringed (contends.1.2 y stepped)
    · exact ih (countable.2 y stepped) (contends.2 y stepped) (holdsLarge.2 y stepped)
        (sound.step countable.1 stepped) (contends.1.2 y stepped) (next y stepped)

end Exchange

open Exchange

theorem even_flows_share_bytes (config : WorkerFairnessConfig) (now : Instant) (calls : List Call)
    (x : Exchange)
    (countable : Guarded Exchange.step Exchange.Countable (Exchange.start config now) calls)
    (reached : runFrom Exchange.step (Exchange.start config now) calls = some x)
    (a b : ConnId) (weight largest : Nat) (contended : x.fairness.Contended a b weight largest)
    (segment : List Call) (y : Exchange)
    (countableLater : Guarded Exchange.step Exchange.Countable x segment)
    (contends : Guarded Exchange.step (Exchange.Contends a b weight largest) x segment)
    (even : x.fairness.Even a b weight largest ∧
        Guarded Exchange.step (Exchange.StaysEven a b weight largest) x segment ∨
      x.fairness.Large a b weight largest ∧
        Guarded Exchange.step (Exchange.HoldsLarge a b weight) x segment)
    (run : runFrom Exchange.step x segment = some y) :
    |(x.bytesSent a segment : Int) - x.bytesSent b segment| ≤
      2 * (weightedQuantum config weight + largest) := by
  obtain ⟨sound, same⟩ := scales_run countable reached
  rw [← weightedQuantum_eq same]
  rcases even with ⟨even, staysEven⟩ | ⟨large, holdsLarge⟩
  · exact bytesSent_of_even countableLater contends staysEven sound contended even run
  · exact bytesSent_of_even countableLater contends
      (staysEven_of_large countableLater contends holdsLarge sound contended large) sound contended
      (large.even sound.ringed contended) run

def turnsOf (quantum : Nat) : WorkerFairnessConfig := { baseQuantumBytes := quantum }

def frameOut (connId : ConnId) (data : Bytes) : DispatchCandidate where
  frame := { connId := connId, flags := 0, data := data, enqueuedAt := 0 }
  pressureState := .normal
  flowClass := .healthy

def sevenEach (small large : Bytes) : List Call :=
  (List.replicate 7 [.enqueueData 1 0 small 0, .enqueueData 2 0 large 0]).flatten

def sendBoth (rounds : Nat) (small large : Bytes) : List Call :=
  (List.replicate rounds [.nextDecision 0, .applyDispatchFeedback 1 (frameOut 1 small) .routed 0,
    .nextDecision 0, .applyDispatchFeedback 2 (frameOut 2 large) .routed 0]).flatten

def evenQueues : Exchange :=
  (runFrom Exchange.step (Exchange.start (turnsOf 16) 0) (sevenEach [1, 2, 3] [1, 2, 3, 4])).get
    (by decide +kernel)

theorem alike_flows_share_bytes :
    (runFrom Exchange.step evenQueues (sendBoth 3 [1, 2, 3] [1, 2, 3, 4])).isSome = true ∧
      |(evenQueues.bytesSent 1 (sendBoth 3 [1, 2, 3] [1, 2, 3, 4]) : Int) -
          evenQueues.bytesSent 2 (sendBoth 3 [1, 2, 3] [1, 2, 3, 4])| ≤
        2 * (weightedQuantum (turnsOf 16) 1 + 4) := by
  have sent : (runFrom Exchange.step evenQueues
      (sendBoth 3 [1, 2, 3] [1, 2, 3, 4])).isSome = true := by decide +kernel
  obtain ⟨y, run⟩ := Option.isSome_iff_exists.mp sent
  refine ⟨sent, ?_⟩
  exact even_flows_share_bytes (turnsOf 16) 0 (sevenEach [1, 2, 3] [1, 2, 3, 4]) evenQueues
    (by decide +kernel) (Option.some_get _).symm 1 2 1 4 (by decide +kernel) _ y (by decide +kernel)
    (by decide +kernel) (.inl ⟨by decide +kernel, by decide +kernel⟩) run

def unevenQueues : Exchange :=
  (runFrom Exchange.step (Exchange.start (turnsOf 4) 0) (sevenEach [1] [1, 2, 3, 4])).get
    (by decide +kernel)

/-- Six turns of each flow send six bytes of the one and twenty-four of the other. -/
theorem small_frames_fall_behind :
    runFrom Exchange.step (Exchange.start (turnsOf 4) 0) (sevenEach [1] [1, 2, 3, 4]) =
        some unevenQueues ∧
      unevenQueues.fairness.Contended 1 2 1 4 ∧
      Guarded Exchange.step (Exchange.Contends 1 2 1 4) unevenQueues (sendBoth 6 [1] [1, 2, 3, 4]) ∧
      (runFrom Exchange.step unevenQueues (sendBoth 6 [1] [1, 2, 3, 4])).isSome = true ∧
      2 * (weightedQuantum (turnsOf 4) 1 + 4) <
        |(unevenQueues.bytesSent 1 (sendBoth 6 [1] [1, 2, 3, 4]) : Int) -
          unevenQueues.bytesSent 2 (sendBoth 6 [1] [1, 2, 3, 4])| := by
  refine ⟨(Option.some_get _).symm, ?_, ?_, ?_, ?_⟩ <;> decide +kernel

end Telemt.Fairness
