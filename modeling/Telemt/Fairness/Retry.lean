import Telemt.Fairness.ReaderLoop

namespace Telemt.Fairness
open Foundation WorkerFairnessState

/-! # When the reader comes back to queued frames -/

namespace ReaderState
variable {r : ReaderState}

theorem kept_closeFlow (kept : r.fairness.Kept) (connId : ConnId) :
    (r.closeFlow connId).fairness.Kept :=
  kept.removed (books_removeFlow r.fairness connId)

theorem total_closeFlow (kept : r.fairness.Kept) (connId : ConnId) :
    (r.closeFlow connId).fairness.totalQueuedBytes + queuedBytes (r.queueOf connId) =
      r.fairness.totalQueuedBytes := by
  have after := (kept_closeFlow kept connId).accounted.total
  have before := kept.accounted.total
  cases found : r.fairness.flows.lookup connId with
  | none => simp [closeFlow, removeFlow, queueOf, Books.queueOf, books, found]
  | some =>
    have flows : (r.closeFlow connId).fairness.flows = r.fairness.flows.erase connId := by
      rw [closeFlow, removeFlow, found]
      rfl
    rw [← Dict.tally_erase _ _ connId, found] at before
    rw [before, after, flows, queueOf, Books.queueOf_found (shelves_of_lookup found)]
    rfl

theorem kept_dispatched {candidate : DispatchCandidate}
    (kept : Worker.Kept { fairness := r.fairness, inFlight := some candidate })
    (backpressureEnabled : Bool) (result : RouteResult) (now : Instant) :
    (r.dispatched backpressureEnabled candidate result now).fairness.Kept := by
  have settled := kept.feedback rfl (routeFeedback result) now
  obtain ⟨_, same, stays | closes⟩ := r.dispatched_cases backpressureEnabled candidate result now
  · rw [stays, same]
    exact settled
  · rw [closes]
    exact kept_closeFlow (same ▸ settled) _

variable {r : ReaderState}

theorem kept_drainRounds (kept : r.fairness.Kept) (backpressureEnabled : Bool) (rounds : Rounds) :
    (r.drainRounds backpressureEnabled rounds).fairness.Kept := by
  induction rounds generalizing r with
  | nil => exact kept
  | cons round _ ih =>
    obtain ⟨now, result⟩ := round
    have asked := (Worker.Kept.idle kept).nextDecision now
    unfold drainRounds
    generalize r.fairness.nextDecision now = decided at asked ⊢
    obtain ⟨fairness, decision⟩ := decided
    cases decision with
    | idle => exact asked.kept
    | dispatch candidate =>
      exact ih (@kept_dispatched { r with fairness := fairness } candidate asked
        backpressureEnabled result now)

theorem kept_admitAnswer (kept : r.fairness.Kept) (backpressureEnabled : Bool) (answer : Answer)
    (now : Instant)
    (countable : r.fairness.config.maxTotalQueuedBytes < 2 ^ 64 - 1 ∨
      r.fairness.totalQueuedBytes + answer.data.length < 2 ^ 64) :
    (r.admitAnswer backpressureEnabled answer now).fairness.Kept := by
  have entered := kept.enqueueData answer.connId answer.flags answer.data now countable
  unfold admitAnswer
  generalize r.fairness.enqueueData answer.connId answer.flags answer.data now = asked at entered ⊢
  obtain ⟨fairness, _⟩ := asked
  dsimp only
  split_ifs
  · exact entered
  · exact @kept_closeFlow ((ReaderState.mk fairness r.dataRouteQueueFullStreak).noteFull _).2 entered _
  · exact entered

theorem kept_routeDirectly (kept : r.fairness.Kept) (backpressureEnabled : Bool) (answer : Answer)
    (result : RouteResult) :
    let next := r.routeDirectly backpressureEnabled answer result
    next.1.fairness.Kept ∧ (next.2 = true → next.1.fairness.totalQueuedBytes +
      queuedBytes (if result = .routed then [] else r.queueOf answer.connId) =
        r.fairness.totalQueuedBytes) := by
  unfold routeDirectly
  dsimp only
  split_ifs
  · exact ⟨kept, fun _ => rfl⟩
  · exact ⟨kept_closeFlow kept _, fun _ => total_closeFlow kept _⟩
  · exact ⟨@kept_closeFlow (r.noteFull answer.connId).2 kept _, nofun⟩
  · exact ⟨kept, nofun⟩

end ReaderState

namespace ReaderLoop
variable (l : ReaderLoop)

def retryArmed : Bool := 0 < l.snapshotQueuedBytes

def HoldsFrame : Prop :=
  ∃ connId flow, l.reader.fairness.flows.lookup connId = some flow ∧ flow.queue ≠ []

def HoldsPayload : Prop :=
  ∃ connId flow, l.reader.fairness.flows.lookup connId = some flow ∧
    ∃ frame ∈ flow.queue, frame.data ≠ []

/-- As `Worker.Countable`, at the only event that brings bytes in. -/
def Countable : ReaderEvent → Prop
  | .proxyAns answer _ _ _ =>
    l.reader.fairness.config.maxTotalQueuedBytes < 2 ^ 64 - 1 ∨
      l.reader.fairness.totalQueuedBytes + answer.data.length < 2 ^ 64
  | _ => True

structure Watched (l : ReaderLoop) : Prop where
  kept : l.reader.fairness.Kept
  snapshot : l.snapshotQueuedBytes = l.reader.fairness.totalQueuedBytes + queuedBytes l.dropped

theorem watched_drain {l : ReaderLoop} (kept : l.reader.fairness.Kept) (rounds : Rounds) :
    (l.drain rounds).Watched :=
  ⟨ReaderState.kept_drainRounds kept _ _, rfl⟩

variable {l : ReaderLoop}

theorem Watched.answered (watched : l.Watched) {answer : Answer} {now : Instant}
    {result : RouteResult} {rounds : Rounds}
    (countable : l.Countable (.proxyAns answer now result rounds)) :
    (l.answered answer now result rounds).Watched := by
  unfold ReaderLoop.answered
  dsimp only
  split
  · exact watched_drain (ReaderState.kept_admitAnswer watched.kept _ answer now countable) rounds
  · obtain ⟨kept, closed⟩ := ReaderState.kept_routeDirectly watched.kept l.backpressureEnabled answer
      result
    split
    · rename_i skips
      refine ⟨kept, watched.snapshot.trans ?_⟩
      dsimp only
      rw [← closed skips, queuedBytes_append]
      omega
    · exact watched_drain kept rounds

theorem total_setBackpressureEnabled (s : WorkerFairnessState) (enabled : Bool) (now : Instant) :
    (s.setBackpressureEnabled enabled now).totalQueuedBytes = s.totalQueuedBytes := by
  unfold setBackpressureEnabled
  split <;> rfl

theorem Watched.step {t : ReaderLoop} {event : ReaderEvent} (countable : l.Countable event)
    (watched : l.Watched) (stepped : l.step event = some t) : t.Watched := by
  cases event with
  | iterate backpressureEnabled _ now =>
    cases stepped
    have same := books_setBackpressureEnabled l.reader.fairness now backpressureEnabled
    refine ⟨watched.kept.same same, watched.snapshot.trans ?_⟩
    rw [total_setBackpressureEnabled]
  | retry rounds =>
    obtain ⟨_, ⟨⟩⟩ := Option.ite_none_right_eq_some.mp stepped
    have drained := watched_drain watched.kept rounds
    exact ⟨drained.kept, drained.snapshot⟩
  | proxyAns _ _ _ rounds =>
    obtain ⟨_, ⟨⟩⟩ := Option.ite_none_left_eq_some.mp stepped
    exact watched.answered countable
  | close connId rounds =>
    obtain ⟨_, ⟨⟩⟩ := Option.ite_none_left_eq_some.mp stepped
    exact watched_drain (ReaderState.kept_closeFlow watched.kept connId) rounds
  | other rounds =>
    obtain ⟨_, ⟨⟩⟩ := Option.ite_none_left_eq_some.mp stepped
    exact @watched_drain { l with phase := .reading } watched.kept rounds

theorem representable_readerConfig (routeChannelCapacity : Nat) (backpressureEnabled : Bool) :
    (readerConfig routeChannelCapacity backpressureEnabled).Representable where
  maxActiveFlows := max_lt (Nat.lt_of_le_of_lt (Nat.min_le_right _ _) (by decide)) (by decide)
  maxTotalQueuedBytes := max_lt (Nat.lt_of_le_of_lt (Nat.min_le_right _ _) (by decide)) (by decide)

theorem queuedBytes_pos_iff {queue : List QueuedFrame} :
    0 < queuedBytes queue ↔ ∃ frame ∈ queue, frame.data ≠ [] := by
  unfold queuedBytes
  rw [List.sum_pos_iff_exists_pos_nat]
  simp [QueuedFrame.queuedBytes, List.length_pos_iff]

theorem Watched.total_pos_iff (watched : l.Watched) :
    0 < l.reader.fairness.totalQueuedBytes ↔ l.HoldsPayload := by
  rw [watched.kept.accounted.total, Dict.tally_pos_iff]
  unfold HoldsPayload
  simp only [queuedBytes_pos_iff]

end ReaderLoop

theorem queued_frames_have_retry_iff (routeChannelCapacity : Nat) (backpressureEnabled : Bool)
    (now : Instant) (events : List ReaderEvent)
    (countable : Guarded ReaderLoop.step ReaderLoop.Countable
      (ReaderLoop.start routeChannelCapacity backpressureEnabled now) events)
    (l : ReaderLoop)
    (run : runFrom ReaderLoop.step
      (ReaderLoop.start routeChannelCapacity backpressureEnabled now) events = some l) :
    (l.HoldsFrame → l.retryArmed = true) ↔
      (l.HoldsFrame → l.HoldsPayload ∨ ∃ frame ∈ l.dropped, frame.data ≠ []) := by
  have fresh : (ReaderLoop.start routeChannelCapacity backpressureEnabled now).Watched :=
    ⟨kept_new (ReaderLoop.representable_readerConfig _ _) now, rfl⟩
  have watched : l.Watched :=
    runFrom_invariant ReaderLoop.Watched (fun _ _ _ countable watched stepped =>
      watched.step countable stepped) countable fresh run
  have armed : l.retryArmed = true ↔ l.HoldsPayload ∨ ∃ frame ∈ l.dropped, frame.data ≠ [] := by
    rw [ReaderLoop.retryArmed, decide_eq_true_iff, watched.snapshot, Nat.add_pos_iff_pos_or_pos,
      watched.total_pos_iff, ReaderLoop.queuedBytes_pos_iff]
  rw [armed]

def ReaderLoop.outlook (l : ReaderLoop) : ReaderPhase × Option (List Bytes) × Bool :=
  (l.phase, (l.reader.fairness.flows.lookup 1).map fun flow => flow.queue.map QueuedFrame.data,
    l.retryArmed)

theorem ReaderLoop.front_of_outlook {l : ReaderLoop} {phase : ReaderPhase} {data : Bytes}
    {later : List Bytes} {armed : Bool} (outlook : l.outlook = (phase, some (data :: later), armed)) :
    ∃ flow frame rest, l.reader.fairness.flows.lookup 1 = some flow ∧ flow.queue = frame :: rest ∧
      frame.data = data := by
  obtain ⟨_, rest⟩ := Prod.mk.inj outlook
  obtain ⟨flow, found, queue⟩ := Option.map_eq_some_iff.mp (Prod.mk.inj rest).1
  obtain ⟨frame, behind, front, same, _⟩ := List.map_eq_cons_iff.mp queue
  exact ⟨flow, frame, behind, found, front, same⟩

theorem ReaderLoop.holdsFrame_of_front {l : ReaderLoop} {flow : FlowEntry} {frame : QueuedFrame}
    {rest : List QueuedFrame} (found : l.reader.fairness.flows.lookup 1 = some flow)
    (front : flow.queue = frame :: rest) : l.HoldsFrame :=
  ⟨1, flow, found, by rw [front]; exact List.cons_ne_nil _ _⟩

theorem slow_client_has_retry :
    ∃ l, runFrom ReaderLoop.step (ReaderLoop.start 1 false 0) (slowClient ++ [.iterate false true 0]) =
        some l ∧
      l.phase = .waiting ∧ l.HoldsFrame ∧ l.retryArmed = true := by
  obtain ⟨l, run, outlook⟩ := Option.map_eq_some_iff.mp
    (show (runFrom ReaderLoop.step (ReaderLoop.start 1 false 0)
        (slowClient ++ [.iterate false true 0])).map ReaderLoop.outlook =
        some (.waiting, some [[1]], true) by decide +kernel)
  obtain ⟨flow, frame, _, found, front, data⟩ := ReaderLoop.front_of_outlook outlook
  have holds := ReaderLoop.holdsFrame_of_front found front
  have countable : Guarded ReaderLoop.step ReaderLoop.Countable (ReaderLoop.start 1 false 0)
      (slowClient ++ [.iterate false true 0]) := by
    refine ⟨trivial, ?_⟩
    rintro _ ⟨⟩
    exact ⟨.inl (by decide), fun _ _ => ⟨trivial, fun _ _ => trivial⟩⟩
  refine ⟨l, run, (Prod.mk.inj outlook).1, holds, ?_⟩
  refine (queued_frames_have_retry_iff 1 false 0 _ countable l run).mpr (fun _ => .inl ?_) holds
  exact ⟨1, flow, found, frame, by rw [front]; exact List.mem_cons_self, by rw [data]; decide⟩

def slowClientEmptyFrame : List ReaderEvent :=
  [.iterate false true 0, .proxyAns ⟨1, 0, []⟩ 0 .routed (List.replicate 128 (0, .queueFullBase)),
    .iterate false true 0]

theorem empty_frame_waits_without_retry :
    ∃ l, runFrom ReaderLoop.step (ReaderLoop.start 1 false 0) slowClientEmptyFrame = some l ∧
      l.phase = .waiting ∧ l.HoldsFrame ∧ l.retryArmed = false := by
  obtain ⟨l, run, outlook⟩ := Option.map_eq_some_iff.mp
    (show (runFrom ReaderLoop.step (ReaderLoop.start 1 false 0) slowClientEmptyFrame).map
        ReaderLoop.outlook = some (.waiting, some [[]], false) by decide +kernel)
  obtain ⟨_, _, _, found, front, _⟩ := ReaderLoop.front_of_outlook outlook
  have parts := Prod.mk.inj outlook
  exact ⟨l, run, parts.1, ReaderLoop.holdsFrame_of_front found front, (Prod.mk.inj parts.2).2⟩

end Telemt.Fairness
