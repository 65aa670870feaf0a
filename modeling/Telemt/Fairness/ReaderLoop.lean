import Telemt.Fairness.Order

namespace Telemt.Fairness
open Foundation WorkerFairnessState

/-!
# The order in which a client gets its frames

Decryption, checksums and sequence numbers come before this model; an error there ends the loop.
-/

structure Answer where
  connId : ConnId
  flags : UInt32
  data : Bytes
  deriving DecidableEq, Repr

def QueuedFrame.answer (frame : QueuedFrame) : Answer := ⟨frame.connId, frame.flags, frame.data⟩

abbrev Rounds := List (Instant × RouteResult)

namespace ReaderState
variable (r : ReaderState)

def queueOf (connId : ConnId) : List QueuedFrame :=
  r.fairness.books.queueOf connId

def placedRounds (backpressureEnabled : Bool) : ReaderState → Rounds → List QueuedFrame
  | _, [] => []
  | r, (now, result) :: rounds =>
    match r.fairness.nextDecision now with
    | (_, .idle) => []
    | (fairness, .dispatch candidate) =>
      (if result = .routed then [candidate.frame] else []) ++
        placedRounds backpressureEnabled
          ({ r with fairness := fairness }.dispatched backpressureEnabled candidate result now)
          rounds

def noteFull (connId : ConnId) : Nat × ReaderState :=
  let streak := saturatingAdd 8 ((r.dataRouteQueueFullStreak.lookup connId).getD 0) 1
  (streak, { r with dataRouteQueueFullStreak := r.dataRouteQueueFullStreak.insert connId streak })

def admitAnswer (backpressureEnabled : Bool) (answer : Answer) (now : Instant) : ReaderState :=
  let (fairness, admission) :=
    r.fairness.enqueueData answer.connId answer.flags answer.data now
  let r := { r with fairness := fairness }
  if admission = .admitted then r
  else
    let (streak, r) := r.noteFull answer.connId
    if shouldCloseOnQueueFullStreakWithPolicy streak fairness.pressure.state backpressureEnabled ||
        (backpressureEnabled && admission = .rejectSaturated) then
      r.closeFlow answer.connId
    else r

-- The flag says that the loop goes on to the next frame without a drain.
def routeDirectly (backpressureEnabled : Bool) (answer : Answer) (result : RouteResult) :
    ReaderState × Bool :=
  if result = .routed then
    ({ r with dataRouteQueueFullStreak := r.dataRouteQueueFullStreak.erase answer.connId }, true)
  else if shouldCloseOnRouteResultForData result then (r.closeFlow answer.connId, true)
  else
    let (streak, r) := r.noteFull answer.connId
    if shouldCloseOnQueueFullStreakWithPolicy streak .shedding backpressureEnabled then
      (r.closeFlow answer.connId, false)
    else (r, false)

end ReaderState

def readerConfig (routeChannelCapacity : Nat) (backpressureEnabled : Bool) : WorkerFairnessConfig where
  maxActiveFlows := max (saturatingMul 64 routeChannelCapacity 4) 256
  maxTotalQueuedBytes := max (saturatingMul 64 routeChannelCapacity (16 * 1024)) (4 * 1024 * 1024)
  maxFlowQueuedBytes :=
    min (max (saturatingMul 64 routeChannelCapacity (2 * 1024)) (64 * 1024)) (2 * 1024 * 1024)
  backpressureEnabled := backpressureEnabled

inductive ReaderPhase
  | waiting
  | reading
  | iterated
  deriving DecidableEq, Repr

/-- The loop's state; `arrived` and `placed` record what came in and what went out, `dropped` the frames
that have gone with the flow of their connection since the snapshot. -/
structure ReaderLoop where
  reader : ReaderState
  backpressureEnabled : Bool
  fairshareEnabled : Bool := false
  snapshotQueuedBytes : Nat := 0
  phase : ReaderPhase := .iterated
  arrived : List Answer := []
  placed : List Answer := []
  dropped : List QueuedFrame := []

/-- What the next turn of the loop finds. Acknowledgements, pings and unknown frames leave the
scheduler alone, so that only the drain after them counts. -/
inductive ReaderEvent
  | iterate (backpressureEnabled fairshareEnabled : Bool) (now : Instant)
  | retry (rounds : Rounds)
  | proxyAns (answer : Answer) (now : Instant) (result : RouteResult) (rounds : Rounds)
  | close (connId : ConnId) (rounds : Rounds)
  | other (rounds : Rounds)

namespace ReaderLoop

def start (routeChannelCapacity : Nat) (backpressureEnabled : Bool) (now : Instant) : ReaderLoop where
  reader := { fairness := .new (readerConfig routeChannelCapacity backpressureEnabled) now }
  backpressureEnabled := backpressureEnabled

variable (l : ReaderLoop)

def drain (rounds : Rounds) : ReaderLoop :=
  let reader := l.reader.drainFairnessScheduler l.backpressureEnabled rounds
  { l with
    reader := reader
    snapshotQueuedBytes := reader.fairness.totalQueuedBytes
    placed := l.placed ++ (l.reader.placedRounds l.backpressureEnabled
      (rounds.take fairnessDrainBudgetPerLoop)).map QueuedFrame.answer
    dropped := [] }

def answered (answer : Answer) (now : Instant) (result : RouteResult) (rounds : Rounds) :
    ReaderLoop :=
  let l := { l with phase := .reading, arrived := l.arrived ++ [answer] }
  if l.fairshareEnabled then
    { l with reader := l.reader.admitAnswer l.backpressureEnabled answer now }.drain rounds
  else
    let closed := if result = .routed then [] else l.reader.queueOf answer.connId
    let (reader, skip) := l.reader.routeDirectly l.backpressureEnabled answer result
    let l : ReaderLoop := { l with
      reader := reader
      placed := if result = .routed then l.placed ++ [answer] else l.placed }
    if skip then { l with dropped := l.dropped ++ closed } else l.drain rounds

def step : ReaderEvent → Option ReaderLoop
  | .iterate backpressureEnabled fairshareEnabled now =>
    some { l with
      reader := { l.reader with
        fairness := l.reader.fairness.setBackpressureEnabled backpressureEnabled now }
      backpressureEnabled := backpressureEnabled
      fairshareEnabled := fairshareEnabled
      phase := .waiting }
  | .retry rounds =>
    if l.phase = .waiting ∧ 0 < l.snapshotQueuedBytes then
      some { l.drain rounds with phase := .iterated }
    else none
  | .proxyAns answer now result rounds =>
    if l.phase = .iterated then none else some (l.answered answer now result rounds)
  | .close connId rounds =>
    if l.phase = .iterated then none
    else some ({ l with reader := l.reader.closeFlow connId, phase := .reading }.drain rounds)
  | .other rounds =>
    if l.phase = .iterated then none else some ({ l with phase := .reading }.drain rounds)

end ReaderLoop

namespace Books

theorem queueOf_removed_sublist (b : Books) (connId other : ConnId) :
    ((b.removed connId).queueOf other).Sublist (b.queueOf other) := by
  rw [queueOf_removed]
  split
  · exact List.nil_sublist _
  · exact .refl _

theorem queueOf_returned_sublist (b : Books) (frame : QueuedFrame) (other : ConnId) :
    ((b.returned frame).queueOf other).Sublist
      ((if other = frame.connId then [frame] else []) ++ b.queueOf other) := by
  cases found : b.shelves frame.connId with
  | none =>
    have same : b.returned frame = b := by simp [returned, found]
    rw [same]
    exact List.sublist_append_right _ _
  | some =>
    rw [queueOf_returned found]

end Books

namespace ReaderState
variable {r : ReaderState}

theorem sound_closeFlow (sound : r.fairness.books.Sound) (connId : ConnId) :
    (r.closeFlow connId).fairness.books.Sound := by
  have removed : (r.closeFlow connId).fairness.books = r.fairness.books.removed connId :=
    books_removeFlow r.fairness connId
  rw [removed]
  exact sound.removed connId

theorem queueOf_closeFlow (r : ReaderState) (connId other : ConnId) :
    ((r.closeFlow connId).queueOf other).Sublist (r.queueOf other) := by
  have removed : (r.closeFlow connId).fairness.books = r.fairness.books.removed connId :=
    books_removeFlow r.fairness connId
  unfold queueOf
  rw [removed]
  exact Books.queueOf_removed_sublist _ _ _

theorem dispatched_cases (r : ReaderState) (backpressureEnabled : Bool)
    (candidate : DispatchCandidate) (result : RouteResult) (now : Instant) :
    ∃ fed : ReaderState,
      fed.fairness = (r.fairness.applyDispatchFeedback candidate.frame.connId candidate
        (routeFeedback result) now).1 ∧
      (r.dispatched backpressureEnabled candidate result now = fed ∨
        r.dispatched backpressureEnabled candidate result now =
          fed.closeFlow candidate.frame.connId) := by
  unfold dispatched
  dsimp only
  split_ifs
  all_goals first | exact ⟨_, rfl, .inr rfl⟩ | exact ⟨_, rfl, .inl rfl⟩

theorem queueOf_feedback (s : WorkerFairnessState) (candidate : DispatchCandidate)
    (feedback : DispatchFeedback) (now : Instant) (other : ConnId) :
    ((s.applyDispatchFeedback candidate.frame.connId candidate feedback now).1.books.queueOf
      other).Sublist
      ((if feedback = .queueFull ∧ other = candidate.frame.connId then [candidate.frame] else []) ++
        s.books.queueOf other) := by
  rw [books_applyDispatchFeedback s candidate feedback now]
  have kept : ((if feedback = .queueFull then
      if s.sheds candidate.frame.connId then s.books.shed else s.books.returned candidate.frame
      else s.books).queueOf other).Sublist
      ((if feedback = .queueFull ∧ other = candidate.frame.connId then [candidate.frame] else []) ++
        s.books.queueOf other) := by
    by_cases full : feedback = .queueFull
    · simp only [full, true_and, if_true]
      split
      · exact List.sublist_append_right _ _
      · exact Books.queueOf_returned_sublist _ _ _
    · simp only [full, false_and, if_false, List.nil_append, List.Sublist.refl]
  split
  · exact (Books.queueOf_removed_sublist _ _ _).trans kept
  · exact kept

section
variable (sound : r.fairness.books.Sound) (backpressureEnabled : Bool)
include sound backpressureEnabled

theorem dispatched_order {candidate : DispatchCandidate} {fairness : WorkerFairnessState}
    {now : Instant} (asked : r.fairness.nextDecision now = (fairness, .dispatch candidate))
    (result : RouteResult) :
    let after := { r with fairness := fairness }.dispatched backpressureEnabled candidate result now
    after.fairness.books.Sound ∧ ∀ other,
      ((if result = .routed ∧ other = candidate.frame.connId then [candidate.frame] else []) ++
        after.queueOf other).Sublist (r.queueOf other) := by
  intro after
  have served := books_nextDecision sound now
  have soundNext := sound.moves (moves_nextDecision sound now)
  rw [asked] at served soundNext
  obtain ⟨_, _, found, queue, popped⟩ := served
  obtain ⟨fed, fedIs, closed⟩ := dispatched_cases { r with fairness := fairness } backpressureEnabled
    candidate result now
  have soundFed : fed.fairness.books.Sound := by
    rw [fedIs]
    exact soundNext.moves (moves_applyDispatchFeedback fairness candidate _ now)
  have fedOrder (other : ConnId) :
      ((if result = .routed ∧ other = candidate.frame.connId then [candidate.frame] else []) ++
        fed.queueOf other).Sublist (r.queueOf other) := by
    have fedQueue := queueOf_feedback fairness candidate (routeFeedback result) now other
    rw [← fedIs] at fedQueue
    unfold queueOf
    rw [Books.queueOf_popped found queue, ← popped]
    by_cases routed : result = .routed
    · have notFull : routeFeedback result ≠ .queueFull := by simp [routed, routeFeedback]
      rw [if_neg fun full => notFull full.1] at fedQueue
      simp only [routed, true_and]
      exact fedQueue.append_left _
    · simp only [routed, false_and, if_false, List.nil_append]
      refine fedQueue.trans (List.Sublist.append_right ?_ _)
      split_ifs with full same
      · exact .refl _
      · exact absurd full.2 same
      · exact List.nil_sublist _
      · exact .refl _
  rcases closed with same | closed
  · rw [show after = fed from same]
    exact ⟨soundFed, fedOrder⟩
  · rw [show after = fed.closeFlow candidate.frame.connId from closed]
    refine ⟨sound_closeFlow soundFed _, fun other => ?_⟩
    exact ((queueOf_closeFlow fed _ other).append_left _).trans (fedOrder other)

theorem placedRounds_order (rounds : Rounds) :
    (r.drainRounds backpressureEnabled rounds).fairness.books.Sound ∧ ∀ other,
      ((r.placedRounds backpressureEnabled rounds).filter (·.connId = other) ++
        (r.drainRounds backpressureEnabled rounds).queueOf other).Sublist (r.queueOf other) := by
  induction rounds generalizing r with
  | nil => exact ⟨sound, fun _ => .refl _⟩
  | cons round _ ih =>
    obtain ⟨now, result⟩ := round
    have served := books_nextDecision sound now
    unfold drainRounds placedRounds
    rcases asked : r.fairness.nextDecision now with ⟨fairness, decision⟩
    cases decision with
    | idle =>
      rw [asked] at served
      have same : fairness.books = r.fairness.books := served
      refine ⟨same ▸ sound, fun other => ?_⟩
      unfold queueOf
      rw [same]
      exact .refl _
    | dispatch candidate =>
      obtain ⟨soundNext, order⟩ := dispatched_order sound backpressureEnabled asked result
      obtain ⟨soundRest, rest⟩ := ih soundNext
      refine ⟨soundRest, fun other => ?_⟩
      refine List.Sublist.trans ?_ (order other)
      have first :
          (if result = .routed then [candidate.frame] else []).filter (·.connId = other) =
            if result = .routed ∧ other = candidate.frame.connId then [candidate.frame] else [] := by
        by_cases routed : result = .routed
        · simp [routed, eq_comm, List.filter_singleton]
        · simp [routed]
      dsimp only
      rw [List.filter_append, List.append_assoc, first]
      exact (rest other).append_left _

theorem admitAnswer_order (answer : Answer) (now : Instant) :
    (r.admitAnswer backpressureEnabled answer now).fairness.books.Sound ∧ ∀ other,
      (((r.admitAnswer backpressureEnabled answer now).queueOf other).map
        QueuedFrame.answer).Sublist
        ((r.queueOf other).map QueuedFrame.answer ++ [answer].filter (·.connId = other)) := by
  have soundNext := sound.moves (moves_enqueueData r.fairness answer.connId answer.flags answer.data now)
  have entered := books_enqueueData r.fairness answer.connId answer.flags answer.data now
  unfold admitAnswer
  generalize r.fairness.enqueueData answer.connId answer.flags answer.data now = asked at *
  obtain ⟨fairness, _⟩ := asked
  dsimp only
  rcases entered with ⟨refused, kept⟩ | ⟨admitted, shelf, found, _, pushed⟩
  · have same (other : ConnId) : fairness.books.queueOf other = r.queueOf other := by
      rcases kept with same | ⟨_, opened⟩
      · exact congrArg (Books.queueOf · other) same
      · exact (congrArg (Books.queueOf · other) opened).trans (Books.queueOf_opened _ _ _)
    have fewer (other : ConnId) {queue : List QueuedFrame}
        (sub : queue.Sublist (fairness.books.queueOf other)) :
        (queue.map QueuedFrame.answer).Sublist
          ((r.queueOf other).map QueuedFrame.answer ++ [answer].filter (·.connId = other)) := by
      rw [same] at sub
      exact (sub.map _).trans (List.sublist_append_left _ _)
    rw [if_neg refused]
    split
    · exact ⟨sound_closeFlow soundNext _, fun other => fewer other (queueOf_closeFlow _ _ other)⟩
    · exact ⟨soundNext, fun other => fewer other (.refl _)⟩
  · rw [if_pos admitted]
    refine ⟨soundNext, fun other => ?_⟩
    change ((fairness.books.queueOf other).map _).Sublist _
    rw [pushed, Books.queueOf_pushed found, Books.queueOf_opened]
    split
    · rename_i same
      simp [queueOf, same, QueuedFrame.answer]
    · exact List.sublist_append_left _ _

theorem routeDirectly_order (answer : Answer) (result : RouteResult) :
    (r.routeDirectly backpressureEnabled answer result).1.fairness.books.Sound ∧ ∀ other,
      ((r.routeDirectly backpressureEnabled answer result).1.queueOf other).Sublist
        (r.queueOf other) := by
  unfold routeDirectly
  dsimp only
  split_ifs
  · exact ⟨sound, fun _ => .refl _⟩
  · exact ⟨sound_closeFlow sound _, queueOf_closeFlow r _⟩
  · exact ⟨sound_closeFlow sound _, queueOf_closeFlow (r.noteFull answer.connId).2 _⟩
  · exact ⟨sound, fun _ => .refl _⟩

end

end ReaderState

namespace ReaderLoop

structure InOrder (l : ReaderLoop) : Prop where
  sound : l.reader.fairness.books.Sound
  order : ∀ connId,
    (l.placed.filter (·.connId = connId) ++
      (l.reader.queueOf connId).map QueuedFrame.answer).Sublist
      (l.arrived.filter (·.connId = connId))

variable {l : ReaderLoop}

theorem InOrder.drain (inOrder : l.InOrder) (rounds : Rounds) :
    (l.drain rounds).InOrder := by
  obtain ⟨sound, order⟩ := ReaderState.placedRounds_order inOrder.sound l.backpressureEnabled
    (rounds.take fairnessDrainBudgetPerLoop)
  refine ⟨sound, fun connId => ?_⟩
  refine List.Sublist.trans ?_ (inOrder.order connId)
  have drained := ((order connId).map QueuedFrame.answer).append_left
    (l.placed.filter (·.connId = connId))
  rw [List.map_append, ← List.append_assoc] at drained
  simp only [ReaderLoop.drain, List.filter_append, List.filter_map]
  exact drained

/-- A frame is routed past frames of its connection that the scheduler still queues. -/
def Overtakes (l : ReaderLoop) : ReaderEvent → Prop
  | .proxyAns answer _ result _ =>
    l.fairshareEnabled = false ∧ result = .routed ∧ l.reader.queueOf answer.connId ≠ []
  | _ => False

instance (l : ReaderLoop) (event : ReaderEvent) : Decidable (l.Overtakes event) := by
  unfold Overtakes
  split <;> infer_instance

theorem InOrder.admitted (inOrder : l.InOrder) (answer : Answer) (now : Instant) :
    InOrder { l with
      phase := .reading
      arrived := l.arrived ++ [answer]
      reader := l.reader.admitAnswer l.backpressureEnabled answer now } := by
  obtain ⟨sound, queued⟩ := ReaderState.admitAnswer_order inOrder.sound l.backpressureEnabled answer now
  refine ⟨sound, fun connId => ?_⟩
  have longer := (queued connId).append_left (l.placed.filter (·.connId = connId))
  rw [← List.append_assoc] at longer
  rw [List.filter_append]
  exact longer.trans ((inOrder.order connId).append_right _)

theorem InOrder.direct (inOrder : l.InOrder) {answer : Answer} {result : RouteResult}
    (orderly : result = .routed → l.reader.queueOf answer.connId = []) :
    InOrder { l with
      phase := .reading
      arrived := l.arrived ++ [answer]
      reader := (l.reader.routeDirectly l.backpressureEnabled answer result).1
      placed := if result = .routed then l.placed ++ [answer] else l.placed } := by
  obtain ⟨sound, queued⟩ := ReaderState.routeDirectly_order inOrder.sound l.backpressureEnabled answer
    result
  refine ⟨sound, fun connId => ?_⟩
  have before := inOrder.order connId
  have fewer := (((queued connId).map QueuedFrame.answer).append_left
    (l.placed.filter (·.connId = connId))).trans before
  rw [List.filter_append]
  by_cases routed : result = .routed
  · rw [if_pos routed, List.filter_append]
    by_cases own : answer.connId = connId
    · have empty := orderly routed
      rw [own] at empty
      have none : (l.reader.routeDirectly l.backpressureEnabled answer result).1.queueOf connId = [] :=
        List.sublist_nil.mp (empty ▸ queued connId)
      rw [none] at fewer ⊢
      rw [List.map_nil, List.append_nil] at fewer ⊢
      exact fewer.append_right _
    · have nothing : [answer].filter (·.connId = connId) = [] := by simp [own]
      rw [nothing, List.append_nil, List.append_nil]
      exact fewer
  · rw [if_neg routed]
    exact fewer.trans (List.sublist_append_left _ _)

theorem InOrder.answered (inOrder : l.InOrder) {answer : Answer} {now : Instant}
    {result : RouteResult} {rounds : Rounds}
    (orderly : ¬ l.Overtakes (.proxyAns answer now result rounds)) :
    (l.answered answer now result rounds).InOrder := by
  unfold ReaderLoop.answered
  dsimp only
  split
  · exact (inOrder.admitted answer now).drain rounds
  · rename_i off
    have free : result = .routed → l.reader.queueOf answer.connId = [] := by
      intro routed
      by_contra queued
      exact orderly ⟨Bool.eq_false_iff.mpr off, routed, queued⟩
    split
    · exact ⟨(inOrder.direct free).sound, (inOrder.direct free).order⟩
    · exact (inOrder.direct free).drain rounds

theorem InOrder.step {t : ReaderLoop} {event : ReaderEvent} (orderly : ¬ l.Overtakes event)
    (inOrder : l.InOrder) (stepped : l.step event = some t) : t.InOrder := by
  cases event with
  | iterate backpressureEnabled _ now =>
    cases stepped
    have same := books_setBackpressureEnabled l.reader.fairness now backpressureEnabled
    refine ⟨same ▸ inOrder.sound, fun connId => ?_⟩
    simp only [ReaderState.queueOf, same]
    exact inOrder.order connId
  | retry rounds =>
    obtain ⟨_, ⟨⟩⟩ := Option.ite_none_right_eq_some.mp stepped
    have drained := inOrder.drain rounds
    exact ⟨drained.sound, drained.order⟩
  | proxyAns _ _ _ rounds =>
    obtain ⟨_, ⟨⟩⟩ := Option.ite_none_left_eq_some.mp stepped
    exact inOrder.answered orderly
  | close connId rounds =>
    obtain ⟨_, ⟨⟩⟩ := Option.ite_none_left_eq_some.mp stepped
    apply InOrder.drain
    refine ⟨ReaderState.sound_closeFlow inOrder.sound connId, fun other => ?_⟩
    exact (((ReaderState.queueOf_closeFlow l.reader connId other).map _).append_left _).trans
      (inOrder.order other)
  | other rounds =>
    obtain ⟨_, ⟨⟩⟩ := Option.ite_none_left_eq_some.mp stepped
    have reading : InOrder { l with phase := .reading } := ⟨inOrder.sound, inOrder.order⟩
    exact reading.drain rounds

end ReaderLoop

theorem delivery_in_order_unless_overtaken (routeChannelCapacity : Nat) (backpressureEnabled : Bool)
    (now : Instant) (events : List ReaderEvent)
    (orderly : Guarded ReaderLoop.step (fun l event => ¬ l.Overtakes event)
      (ReaderLoop.start routeChannelCapacity backpressureEnabled now) events)
    (l : ReaderLoop)
    (run : runFrom ReaderLoop.step
      (ReaderLoop.start routeChannelCapacity backpressureEnabled now) events = some l)
    (connId : ConnId) :
    (l.placed.filter (·.connId = connId)).Sublist (l.arrived.filter (·.connId = connId)) := by
  have fresh : (ReaderLoop.start routeChannelCapacity backpressureEnabled now).InOrder :=
    ⟨by rintro connId shelf ⟨⟩, fun _ => .refl _⟩
  have inOrder : l.InOrder :=
    runFrom_invariant ReaderLoop.InOrder (fun _ _ _ orderly inOrder stepped =>
      inOrder.step orderly stepped) orderly fresh run
  exact (List.sublist_append_left _ _).trans (inOrder.order connId)

def slowClient : List ReaderEvent :=
  [.iterate false true 0, .proxyAns ⟨1, 0, [1]⟩ 0 .routed (List.replicate 128 (0, .queueFullBase))]

theorem slow_client_in_order :
    ∃ l, runFrom ReaderLoop.step (ReaderLoop.start 1 false 0)
        (slowClient ++ [.iterate false true 0,
          .proxyAns ⟨1, 0, [2]⟩ 0 .routed [(0, .routed), (0, .routed), (0, .routed)]]) = some l ∧
      (l.placed.filter (·.connId = 1)).Sublist (l.arrived.filter (·.connId = 1)) := by
  obtain ⟨l, run⟩ := Option.isSome_iff_exists.mp
    (show (runFrom ReaderLoop.step (ReaderLoop.start 1 false 0)
        (slowClient ++ [.iterate false true 0,
          .proxyAns ⟨1, 0, [2]⟩ 0 .routed [(0, .routed), (0, .routed), (0, .routed)]])).isSome = true by
      decide +kernel)
  exact ⟨l, run, delivery_in_order_unless_overtaken 1 false 0 _ (by decide +kernel) l run 1⟩

-- Fair sharing is switched off before the second frame, which is then routed past the first.
def secondFrameDirect : List ReaderEvent :=
  [.iterate false false 0, .proxyAns ⟨1, 0, [2]⟩ 0 .routed [], .iterate false false 0,
    .retry [(0, .routed), (0, .routed)]]

theorem overtaken_frame_misordered :
    ∃ l, runFrom ReaderLoop.step (ReaderLoop.start 1 false 0) (slowClient ++ secondFrameDirect) = some l ∧
      l.arrived = [⟨1, 0, [1]⟩, ⟨1, 0, [2]⟩] ∧ l.placed = [⟨1, 0, [2]⟩, ⟨1, 0, [1]⟩] ∧
      ¬ (l.placed.filter (·.connId = 1)).Sublist (l.arrived.filter (·.connId = 1)) := by
  obtain ⟨l, run, delivered⟩ := Option.map_eq_some_iff.mp
    (show (runFrom ReaderLoop.step (ReaderLoop.start 1 false 0) (slowClient ++ secondFrameDirect)).map
        (fun l => (l.arrived, l.placed)) =
      some ([⟨1, 0, [1]⟩, ⟨1, 0, [2]⟩], [⟨1, 0, [2]⟩, ⟨1, 0, [1]⟩]) by decide +kernel)
  obtain ⟨arrived, placed⟩ := Prod.mk.inj delivered
  refine ⟨l, run, arrived, placed, ?_⟩
  rw [arrived, placed]
  decide

end Telemt.Fairness
