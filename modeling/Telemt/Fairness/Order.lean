import Telemt.Fairness.Accounting

namespace Telemt.Fairness
open Foundation WorkerFairnessState

/-! # The frames of one flow stay in order -/

namespace Books

def queueOf (b : Books) (connId : ConnId) : List QueuedFrame :=
  ((b.shelves connId).map Shelf.queue).getD []

variable {b : Books} {shelf : Shelf} {frame : QueuedFrame} {connId : ConnId}

theorem queueOf_found (found : b.shelves connId = some shelf) : b.queueOf connId = shelf.queue := by
  simp [queueOf, found]

theorem queueOf_store (b : Books) (connId other : ConnId) (shelf : Shelf) :
    (b.store connId shelf).queueOf other = if other = connId then shelf.queue else b.queueOf other := by
  unfold queueOf
  by_cases same : other = connId
  · subst same
    simp
  · simp [same]

@[simp] theorem queueOf_opened (b : Books) (connId other : ConnId) :
    (b.opened connId).queueOf other = b.queueOf other := by
  unfold opened
  split
  · rfl
  · rename_i absent
    refine (queueOf_store b connId other _).trans ?_
    split
    · rename_i same
      subst same
      simp [queueOf, absent]
    · rfl

theorem queueOf_pushed (found : b.shelves frame.connId = some shelf) (other : ConnId) :
    (b.pushed shelf frame).queueOf other =
      if other = frame.connId then b.queueOf other ++ [frame] else b.queueOf other := by
  refine (queueOf_store (b.credit _ _) frame.connId other _).trans ?_
  split
  · rename_i same
    rw [same, queueOf_found found]
  · rfl

theorem queueOf_popped (found : b.shelves frame.connId = some shelf) {rest : List QueuedFrame}
    (queue : shelf.queue = frame :: rest) (other : ConnId) :
    b.queueOf other = (if other = frame.connId then [frame] else []) ++
      (b.popped shelf frame rest).queueOf other := by
  rw [show (b.popped shelf frame rest).queueOf other = _ from
    queueOf_store (b.debit _ _) frame.connId other _]
  split
  · rename_i same
    rw [same, queueOf_found found, queue]
    rfl
  · rfl

theorem queueOf_returned (found : b.shelves frame.connId = some shelf) (other : ConnId) :
    (b.returned frame).queueOf other =
      (if other = frame.connId then [frame] else []) ++ b.queueOf other := by
  unfold returned
  rw [found]
  refine (queueOf_store (b.credit _ _) frame.connId other _).trans ?_
  split
  · rename_i same
    rw [same, queueOf_found found]
    rfl
  · rfl

theorem shedDrops_opened (b : Books) (connId : ConnId) : (b.opened connId).shedDrops = b.shedDrops := by
  unfold opened
  split <;> rfl

theorem shedDrops_returned (b : Books) (frame : QueuedFrame) :
    (b.returned frame).shedDrops = b.shedDrops := by
  unfold returned
  split <;> rfl

theorem shedDrops_removed (b : Books) (connId : ConnId) :
    (b.removed connId).shedDrops = b.shedDrops := by
  unfold removed
  split <;> rfl

theorem queueOf_removed (b : Books) (connId other : ConnId) :
    (b.removed connId).queueOf other = if other = connId then [] else b.queueOf other := by
  unfold removed
  split
  · rename_i absent
    split
    · rename_i same
      simp [queueOf, same, absent]
    · rfl
  · by_cases same : other = connId
    · subst same
      simp [queueOf, debit]
    · simp [queueOf, debit, same]

end Books

inductive FlowEvent
  | admitted (frame : QueuedFrame)
  | routed (frame : QueuedFrame)
  | shed (frame : QueuedFrame)
  | removed (connId : ConnId)

namespace FlowEvent

def connId : FlowEvent → ConnId
  | .admitted frame | .routed frame | .shed frame => frame.connId
  | .removed connId => connId

def isShed : FlowEvent → Bool
  | .shed _ => true
  | _ => false

def record (connId : ConnId) (log : List FlowEvent) (event : FlowEvent) : List FlowEvent :=
  if event.connId = connId then
    match event with
    | .removed _ => []
    | event => log ++ [event]
  else log

def since (connId : ConnId) (events : List FlowEvent) : List FlowEvent :=
  events.foldl (record connId) []

variable (log : List FlowEvent)

def admittedFrames : List QueuedFrame :=
  log.filterMap fun
    | .admitted frame => some frame
    | _ => none

def routedFrames : List QueuedFrame :=
  log.filterMap fun
    | .routed frame => some frame
    | _ => none

def shedFrames : List QueuedFrame :=
  log.filterMap fun
    | .shed frame => some frame
    | _ => none

-- The frames that have left the worker; the flag says whether their client got them.
def finished : List (QueuedFrame × Bool) :=
  log.filterMap fun
    | .routed frame => some (frame, true)
    | .shed frame => some (frame, false)
    | _ => none

theorem routedFrames_eq :
    ((finished log).filter (·.2)).map Prod.fst = routedFrames log := by
  induction log with
  | nil => rfl
  | cons event =>
    cases event <;> simp_all [finished, routedFrames]

theorem shedFrames_eq :
    ((finished log).filter (!·.2)).map Prod.fst = shedFrames log := by
  induction log with
  | nil => rfl
  | cons event =>
    cases event <;> simp_all [finished, shedFrames]

def Ordered (waiting : List QueuedFrame) : Prop :=
  admittedFrames log = (finished log).map Prod.fst ++ waiting

variable {log : List FlowEvent} {waiting : List QueuedFrame} {frame : QueuedFrame}

theorem Ordered.admitted (ordered : Ordered log waiting) :
    Ordered (log ++ [.admitted frame]) (waiting ++ [frame]) := by
  have entered : admittedFrames (log ++ [.admitted frame]) = admittedFrames log ++ [frame] := by
    simp [admittedFrames]
  have same : finished (log ++ [.admitted frame]) = finished log := by simp [finished]
  unfold Ordered at ordered ⊢
  rw [entered, same, ordered, List.append_assoc]

theorem Ordered.left {event : FlowEvent} (leaves : event = .routed frame ∨ event = .shed frame)
    (ordered : Ordered log (frame :: waiting)) : Ordered (log ++ [event]) waiting := by
  have same : admittedFrames (log ++ [event]) = admittedFrames log := by
    rcases leaves with rfl | rfl <;> simp [admittedFrames]
  have left : (finished (log ++ [event])).map Prod.fst = (finished log).map Prod.fst ++ [frame] := by
    rcases leaves with rfl | rfl <;> simp [finished]
  unfold Ordered at ordered ⊢
  rw [same, left, ordered, List.append_cons]

end FlowEvent

open FlowEvent

namespace Worker

def events (w : Worker) : Call → List FlowEvent
  | .enqueueData connId flags data now =>
    if (w.fairness.enqueueData connId flags data now).2 = .admitted then
      [.admitted ⟨connId, flags, data, now⟩]
    else []
  | .applyDispatchFeedback connId candidate feedback now =>
    (match feedback with
      | .routed => [.routed candidate.frame]
      | .queueFull => if w.fairness.sheds connId then [.shed candidate.frame] else []
      | .channelClosed | .noConn => []) ++
    if (w.fairness.applyDispatchFeedback connId candidate feedback now).2 = .closeFlow then
      [.removed connId]
    else []
  | .removeFlow connId => [.removed connId]
  | .nextDecision _ | .setBackpressureEnabled _ _ => []

def flying (w : Worker) (connId : ConnId) : List QueuedFrame :=
  match w.inFlight with
  | some candidate => if connId = candidate.frame.connId then [candidate.frame] else []
  | none => []

def waiting (w : Worker) (connId : ConnId) : List QueuedFrame :=
  w.flying connId ++ w.fairness.books.queueOf connId

end Worker

structure Traced where
  worker : Worker
  events : List FlowEvent := []

namespace Traced

def step (x : Traced) (call : Call) : Option Traced :=
  (x.worker.step call).map fun w => { worker := w, events := x.events ++ x.worker.events call }

structure Ordered (x : Traced) : Prop where
  sound : x.worker.fairness.books.Sound
  known : ∀ candidate, x.worker.inFlight = some candidate →
    ∃ shelf, x.worker.fairness.books.shelves candidate.frame.connId = some shelf
  flows : ∀ connId, FlowEvent.Ordered (since connId x.events) (x.worker.waiting connId)
  drops : x.worker.fairness.shedDrops = min (x.events.countP isShed) (2 ^ 64 - 1)

end Traced

namespace FlowEvent

theorem since_append (connId : ConnId) (events later : List FlowEvent) :
    since connId (events ++ later) = later.foldl (record connId) (since connId events) :=
  List.foldl_append

theorem Ordered.record_admitted {log : List FlowEvent} {queue : List QueuedFrame} {connId : ConnId}
    (ordered : Ordered log queue) (frame : QueuedFrame) :
    Ordered (record connId log (.admitted frame))
      (if connId = frame.connId then queue ++ [frame] else queue) := by
  unfold record
  by_cases same : connId = frame.connId
  · subst same
    simpa [FlowEvent.connId] using ordered.admitted
  · simpa [FlowEvent.connId, same, Ne.symm same] using ordered

theorem Ordered.record_left {log : List FlowEvent} {queue : List QueuedFrame} {connId : ConnId}
    {event : FlowEvent} {frame : QueuedFrame} (leaves : event = .routed frame ∨ event = .shed frame)
    (ordered : Ordered log ((if connId = frame.connId then [frame] else []) ++ queue)) :
    Ordered (record connId log event) queue := by
  by_cases same : connId = frame.connId
  · subst same
    rw [if_pos rfl] at ordered
    have left := Ordered.left leaves ordered
    rcases leaves with rfl | rfl <;> simpa [record, FlowEvent.connId] using left
  · rw [if_neg same] at ordered
    rcases leaves with rfl | rfl <;> simpa [record, FlowEvent.connId, Ne.symm same] using ordered

theorem since_removed (connId closed : ConnId) (events : List FlowEvent) :
    since connId (events ++ [.removed closed]) = if connId = closed then [] else since connId events := by
  rw [since_append]
  by_cases same : connId = closed
  · simp [record, FlowEvent.connId, same]
  · simp [record, FlowEvent.connId, same, Ne.symm same]

end FlowEvent

namespace Traced
variable {x : Traced}

theorem Ordered.queues (ordered : x.Ordered) (idle : x.worker.inFlight = none) (connId : ConnId) :
    FlowEvent.Ordered (since connId x.events) (x.worker.fairness.books.queueOf connId) := by
  have flow := ordered.flows connId
  simpa [Worker.waiting, Worker.flying, idle] using flow

theorem ordered_idle {s : WorkerFairnessState} {events : List FlowEvent} (sound : s.books.Sound)
    (flows : ∀ connId, FlowEvent.Ordered (since connId events) (s.books.queueOf connId))
    (drops : s.shedDrops = min (events.countP isShed) (2 ^ 64 - 1)) :
    Ordered { worker := { fairness := s }, events := events } where
  sound := sound
  known := by rintro candidate ⟨⟩
  flows := flows
  drops := drops

theorem ordered_removed {s : WorkerFairnessState} {events : List FlowEvent} {books : Books}
    {connId : ConnId} (sound : s.books.Sound) (removed : s.books = books.removed connId)
    (others : ∀ other, other ≠ connId →
      FlowEvent.Ordered (since other events) (books.queueOf other))
    (drops : books.shedDrops = min (events.countP isShed) (2 ^ 64 - 1)) :
    Ordered { worker := { fairness := s }, events := events ++ [.removed connId] } := by
  refine ordered_idle sound ?_ ?_
  · intro other
    rw [removed, Books.queueOf_removed, since_removed]
    by_cases same : other = connId
    · rw [if_pos same, if_pos same]
      rfl
    · rw [if_neg same, if_neg same]
      exact others other same
  · refine (congrArg Books.shedDrops removed).trans ((Books.shedDrops_removed _ _).trans ?_)
    rw [drops]
    simp [isShed]

theorem Ordered.enqueueData (ordered : x.Ordered) (idle : x.worker.inFlight = none) (connId : ConnId)
    (flags : UInt32) (data : Bytes) (now : Instant)
    (sound : (x.worker.fairness.enqueueData connId flags data now).1.books.Sound) :
    Ordered
      { worker := { fairness := (x.worker.fairness.enqueueData connId flags data now).1 }
        events := x.events ++ x.worker.events (.enqueueData connId flags data now) } := by
  have before := ordered.queues idle
  have drops : x.worker.fairness.books.shedDrops = _ := ordered.drops
  rw [Worker.events]
  rcases books_enqueueData x.worker.fairness connId flags data now with
    ⟨refused, same | ⟨_, opened⟩⟩ | ⟨admitted, shelf, found, _, pushed⟩
  · rw [if_neg refused, List.append_nil]
    refine ordered_idle sound ?_ ((congrArg Books.shedDrops same).trans drops)
    rw [same]
    exact before
  · rw [if_neg refused, List.append_nil]
    refine ordered_idle sound ?_ ?_
    · rw [opened]
      simpa using before
    · refine (congrArg Books.shedDrops opened).trans ((Books.shedDrops_opened _ _).trans drops)
  · rw [if_pos admitted]
    refine ordered_idle sound ?_ ?_
    · intro other
      rw [pushed, Books.queueOf_pushed found, Books.queueOf_opened, since_append]
      exact (before other).record_admitted ⟨connId, flags, data, now⟩
    · refine (congrArg Books.shedDrops pushed).trans ((Books.shedDrops_opened _ _).trans ?_)
      rw [drops]
      simp [isShed]

theorem Ordered.nextDecision (ordered : x.Ordered) (idle : x.worker.inFlight = none) (now : Instant)
    (sound : (x.worker.fairness.nextDecision now).1.books.Sound) :
    Ordered
      { worker :=
          { fairness := (x.worker.fairness.nextDecision now).1
            inFlight := (x.worker.fairness.nextDecision now).2.candidate? }
        events := x.events } := by
  have before := ordered.queues idle
  have drops : x.worker.fairness.books.shedDrops = _ := ordered.drops
  have served := books_nextDecision ordered.sound now
  generalize x.worker.fairness.nextDecision now = result at served sound
  obtain ⟨t, decision⟩ := result
  cases decision with
  | idle =>
    refine ordered_idle sound ?_ ((congrArg Books.shedDrops served).trans drops)
    rw [served]
    exact before
  | dispatch candidate =>
    obtain ⟨shelf, rest, found, queue, popped⟩ := served
    refine ⟨sound, ?_, ?_, (congrArg Books.shedDrops popped).trans drops⟩
    · rintro _ ⟨⟩
      have shelves : (x.worker.fairness.books.popped shelf candidate.frame rest).shelves
          candidate.frame.connId = some _ := Function.update_self _ _ _
      rw [← popped] at shelves
      exact ⟨_, shelves⟩
    · intro connId
      have flow := before connId
      rw [Books.queueOf_popped found queue] at flow
      simp only [Worker.waiting, Worker.flying, SchedulerDecision.candidate?]
      rw [popped]
      exact flow

section Feedback
variable {candidate : DispatchCandidate}

section
variable (ordered : x.Ordered) (flying : x.worker.inFlight = some candidate)
include ordered flying

theorem Ordered.flying_first (other : ConnId) :
    FlowEvent.Ordered (since other x.events)
      ((if other = candidate.frame.connId then [candidate.frame] else []) ++
        x.worker.fairness.books.queueOf other) := by
  have flow := ordered.flows other
  simp only [Worker.waiting, Worker.flying, flying] at flow
  exact flow

theorem Ordered.refused :
    let sheds := x.worker.fairness.sheds candidate.frame.connId
    let books := if sheds then x.worker.fairness.books.shed
      else x.worker.fairness.books.returned candidate.frame
    let events := x.events ++ if sheds then [FlowEvent.shed candidate.frame] else []
    (∀ other, FlowEvent.Ordered (since other events) (books.queueOf other)) ∧
      books.shedDrops = min (events.countP isShed) (2 ^ 64 - 1) := by
  obtain ⟨_, found⟩ := ordered.known candidate flying
  have drops : x.worker.fairness.books.shedDrops = _ := ordered.drops
  have before := ordered.flying_first flying
  intro sheds books events
  dsimp only [books, events]
  split
  · constructor
    · intro other
      rw [since_append]
      exact Ordered.record_left (.inr rfl) (before other)
    · simp only [Books.shed, drops, saturatingAdd, List.countP_append, List.countP_singleton, isShed,
        if_true]
      omega
  · rw [List.append_nil]
    constructor
    · intro other
      rw [Books.queueOf_returned found]
      exact before other
    · rw [Books.shedDrops_returned, drops]

theorem Ordered.feedback (feedback : DispatchFeedback) (now : Instant)
    (sound : (x.worker.fairness.applyDispatchFeedback candidate.frame.connId candidate feedback
      now).1.books.Sound) :
    Ordered
      { worker :=
          { fairness := (x.worker.fairness.applyDispatchFeedback candidate.frame.connId candidate
              feedback now).1 }
        events := x.events ++ x.worker.events
          (.applyDispatchFeedback candidate.frame.connId candidate feedback now) } := by
  have drops : x.worker.fairness.books.shedDrops = _ := ordered.drops
  have before := ordered.flying_first flying
  have apart (other : ConnId) (differs : other ≠ candidate.frame.connId) :
      FlowEvent.Ordered (since other x.events) (x.worker.fairness.books.queueOf other) := by
    have flow := before other
    rw [if_neg differs] at flow
    exact flow
  have settled := books_applyDispatchFeedback x.worker.fairness candidate feedback now
  dsimp only at settled
  cases feedback with
  | routed =>
    have stays : (x.worker.fairness.applyDispatchFeedback candidate.frame.connId candidate .routed
        now).2 ≠ .closeFlow := by simp [applyDispatchFeedback]
    rw [if_neg stays, if_neg (by simp)] at settled
    simp only [Worker.events, if_neg stays, List.append_nil]
    refine ordered_idle sound ?_ ?_
    · intro other
      rw [settled, since_append]
      exact Ordered.record_left (.inl rfl) (before other)
    · refine (congrArg Books.shedDrops settled).trans ?_
      rw [drops]
      simp [isShed]
  | queueFull =>
    have kept := ordered.refused flying
    simp only [Worker.events]
    split at settled
    · rename_i closes
      rw [if_pos closes, ← List.append_assoc]
      exact ordered_removed sound settled (fun other _ => kept.1 other) kept.2
    · rename_i stays
      rw [if_neg stays, List.append_nil]
      refine ordered_idle sound ?_ ((congrArg Books.shedDrops settled).trans kept.2)
      rw [settled]
      exact kept.1
  | channelClosed | noConn => exact ordered_removed sound settled apart drops

end

end Feedback

theorem Ordered.step {y : Traced} {call : Call} (ordered : x.Ordered) (stepped : x.step call = some y) :
    y.Ordered := by
  obtain ⟨w, moved, rfl⟩ := Option.map_eq_some_iff.mp stepped
  have sound : w.fairness.books.Sound := ordered.sound.moves (Worker.moves_step ordered.sound moved)
  cases call with
  | enqueueData connId flags data now =>
    obtain ⟨idle, rfl⟩ := Worker.whenIdle_eq_some.mp moved
    exact ordered.enqueueData idle connId flags data now sound
  | nextDecision now =>
    obtain ⟨idle, rfl⟩ := Worker.whenIdle_eq_some.mp moved
    rw [Worker.events, List.append_nil]
    exact ordered.nextDecision idle now sound
  | applyDispatchFeedback connId _ feedback now =>
    obtain ⟨⟨flying, rfl⟩, ⟨⟩⟩ := Option.ite_none_right_eq_some.mp moved
    exact ordered.feedback flying feedback now sound
  | removeFlow connId =>
    obtain ⟨idle, rfl⟩ := Worker.whenIdle_eq_some.mp moved
    exact ordered_removed sound (books_removeFlow x.worker.fairness connId)
      (fun other _ => ordered.queues idle other) ordered.drops
  | setBackpressureEnabled enabled now =>
    obtain ⟨idle, rfl⟩ := Worker.whenIdle_eq_some.mp moved
    have same := books_setBackpressureEnabled x.worker.fairness now enabled
    rw [Worker.events, List.append_nil]
    refine ordered_idle sound ?_ ((congrArg Books.shedDrops same).trans ordered.drops)
    rw [same]
    exact ordered.queues idle

def start (config : WorkerFairnessConfig) (now : Instant) : Traced where
  worker := Worker.start config now

theorem ordered_run {config : WorkerFairnessConfig} {now : Instant} {calls : List Call}
    (run : runFrom step (start config now) calls = some x) : x.Ordered := by
  have fresh : (start config now).Ordered :=
    ordered_idle (by rintro connId shelf ⟨⟩) (fun _ => rfl) rfl
  have free : Guarded step (fun _ _ => True) (start config now) calls :=
    guarded_of_mem (fun _ _ _ => trivial) _
  apply runFrom_invariant Ordered _ free fresh run
  intro x call y _ ordered stepped
  exact ordered.step stepped

end Traced

theorem flow_order_and_conservation (config : WorkerFairnessConfig) (now : Instant)
    (calls : List Call) (x : Traced) (run : runFrom Traced.step (Traced.start config now) calls = some x)
    (connId : ConnId) :
    let log := since connId x.events
    (∃ marked : List (QueuedFrame × Bool),
      marked.map Prod.fst = admittedFrames log ∧
      (marked.filter (·.2)).map Prod.fst =
        routedFrames log ++ (x.worker.flying connId ++
          ((x.worker.fairness.flows.lookup connId).map FlowEntry.queue).getD []) ∧
      (marked.filter (!·.2)).map Prod.fst = shedFrames log) ∧
    x.worker.fairness.shedDrops = min (x.events.countP isShed) (2 ^ 64 - 1) := by
  intro log
  have ordered := Traced.ordered_run run
  have flow : admittedFrames log = (finished log).map Prod.fst ++ x.worker.waiting connId :=
    ordered.flows connId
  have queue : x.worker.fairness.books.queueOf connId =
      ((x.worker.fairness.flows.lookup connId).map FlowEntry.queue).getD [] := by
    exact congrArg (·.getD []) (Option.map_map Shelf.queue FlowEntry.shelf _)
  refine ⟨⟨finished log ++ (x.worker.waiting connId).map (·, true), ?_, ?_, ?_⟩, ordered.drops⟩
  · simp [flow, Function.comp_def]
  · rw [List.filter_append, List.map_append, routedFrames_eq, ← queue]
    have all (frames : List QueuedFrame) :
        ((frames.map (·, true)).filter (·.2)).map Prod.fst = frames := by
      induction frames with
      | nil => rfl
      | cons _ _ ih => simp [ih]
    exact congrArg _ (all (x.worker.waiting connId))
  · rw [List.filter_append, List.map_append, shedFrames_eq]
    simp

def oneRoutedOneRefused : List Call :=
  [.enqueueData 1 0 [7] 0, .enqueueData 1 0 [8] 0, .nextDecision 0,
    .applyDispatchFeedback 1 ⟨⟨1, 0, [7], 0⟩, .normal, .healthy⟩ .routed 0, .nextDecision 0,
    .applyDispatchFeedback 1 ⟨⟨1, 0, [8], 0⟩, .normal, .healthy⟩ .queueFull 0]

theorem routed_then_refused :
    ∃ (x : Traced) (marked : List (QueuedFrame × Bool)),
      runFrom Traced.step (Traced.start {} 0) oneRoutedOneRefused = some x ∧
      marked.map Prod.fst = [⟨1, 0, [7], 0⟩, ⟨1, 0, [8], 0⟩] ∧
      (marked.filter (·.2)).map Prod.fst = [⟨1, 0, [7], 0⟩, ⟨1, 0, [8], 0⟩] ∧
      (marked.filter (!·.2)).map Prod.fst = [] ∧ x.worker.fairness.shedDrops = 0 := by
  have reached : (runFrom Traced.step (Traced.start {} 0) oneRoutedOneRefused).map (fun x =>
      (admittedFrames (since 1 x.events), routedFrames (since 1 x.events) ++ (x.worker.flying 1 ++
        ((x.worker.fairness.flows.lookup 1).map FlowEntry.queue).getD []),
        shedFrames (since 1 x.events), min (x.events.countP isShed) (2 ^ 64 - 1))) =
      some ([⟨1, 0, [7], 0⟩, ⟨1, 0, [8], 0⟩], [⟨1, 0, [7], 0⟩, ⟨1, 0, [8], 0⟩], [], 0) := by
    decide +kernel
  obtain ⟨x, run, seen⟩ := Option.map_eq_some_iff.mp reached
  simp only [Prod.mk.injEq] at seen
  obtain ⟨admitted, kept, shed, drops⟩ := seen
  obtain ⟨⟨marked, all, sent, refused⟩, counted⟩ :=
    flow_order_and_conservation {} 0 oneRoutedOneRefused x run 1
  exact ⟨x, marked, run, all.trans admitted, sent.trans kept, refused.trans shed,
    counted.trans drops⟩

end Telemt.Fairness
