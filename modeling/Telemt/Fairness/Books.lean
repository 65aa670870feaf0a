import Telemt.Fairness.Admission

namespace Telemt.Fairness
open Foundation

/-! # The books of a scheduler -/

def queuedBytes (queue : List QueuedFrame) : Nat := (queue.map QueuedFrame.queuedBytes).sum

@[simp] theorem queuedBytes_nil : queuedBytes [] = 0 := rfl

@[simp] theorem queuedBytes_cons (frame : QueuedFrame) (queue : List QueuedFrame) :
    queuedBytes (frame :: queue) = frame.queuedBytes + queuedBytes queue := rfl

@[simp] theorem queuedBytes_append (first second : List QueuedFrame) :
    queuedBytes (first ++ second) = queuedBytes first + queuedBytes second := by
  simp [queuedBytes]

structure Shelf where
  bucketId : Nat
  pendingBytes : Nat
  queue : List QueuedFrame

def FlowEntry.shelf (flow : FlowEntry) : Shelf :=
  ⟨flow.fairness.bucketId, flow.fairness.pendingBytes, flow.queue⟩

structure Books where
  maxActiveFlows : Nat
  maxTotalQueuedBytes : Nat
  maxFlowQueuedBytes : Nat
  bucketCap : Nat
  shelves : ConnId → Option Shelf
  totalQueuedBytes : Nat
  bucketQueuedBytes : List Nat
  bucketActiveFlows : List Nat
  shedDrops : Nat

namespace Books
variable (b : Books)

def bucketFor (connId : ConnId) : Nat := connId % max b.bucketQueuedBytes.length 1

def store (connId : ConnId) (shelf : Shelf) : Books :=
  { b with shelves := Function.update b.shelves connId (some shelf) }

def credit (bucketId bytes : Nat) : Books :=
  { b with
    totalQueuedBytes := saturatingAdd 64 b.totalQueuedBytes bytes
    bucketQueuedBytes := b.bucketQueuedBytes.modify bucketId fun queued =>
      saturatingAdd 64 queued bytes }

def debit (bucketId bytes : Nat) : Books :=
  { b with
    totalQueuedBytes := b.totalQueuedBytes - bytes
    bucketQueuedBytes := b.bucketQueuedBytes.modify bucketId (· - bytes) }

def opened (connId : ConnId) : Books :=
  match b.shelves connId with
  | some _ => b
  | none =>
    { b.store connId ⟨b.bucketFor connId, 0, []⟩ with
      bucketActiveFlows := b.bucketActiveFlows.modify (b.bucketFor connId) (saturatingAdd 64 · 1) }

def pushed (shelf : Shelf) (frame : QueuedFrame) : Books :=
  (b.credit (b.bucketFor frame.connId) frame.queuedBytes).store frame.connId
    { shelf with
      pendingBytes := saturatingAdd 64 shelf.pendingBytes frame.queuedBytes
      queue := shelf.queue ++ [frame] }

def popped (shelf : Shelf) (frame : QueuedFrame) (rest : List QueuedFrame) : Books :=
  (b.debit shelf.bucketId frame.queuedBytes).store frame.connId
    { shelf with pendingBytes := shelf.pendingBytes - frame.queuedBytes, queue := rest }

def returned (frame : QueuedFrame) : Books :=
  match b.shelves frame.connId with
  | none => b
  | some shelf =>
    (b.credit shelf.bucketId frame.queuedBytes).store frame.connId
      { shelf with
        pendingBytes := saturatingAdd 64 shelf.pendingBytes frame.queuedBytes
        queue := frame :: shelf.queue }

def shed : Books := { b with shedDrops := saturatingAdd 64 b.shedDrops 1 }

def reclaimed (queue : List QueuedFrame) : Nat :=
  queue.foldl (fun sum frame => saturatingAdd 64 sum frame.queuedBytes) 0

def removed (connId : ConnId) : Books :=
  match b.shelves connId with
  | none => b
  | some shelf =>
    { b with
      shelves := Function.update b.shelves connId none
      bucketActiveFlows := b.bucketActiveFlows.modify shelf.bucketId (· - 1) }.debit
      shelf.bucketId (reclaimed shelf.queue)

theorem store_self {b : Books} {connId : ConnId} {shelf : Shelf}
    (found : b.shelves connId = some shelf) : b.store connId shelf = b := by
  unfold store
  rw [← found, Function.update_eq_self]

@[simp] theorem shelves_store (connId : ConnId) (shelf : Shelf) :
    (b.store connId shelf).shelves = Function.update b.shelves connId (some shelf) := rfl

theorem totalQueuedBytes_opened (connId : ConnId) :
    (b.opened connId).totalQueuedBytes = b.totalQueuedBytes := by
  unfold opened
  split <;> rfl

theorem bucketQueuedBytes_opened (connId : ConnId) :
    (b.opened connId).bucketQueuedBytes = b.bucketQueuedBytes := by
  unfold opened
  split <;> rfl

theorem bucketFor_opened (connId other : ConnId) :
    (b.opened connId).bucketFor other = b.bucketFor other := by
  unfold bucketFor
  rw [bucketQueuedBytes_opened]

structure ShelfOf (b : Books) (connId : ConnId) (shelf : Shelf) : Prop where
  bucket : shelf.bucketId = b.bucketFor connId
  pending : shelf.pendingBytes ≤ queuedBytes shelf.queue
  own : ∀ frame ∈ shelf.queue, frame.connId = connId

def Sound : Prop := ∀ connId shelf, b.shelves connId = some shelf → b.ShelfOf connId shelf

section Moves
variable {b b' : Books} {connId : ConnId} {shelf : Shelf} {frame : QueuedFrame}
  {rest : List QueuedFrame}

section
variable (sound : b.Sound)
include sound

theorem Sound.amend {entry : Option Shelf}
    (shelves : b'.shelves = Function.update b.shelves connId entry)
    (buckets : b'.bucketQueuedBytes.length = b.bucketQueuedBytes.length)
    (entered : ∀ shelf, entry = some shelf → b.ShelfOf connId shelf) : b'.Sound := by
  have sameBucket (other : ConnId) : b'.bucketFor other = b.bucketFor other := by
    unfold bucketFor
    rw [buckets]
  have moved {other : ConnId} {shelf : Shelf} (shelfOf : b.ShelfOf other shelf) :
      b'.ShelfOf other shelf :=
    ⟨shelfOf.bucket.trans (sameBucket other).symm, shelfOf.pending, shelfOf.own⟩
  intro other shelf found
  rw [shelves] at found
  by_cases same : other = connId
  · subst same
    rw [Function.update_self] at found
    exact moved (entered shelf found)
  · rw [Function.update_of_ne same] at found
    exact moved (sound other shelf found)

theorem Sound.opened (connId : ConnId) : (b.opened connId).Sound := by
  unfold Books.opened
  split
  · exact sound
  · let fresh : Shelf := ⟨b.bucketFor connId, 0, []⟩
    refine sound.amend (show _ = Function.update b.shelves connId (some fresh) from rfl) rfl ?_
    rintro _ ⟨⟩
    exact ⟨rfl, Nat.le_refl 0, by simp [fresh]⟩

theorem Sound.gained {bucket : Nat} {queue : List QueuedFrame}
    (found : b.shelves frame.connId = some shelf)
    (weighs : queuedBytes queue = queuedBytes shelf.queue + frame.queuedBytes)
    (members : ∀ other ∈ queue, other = frame ∨ other ∈ shelf.queue) :
    ((b.credit bucket frame.queuedBytes).store frame.connId
      ⟨shelf.bucketId, saturatingAdd 64 shelf.pendingBytes frame.queuedBytes, queue⟩).Sound := by
  have shelfOf := sound frame.connId shelf found
  apply @Sound.amend b _ frame.connId sound _ rfl (List.length_modify _ _ _)
  rintro _ ⟨⟩
  refine ⟨shelfOf.bucket, ?_, ?_⟩
  · have kept := shelfOf.pending
    have added := WorkerFairnessState.saturatingAdd_le 64 shelf.pendingBytes frame.queuedBytes
    exact weighs ▸ added.trans (Nat.add_le_add_right kept _)
  · intro other member
    rcases members other member with rfl | old
    · rfl
    · exact shelfOf.own other old

theorem Sound.pushed (found : b.shelves frame.connId = some shelf) :
    (b.pushed shelf frame).Sound :=
  sound.gained found (by simp) (by simp [or_comm])

theorem Sound.popped (found : b.shelves frame.connId = some shelf)
    (queue : shelf.queue = frame :: rest) : (b.popped shelf frame rest).Sound := by
  have shelfOf := sound frame.connId shelf found
  apply @Sound.amend b _ frame.connId sound _ rfl (List.length_modify _ _ _)
  rintro _ ⟨⟩
  refine ⟨shelfOf.bucket, ?_, fun other member => shelfOf.own other ?_⟩
  · have kept := shelfOf.pending
    rw [queue, queuedBytes_cons] at kept
    exact Nat.sub_le_of_le_add (Nat.add_comm _ _ ▸ kept)
  · rw [queue]
    exact List.mem_cons_of_mem frame member

theorem Sound.returned (frame : QueuedFrame) : (b.returned frame).Sound := by
  unfold Books.returned
  split
  · exact sound
  · next found => exact sound.gained found (Nat.add_comm _ _) (by simp)

theorem Sound.removed (connId : ConnId) : (b.removed connId).Sound := by
  unfold Books.removed
  split
  · exact sound
  · apply @Sound.amend b _ connId sound _ rfl (List.length_modify _ _ _)
    rintro _ ⟨⟩

theorem Sound.shed : b.shed.Sound := by
  intro connId shelf found
  have shelfOf := sound connId shelf found
  exact ⟨shelfOf.bucket, shelfOf.pending, shelfOf.own⟩

end

/-- All that the scheduler ever does to its books. -/
inductive Move (b : Books) : Books → Prop
  | opened (connId : ConnId) : Move b (b.opened connId)
  | pushed {shelf : Shelf} {frame : QueuedFrame} (found : b.shelves frame.connId = some shelf) :
      Move b (b.pushed shelf frame)
  | popped {shelf : Shelf} {frame : QueuedFrame} {rest : List QueuedFrame}
      (found : b.shelves frame.connId = some shelf) (queue : shelf.queue = frame :: rest) :
      Move b (b.popped shelf frame rest)
  | returned (frame : QueuedFrame) : Move b (b.returned frame)
  | shed : Move b b.shed
  | removed (connId : ConnId) : Move b (b.removed connId)

abbrev Moves : Books → Books → Prop := Relation.ReflTransGen Move

theorem Sound.moves (sound : b.Sound) (moves : b.Moves b') : b'.Sound := by
  induction moves with
  | refl => exact sound
  | tail _ move ih =>
    cases move with
    | opened connId => exact ih.opened connId
    | pushed found => exact ih.pushed found
    | popped found queue => exact ih.popped found queue
    | returned frame => exact ih.returned frame
    | shed => exact ih.shed
    | removed connId => exact ih.removed connId

def limits (b : Books) : Nat × Nat × Nat × Nat :=
  (b.maxActiveFlows, b.maxTotalQueuedBytes, b.maxFlowQueuedBytes, b.bucketCap)

theorem limits_eq (same : b'.limits = b.limits) :
    b'.maxActiveFlows = b.maxActiveFlows ∧ b'.maxTotalQueuedBytes = b.maxTotalQueuedBytes ∧
      b'.maxFlowQueuedBytes = b.maxFlowQueuedBytes ∧ b'.bucketCap = b.bucketCap := by
  simpa [limits] using same

theorem limits_moves (moves : b.Moves b') : b'.limits = b.limits := by
  induction moves with
  | refl => rfl
  | tail _ move ih =>
    rw [← ih]
    cases move with
    | opened connId =>
      unfold Books.opened
      split <;> rfl
    | pushed | popped | shed => rfl
    | returned =>
      unfold Books.returned
      split <;> rfl
    | removed =>
      unfold Books.removed
      split <;> rfl

end Moves

end Books

namespace WorkerFairnessState

def books (s : WorkerFairnessState) : Books where
  maxActiveFlows := s.config.maxActiveFlows
  maxTotalQueuedBytes := s.config.maxTotalQueuedBytes
  maxFlowQueuedBytes := s.config.maxFlowQueuedBytes
  bucketCap := bucketCap s.config
  shelves connId := (s.flows.lookup connId).map FlowEntry.shelf
  totalQueuedBytes := s.totalQueuedBytes
  bucketQueuedBytes := s.bucketQueuedBytes
  bucketActiveFlows := s.bucketActiveFlows
  shedDrops := s.shedDrops

section Quiet
variable (s : WorkerFairnessState) (connId : ConnId) (now : Instant)

theorem shelves_of_lookup {s : WorkerFairnessState} {connId : ConnId} {flow : FlowEntry}
    (found : s.flows.lookup connId = some flow) : s.books.shelves connId = some flow.shelf :=
  congrArg (Option.map FlowEntry.shelf) found

@[simp] theorem books_evaluatePressure (force : Bool) :
    (s.evaluatePressure now force).books = s.books := rfl

@[simp] theorem books_applyFlowMembershipDelta (before after : Bool × Bool) :
    (s.applyFlowMembershipDelta before after).books = s.books := rfl

@[simp] theorem books_addBucketBytes (bucketId bytes : Nat) :
    (s.addBucketBytes bucketId bytes).books = s.books.credit bucketId bytes := rfl

@[simp] theorem books_subBytes (bucketId bytes : Nat) :
    (s.subBytes bucketId bytes).books = s.books.debit bucketId bytes := rfl

@[simp] theorem books_enqueueActiveConn : (s.enqueueActiveConn connId).books = s.books := by
  unfold enqueueActiveConn
  split <;> rfl

@[simp] theorem books_noteStall : (s.noteStall now).books = s.books := by
  unfold noteStall
  split <;> rfl

@[simp] theorem books_setBackpressureEnabled (enabled : Bool) :
    (s.setBackpressureEnabled enabled now).books = s.books := by
  unfold setBackpressureEnabled
  split <;> rfl

@[simp] theorem books_setFlow (flow : FlowEntry) :
    (s.setFlow connId flow).books = s.books.store connId flow.shelf := by
  have shelves : (s.setFlow connId flow).books.shelves =
      Function.update s.books.shelves connId (some flow.shelf) := by
    funext other
    by_cases same : other = connId
    · subst same
      simp [books]
    · simp [books, Dict.lookup_insert_ite, same]
  unfold Books.store
  rw [← shelves]
  rfl

@[simp] theorem bucketFor_books : s.books.bucketFor connId = s.bucketFor connId := rfl

end Quiet

variable (s : WorkerFairnessState) (config : WorkerFairnessConfig) (state : PressureState)
  (now : Instant) (fairness : FlowFairnessState)

@[simp] theorem bucketId_classifyFlow :
    (classifyFlow config state now fairness).bucketId = fairness.bucketId := rfl

@[simp] theorem pendingBytes_classifyFlow :
    (classifyFlow config state now fairness).pendingBytes = fairness.pendingBytes := rfl

theorem books_openFlow (connId : ConnId) (frameWeight : Nat) :
    (s.openFlow connId (s.bucketFor connId) frameWeight).1.books = s.books.opened connId ∧
      (s.books.opened connId).shelves connId =
        some (s.openFlow connId (s.bucketFor connId) frameWeight).2.shelf := by
  unfold openFlow
  cases found : s.flows.lookup connId with
  | some =>
    have shelf := shelves_of_lookup found
    simp [Books.opened, shelf]
  | none =>
    have empty : s.books.shelves connId = none := congrArg (Option.map FlowEntry.shelf) found
    have stored := books_setFlow s connId
      { fairness := FlowFairnessState.new (s.bucketFor connId) frameWeight }
    unfold Books.opened
    rw [empty]
    constructor
    · exact congrArg (fun b : Books => { b with
        bucketActiveFlows := s.bucketActiveFlows.modify (s.bucketFor connId) (saturatingAdd 64 · 1) })
        stored
    · simp [FlowEntry.shelf, FlowFairnessState.new]

theorem books_admitFrame (flow : FlowEntry) (frame : QueuedFrame) (now : Instant) :
    (s.admitFrame frame.connId (s.bucketFor frame.connId) flow frame now).books =
      s.books.pushed flow.shelf frame := by
  unfold admitFrame Books.pushed
  split <;> simp [FlowEntry.shelf]

structure Fits (s : WorkerFairnessState) (frame : QueuedFrame) (shelf : Shelf) : Prop where
  flows : frame.connId ∈ s.flows ∨ Dict.size s.flows < s.config.maxActiveFlows
  total : saturatingAdd 64 s.totalQueuedBytes frame.queuedBytes ≤ s.config.maxTotalQueuedBytes
  bucket : saturatingAdd 64 (s.bucketQueuedBytes.getD (s.bucketFor frame.connId) 0)
    frame.queuedBytes ≤ bucketCap s.config
  flow : saturatingAdd 64 shelf.pendingBytes frame.queuedBytes ≤ s.config.maxFlowQueuedBytes

theorem books_enqueueData (connId : ConnId) (flags : UInt32) (data : Bytes) (now : Instant) :
    let frame : QueuedFrame := ⟨connId, flags, data, now⟩
    let result := s.enqueueData connId flags data now
    (result.2 ≠ .admitted ∧
        (result.1.books = s.books ∨
          (connId ∈ s.flows ∨ Dict.size s.flows < s.config.maxActiveFlows) ∧
            result.1.books = s.books.opened connId)) ∨
      (result.2 = .admitted ∧ ∃ shelf, (s.books.opened connId).shelves connId = some shelf ∧
        s.Fits frame shelf ∧ result.1.books = (s.books.opened connId).pushed shelf frame) := by
  intro frame result
  let weight := weightForFlags s.config flags
  let entered := s.openFlow connId (s.bucketFor connId) weight
  obtain ⟨openedBooks, shelf⟩ : entered.1.books = s.books.opened connId ∧ _ :=
    books_openFlow s connId weight
  let entry : FlowEntry := { entered.2 with
    fairness := { entered.2.fairness with
      weightQuanta := max entered.2.fairness.weightQuanta weight } }
  have enteredBooks : (entered.1.setFlow connId entry).books = s.books.opened connId := by
    rw [books_setFlow, openedBooks]
    exact Books.store_self shelf
  have sameCap : (entered.1.setFlow connId entry).config.maxFlowQueuedBytes =
      s.config.maxFlowQueuedBytes := by
    obtain ⟨_, _, maxFlow, _⟩ := Books.limits_eq (Books.limits_moves (.single (.opened connId)))
    exact (congrArg Books.maxFlowQueuedBytes enteredBooks).trans maxFlow
  have sameBucket : (entered.1.setFlow connId entry).bucketFor connId = s.bucketFor connId := by
    rw [← bucketFor_books, enteredBooks, Books.bucketFor_opened, bucketFor_books]
  have room (free : ¬ (connId ∉ s.flows ∧ s.config.maxActiveFlows ≤ Dict.size s.flows)) :
      connId ∈ s.flows ∨ Dict.size s.flows < s.config.maxActiveFlows := by
    rw [not_and_or, not_not, Nat.not_le] at free
    exact free
  have described : result = s.enqueueData connId flags data now := rfl
  clear_value result
  unfold enqueueData at described
  dsimp only at described
  split_ifs at described with saturated worker flows bucket flow standing <;> subst described
  · exact .inl ⟨by simp, .inl rfl⟩
  · exact .inl ⟨by simp [rejectWith], .inl rfl⟩
  · exact .inl ⟨by simp [rejectWith], .inl rfl⟩
  · exact .inl ⟨by simp [rejectWith], .inl rfl⟩
  · exact .inl ⟨by simp [rejectWith], .inr ⟨room flows, enteredBooks⟩⟩
  · exact .inl ⟨by simp [rejectWith], .inr ⟨room flows, enteredBooks⟩⟩
  · refine .inr ⟨rfl, entry.shelf, shelf, ⟨room flows, Nat.not_lt.mp worker, Nat.not_lt.mp bucket, ?_⟩,
      ?_⟩
    · rw [← sameCap]
      exact Nat.not_lt.mp flow
    · rw [← enteredBooks, ← books_admitFrame, sameBucket]

theorem shelf_takeTurn (front : QueuedFrame) (rest : List QueuedFrame) :
    let turn := takeTurn config state now fairness front rest
    (turn.2 = none ∧ turn.1.shelf = ⟨fairness.bucketId, fairness.pendingBytes, front :: rest⟩) ∨
      (turn.2 = some front ∧
        turn.1.shelf = ⟨fairness.bucketId, fairness.pendingBytes - front.queuedBytes, rest⟩) := by
  intro turn
  have described : turn = takeTurn config state now fairness front rest := rfl
  clear_value turn
  unfold takeTurn at described
  dsimp only at described
  split_ifs at described <;> subst described
  · exact .inl ⟨rfl, rfl⟩
  · exact .inr ⟨rfl, rfl⟩
  · exact .inr ⟨rfl, rfl⟩

theorem books_serveFlow {s : WorkerFairnessState} {connId : ConnId} {flow : FlowEntry}
    (found : s.flows.lookup connId = some flow) (shelfOf : s.books.ShelfOf connId flow.shelf)
    (now : Instant) :
    let result := s.serveFlow now connId flow
    (result.2 = none ∧ result.1.books = s.books) ∨
      ∃ candidate rest, result.2 = some candidate ∧ candidate.frame.connId = connId ∧
        flow.queue = candidate.frame :: rest ∧
        result.1.books = s.books.popped flow.shelf candidate.frame rest := by
  have stored := Books.store_self (shelves_of_lookup found)
  intro result
  have described : result = s.serveFlow now connId flow := rfl
  clear_value result
  unfold serveFlow at described
  dsimp only at described
  split at described
  · rename_i empty
    subst described
    -- A flow without frames has nothing pending, so writing zero leaves its shelf as it was.
    have nothing : flow.fairness.pendingBytes = 0 := by
      have pending : flow.fairness.pendingBytes ≤ queuedBytes flow.queue := shelfOf.pending
      rw [empty] at pending
      exact Nat.le_zero.mp pending
    refine .inl ⟨rfl, ?_⟩
    rw [books_applyFlowMembershipDelta, books_setFlow]
    rw [← nothing]
    exact stored
  · rename_i front rest queue
    have own : front.connId = connId := shelfOf.own front (by simp [FlowEntry.shelf, queue])
    let turn := takeTurn s.config s.pressure.state now flow.fairness front rest
    rcases shelf_takeTurn s.config s.pressure.state now flow.fairness front rest with
      ⟨kept, shelf⟩ | ⟨sent, shelf⟩
    · rw [kept] at described
      subst described
      refine .inl ⟨rfl, ?_⟩
      rw [books_enqueueActiveConn]
      change (s.setFlow connId turn.1).books = s.books
      rw [books_setFlow, shelf, ← queue]
      exact stored
    · rw [sent] at described
      subst described
      refine .inr ⟨_, rest, rfl, own, queue, ?_⟩
      have served : ((s.setFlow connId turn.1).subBytes flow.fairness.bucketId
          front.queuedBytes).books = s.books.popped flow.shelf front rest := by
        rw [books_subBytes, books_setFlow, shelf]
        subst own
        rfl
      dsimp only
      split
      · exact served
      · rw [books_enqueueActiveConn]
        exact served

end WorkerFairnessState

def Books.Served (before after : Books) : SchedulerDecision → Prop
  | .idle => after = before
  | .dispatch candidate => ∃ shelf rest,
      before.shelves candidate.frame.connId = some shelf ∧ shelf.queue = candidate.frame :: rest ∧
        after = before.popped shelf candidate.frame rest

namespace WorkerFairnessState
variable {s : WorkerFairnessState}

theorem books_serveRing (turns : Nat) (sound : s.books.Sound) (now : Instant) :
    s.books.Served (serveRing turns s now).1.books (serveRing turns s now).2 := by
  induction turns generalizing s with
  | zero => rfl
  | succ _ ih =>
    unfold serveRing
    split
    · rfl
    · rename_i connId ring _
      dsimp only
      split
      · exact @ih { s with activeRing := ring } sound
      · let popped := { s with
          activeRing := ring, activeRingMembers := s.activeRingMembers.erase connId }
        split
        · exact @ih popped sound
        · rename_i flow found
          have shelf : popped.books.shelves connId = some flow.shelf := shelves_of_lookup found
          have asked := books_serveFlow (s := popped) found (sound connId _ shelf) now
          split
          · rename_i served nothing
            rw [nothing] at asked
            obtain ⟨_, same⟩ | ⟨_, _, sent, _⟩ := asked
            · have later := @ih served (by rw [same]; exact sound)
              rw [same] at later
              exact later
            · cases sent
          · rename_i served candidate dispatched
            rw [dispatched] at asked
            obtain ⟨none, _⟩ | ⟨_, rest, sent, own, queue, books⟩ := asked
            · cases none
            · cases sent
              exact ⟨flow.shelf, rest, own ▸ shelf, queue, books⟩

theorem books_nextDecision (sound : s.books.Sound) (now : Instant) :
    s.books.Served (s.nextDecision now).1.books (s.nextDecision now).2 := by
  let noted := { s with schedulerRounds := saturatingAdd 64 s.schedulerRounds 1 }.evaluatePressure now
    false
  exact books_serveRing (s := noted) noted.activeRing.length sound now

theorem books_removeFlow (s : WorkerFairnessState) (connId : ConnId) :
    (s.removeFlow connId).books = s.books.removed connId := by
  unfold removeFlow Books.removed
  cases found : s.flows.lookup connId with
  | none =>
    have empty : s.books.shelves connId = none := congrArg (Option.map FlowEntry.shelf) found
    rw [empty]
  | some =>
    rw [shelves_of_lookup found]
    have shelves : (fun other => ((s.flows.erase connId).lookup other).map FlowEntry.shelf) =
        Function.update s.books.shelves connId none := by
      funext other
      by_cases same : other = connId
      · subst same
        simp
      · simp [books, same]
    rw [← shelves]
    rfl

theorem books_feedbackRouted (s : WorkerFairnessState) (connId : ConnId)
    (candidate : DispatchCandidate) (now : Instant) :
    (s.feedbackRouted connId candidate now).books = s.books := by
  unfold feedbackRouted
  split
  · rfl
  · rename_i flow found
    have stored : s.books.store connId flow.shelf = s.books :=
      Books.store_self (shelves_of_lookup found)
    rw [books_applyFlowMembershipDelta, books_setFlow]
    exact stored

/-- A client that refuses a frame now makes the scheduler drop it. -/
def sheds (s : WorkerFairnessState) (connId : ConnId) : Bool :=
  match s.flows.lookup connId with
  | none => false
  | some flow => shouldShedFrame s.config s.pressure.state (stalled s.config flow.fairness)

section
variable (s : WorkerFairnessState) (connId : ConnId) (candidate : DispatchCandidate)
  (feedback : DispatchFeedback) (now : Instant)

theorem pressure_noteStall :
    (s.noteStall now).pressure.state = s.pressure.state ∧ (s.noteStall now).config = s.config := by
  unfold noteStall
  split
  · refine ⟨?_, rfl⟩
    change (PressureEvaluator.rotateWindowIfNeeded _ now _).state = s.pressure.state
    unfold PressureEvaluator.rotateWindowIfNeeded
    split <;> rfl
  · exact ⟨rfl, rfl⟩

@[simp] theorem shelf_stalled (config : WorkerFairnessConfig) (fairness : FlowFairnessState) :
    (stalled config fairness).bucketId = fairness.bucketId ∧
      (stalled config fairness).pendingBytes = fairness.pendingBytes := by
  unfold stalled
  split <;> exact ⟨rfl, rfl⟩

theorem sheds_noteStall : (s.noteStall now).sheds connId = s.sheds connId := by
  obtain ⟨sameState, sameConfig⟩ := pressure_noteStall s now
  unfold sheds
  rw [flows_noteStall, sameState, sameConfig]

theorem books_feedbackQueueFull : let connId := candidate.frame.connId
    let result := s.feedbackQueueFull connId candidate now
    let kept := if s.sheds connId then s.books.shed else s.books.returned candidate.frame
    result.1.books = if result.2 = .closeFlow then kept.removed connId else kept := by
  intro connId result kept
  have closes (u : WorkerFairnessState) (close : Bool) (same : u.books = kept)
      (described : result = if close then ((u.removeFlow connId).evaluatePressure now true, .closeFlow)
        else (u.evaluatePressure now true, .continue)) :
      result.1.books = if result.2 = .closeFlow then kept.removed connId else kept := by
    rw [described, ← same]
    cases close
    · rfl
    · exact books_removeFlow u connId
  have described : result = s.feedbackQueueFull connId candidate now := rfl
  clear_value result
  unfold feedbackQueueFull at described
  dsimp only at described
  have kept_eq : kept = if (s.noteStall now).sheds connId then (s.noteStall now).books.shed
      else (s.noteStall now).books.returned candidate.frame := by
    rw [sheds_noteStall, books_noteStall]
  clear_value kept
  generalize s.noteStall now = s at described kept_eq
  cases found : s.flows.lookup connId with
  | none =>
    have empty : s.books.shelves connId = none := congrArg (Option.map FlowEntry.shelf) found
    subst described
    simp [kept_eq, sheds, found, Books.returned, empty, connId]
  | some flow =>
    have shelf := shelves_of_lookup found
    obtain ⟨bucket, pending⟩ := shelf_stalled s.config flow.fairness
    have shedding : shouldShedFrame s.config s.pressure.state (stalled s.config flow.fairness) =
        s.sheds connId := by
      simp [sheds, found]
    rw [found] at described
    apply closes _ _ _ described
    rw [books_applyFlowMembershipDelta, shedding, kept_eq]
    cases s.sheds connId
    · have entered : ((s.addBucketBytes flow.fairness.bucketId candidate.frame.queuedBytes).setFlow
          connId ⟨classifyFlow s.config s.pressure.state now { stalled s.config flow.fairness with
            pendingBytes := saturatingAdd 64 (stalled s.config flow.fairness).pendingBytes
              candidate.frame.queuedBytes
            queueStartedAt := some candidate.frame.enqueuedAt
            inActiveRing := true }, candidate.frame :: flow.queue⟩).books =
          s.books.returned candidate.frame := by
        simp only [Books.returned, shelf, connId, books_setFlow, books_addBucketBytes,
          FlowEntry.shelf, bucketId_classifyFlow, pendingBytes_classifyFlow, bucket, pending]
      split
      · exact entered
      · rw [books_enqueueActiveConn]
        exact entered
    · have same : FlowEntry.shelf ⟨classifyFlow s.config s.pressure.state now
          (stalled s.config flow.fairness), flow.queue⟩ = flow.shelf := by
        simp only [FlowEntry.shelf, bucketId_classifyFlow, pendingBytes_classifyFlow, bucket, pending]
      simp only [if_true, true_or]
      rw [books_setFlow, same]
      exact Books.store_self (b := s.books.shed) shelf

theorem books_applyDispatchFeedback (now : Instant) : let connId := candidate.frame.connId
    let result := s.applyDispatchFeedback connId candidate feedback now
    let kept := if feedback = .queueFull then
        if s.sheds connId then s.books.shed else s.books.returned candidate.frame
      else s.books
    result.1.books = if result.2 = .closeFlow then kept.removed connId else kept := by
  cases feedback with
  | routed => exact books_feedbackRouted s _ candidate now
  | queueFull => exact books_feedbackQueueFull s candidate now
  | channelClosed | noConn => exact books_removeFlow s _

theorem moves_enqueueData (flags : UInt32) (data : Bytes) (now : Instant) :
    s.books.Moves (s.enqueueData connId flags data now).1.books := by
  rcases books_enqueueData s connId flags data now with
    ⟨_, same | ⟨_, opened⟩⟩ | ⟨_, shelf, found, _, pushed⟩
  · rw [same]
  · rw [opened]
    exact .single (.opened connId)
  · rw [pushed]
    exact .tail (.single (.opened connId)) (.pushed found)

theorem moves_nextDecision {s : WorkerFairnessState} (sound : s.books.Sound) (now : Instant) :
    s.books.Moves (s.nextDecision now).1.books := by
  have served := books_nextDecision sound now
  cases decided : (s.nextDecision now).2 with
  | idle =>
    rw [decided] at served
    rw [served]
  | dispatch =>
    rw [decided] at served
    obtain ⟨_, _, found, queue, popped⟩ := served
    rw [popped]
    exact .single (.popped found queue)

theorem moves_applyDispatchFeedback (now : Instant) :
    s.books.Moves
      (s.applyDispatchFeedback candidate.frame.connId candidate feedback now).1.books := by
  have kept : s.books.Moves (if feedback = .queueFull then
      if s.sheds candidate.frame.connId then s.books.shed else s.books.returned candidate.frame
      else s.books) := by
    split_ifs
    · exact .single .shed
    · exact .single (.returned candidate.frame)
    · exact .refl
  rw [books_applyDispatchFeedback s candidate feedback now]
  split
  · exact .tail kept (.removed _)
  · exact kept

theorem moves_removeFlow : s.books.Moves (s.removeFlow connId).books := by
  rw [books_removeFlow]
  exact .single (.removed connId)

end

end WorkerFairnessState

end Telemt.Fairness
