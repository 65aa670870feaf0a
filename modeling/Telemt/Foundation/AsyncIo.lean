import Telemt.Foundation.Run
import Telemt.Foundation.Bytes

namespace Telemt.Foundation

/-!
# Streams that deliver in pieces

An upstream to read from is the list of what its polls will bring. One to write to answers each write
and keeps what it took.
-/

variable {ε β : Type*}

inductive Segment (ε : Type*)
  | pending
  | data (bytes : Bytes)
  | failure (error : ε)
  deriving DecidableEq, Repr

inductive ReadPoll (ε : Type*)
  | pending
  | ready (bytes : Bytes)
  | failed (error : ε)
  deriving DecidableEq, Repr

def pollSegments : List (Segment ε) → Nat → List (Segment ε) × ReadPoll ε
  | [], _ => ([], .ready [])
  | .pending :: rest, _ => (rest, .pending)
  | .failure error :: rest, _ => (rest, .failed error)
  | .data [] :: rest, room => pollSegments rest room
  | .data (b :: bytes) :: rest, room =>
    if (b :: bytes).length ≤ room then (rest, .ready (b :: bytes))
    else (.data ((b :: bytes).drop room) :: rest, .ready ((b :: bytes).take room))

def segmentBytes : List (Segment ε) → Bytes
  | [] => []
  | .pending :: rest => segmentBytes rest
  | .failure _ :: _ => []
  | .data bytes :: rest => bytes ++ segmentBytes rest

def segmentCount (segments : List (Segment ε)) : Nat :=
  (segments.map fun segment => match segment with | .data bytes => bytes.length | _ => 0).sum

def pendingCount (segments : List (Segment ε)) : Nat :=
  segments.countP fun segment => match segment with | .pending => true | _ => false

variable {segments rest : List (Segment ε)} {room : Nat}

theorem pollSegments_pending (polled : pollSegments segments room = (rest, .pending)) :
    segmentBytes rest = segmentBytes segments ∧ pendingCount rest + 1 = pendingCount segments := by
  induction segments with
  | nil => cases polled
  | cons segment _ ih =>
    cases segment with
    | pending =>
      cases polled
      exact ⟨rfl, by simp [pendingCount]⟩
    | failure => cases polled
    | data bytes =>
      cases bytes with
      | nil =>
        obtain ⟨same, fewer⟩ := ih polled
        refine ⟨same, ?_⟩
        rw [fewer]
        simp [pendingCount]
      | cons b =>
        rw [pollSegments] at polled
        split_ifs at polled <;> cases polled

theorem pollSegments_failed {error : ε}
    (polled : pollSegments segments room = (rest, .failed error)) : segmentBytes segments = [] := by
  induction segments with
  | nil => cases polled
  | cons segment _ ih =>
    cases segment with
    | pending => cases polled
    | failure => rfl
    | data bytes =>
      cases bytes with
      | nil => exact ih polled
      | cons b =>
        rw [pollSegments] at polled
        split_ifs at polled <;> cases polled

theorem pollSegments_ready {bytes : Bytes} (open_ : 0 < room)
    (polled : pollSegments segments room = (rest, .ready bytes)) :
    segmentBytes segments = bytes ++ segmentBytes rest ∧ bytes.length ≤ room ∧
      segmentCount rest + bytes.length = segmentCount segments ∧
      pendingCount rest = pendingCount segments ∧
      (bytes = [] → segmentBytes segments = []) := by
  induction segments with
  | nil =>
    cases polled
    exact ⟨rfl, Nat.zero_le _, rfl, rfl, fun _ => rfl⟩
  | cons segment segments ih =>
    cases segment with
    | pending | failure error => cases polled
    | data piece =>
      cases piece with
      | nil =>
        obtain ⟨same, fits, count, pendings, ended⟩ := ih polled
        refine ⟨same, fits, ?_, ?_, ended⟩
        · rw [count]
          simp [segmentCount]
        · rw [pendings]
          simp [pendingCount]
      | cons b piece =>
        rw [pollSegments] at polled
        split_ifs at polled with whole
        · cases polled
          refine ⟨rfl, whole, ?_, ?_, fun empty => by cases empty⟩
          · simp [segmentCount, Nat.add_comm]
          · simp [pendingCount]
        · cases polled
          refine ⟨?_, List.length_take_le _ _, ?_, ?_, ?_⟩
          · show (b :: piece) ++ segmentBytes segments =
              (b :: piece).take room ++ ((b :: piece).drop room ++ segmentBytes segments)
            rw [← List.append_assoc, List.take_append_drop]
          · have taken : ((b :: piece).take room).length = room :=
              List.length_take_of_le (Nat.le_of_not_le whole)
            have left : ((b :: piece).drop room).length = (b :: piece).length - room :=
              List.length_drop
            simp only [segmentCount, List.map_cons, List.sum_cons]
            omega
          · simp [pendingCount]
          · intro empty
            rw [List.take_eq_nil_iff] at empty
            rcases empty with closed | nothing
            · exact absurd closed open_.ne'
            · cases nothing

/-- A buffer that is read into until it holds `target` bytes, at most `chunk n` at a time while `n`
are missing. -/
structure Inbox (β : Type*) where
  target : Nat
  chunk : Nat → Nat
  contents : β → Bytes
  extend : β → Bytes → β
  chunk_pos : ∀ missing, 0 < missing → 0 < chunk missing
  chunk_le : ∀ missing, chunk missing ≤ missing
  contents_extend : ∀ buffer read, (contents buffer).length + read.length ≤ target →
    contents (extend buffer read) = contents buffer ++ read

inductive FillPoll (ε : Type*)
  | complete
  | pending
  | ended
  | failed (error : ε)
  deriving DecidableEq, Repr

section Fill
variable (inbox : Inbox β)

def fillTurn : List (Segment ε) × β →
    (List (Segment ε) × β) ⊕ (List (Segment ε) × β × FillPoll ε)
  | (segments, buffer) =>
    let missing := inbox.target - (inbox.contents buffer).length
    if missing = 0 then .inr (segments, buffer, .complete)
    else
      match pollSegments segments (inbox.chunk missing) with
      | (rest, .pending) => .inr (rest, buffer, .pending)
      | (rest, .failed error) => .inr (rest, buffer, .failed error)
      | (rest, .ready []) => .inr (rest, buffer, .ended)
      | (rest, .ready (b :: bytes)) => .inl (rest, inbox.extend buffer (b :: bytes))

def fill (segments : List (Segment ε)) (buffer : β) :
    Option (List (Segment ε) × β × FillPoll ε) :=
  loop (fun s => some (fillTurn inbox s))
    (inbox.target - (inbox.contents buffer).length + 1) (segments, buffer)

/-- The bytes of the buffer and of the stream behind it, taken together, stay as they were; a stream
that ends or fails first did not have the missing bytes. -/
def Filled (before : List (Segment ε) × β) : List (Segment ε) × β × FillPoll ε → Prop
  | (segments, buffer, .complete) =>
    (inbox.contents buffer).length = inbox.target ∧
    inbox.contents buffer ++ segmentBytes segments =
      inbox.contents before.2 ++ segmentBytes before.1 ∧
    segmentCount segments + inbox.target =
      segmentCount before.1 + (inbox.contents before.2).length ∧
    pendingCount segments = pendingCount before.1
  | (segments, buffer, .pending) =>
    (inbox.contents buffer).length < inbox.target ∧
    inbox.contents buffer ++ segmentBytes segments =
      inbox.contents before.2 ++ segmentBytes before.1 ∧
    pendingCount segments + 1 = pendingCount before.1
  | (_, _, .ended) =>
    (inbox.contents before.2 ++ segmentBytes before.1).length < inbox.target
  | (_, _, .failed _) =>
    (inbox.contents before.2 ++ segmentBytes before.1).length < inbox.target

variable {inbox}

theorem Filled.of_same {before between : List (Segment ε) × β}
    {after : List (Segment ε) × β × FillPoll ε}
    (joined : inbox.contents between.2 ++ segmentBytes between.1 =
      inbox.contents before.2 ++ segmentBytes before.1)
    (counted : segmentCount between.1 + (inbox.contents between.2).length =
      segmentCount before.1 + (inbox.contents before.2).length)
    (pendings : pendingCount between.1 = pendingCount before.1)
    (rest : Filled inbox between after) : Filled inbox before after := by
  obtain ⟨_, _, poll⟩ := after
  cases poll with
  | complete =>
    obtain ⟨full, same, count, pending⟩ := rest
    exact ⟨full, same.trans joined, count.trans counted, pending.trans pendings⟩
  | pending =>
    obtain ⟨short, same, pending⟩ := rest
    exact ⟨short, same.trans joined, pending.trans pendings⟩
  | ended | failed error =>
    show (inbox.contents before.2 ++ segmentBytes before.1).length < inbox.target
    rw [← joined]
    exact rest

theorem fill_spec {buffer : β} (fits : (inbox.contents buffer).length ≤ inbox.target) :
    ∃ after, fill inbox segments buffer = some after ∧ Filled inbox (segments, buffer) after := by
  refine loop_spec (fun s => inbox.target - (inbox.contents s.2).length)
    (fun s => (inbox.contents s.2).length ≤ inbox.target) (Filled inbox) ?_ fits (Nat.lt_succ_self _)
  rintro ⟨segments, buffer⟩ fits
  dsimp only at fits
  by_cases full : inbox.target - (inbox.contents buffer).length = 0
  · refine Or.inl ⟨_, congrArg some (if_pos full), ?_⟩
    have exactly : (inbox.contents buffer).length = inbox.target := by omega
    exact ⟨exactly, rfl, by rw [exactly], rfl⟩
  · have turn : fillTurn inbox (segments, buffer) = _ := if_neg full
    have room := inbox.chunk_pos _ (Nat.pos_of_ne_zero full)
    rcases polled : pollSegments segments
      (inbox.chunk (inbox.target - (inbox.contents buffer).length)) with ⟨rest, poll⟩
    rw [polled] at turn
    have short (ended : segmentBytes segments = []) :
        (inbox.contents buffer ++ segmentBytes segments).length < inbox.target := by
      rw [ended, List.append_nil]
      omega
    cases poll with
    | pending =>
      obtain ⟨same, pending⟩ := pollSegments_pending polled
      refine Or.inl ⟨_, congrArg some turn, ?_, congrArg _ same, pending⟩
      omega
    | failed => exact Or.inl ⟨_, congrArg some turn, short (pollSegments_failed polled)⟩
    | ready bytes =>
      obtain ⟨split, small, _, pendings, ended⟩ := pollSegments_ready room polled
      cases bytes with
      | nil => exact Or.inl ⟨_, congrArg some turn, short (ended rfl)⟩
      | cons b bytes =>
        have fewer := small.trans (inbox.chunk_le _)
        have extended := inbox.contents_extend buffer (b :: bytes) (by omega)
        have grown : (inbox.contents (inbox.extend buffer (b :: bytes))).length =
            (inbox.contents buffer).length + (b :: bytes).length := by
          rw [extended, List.length_append]
        have more : 0 < (b :: bytes).length := Nat.succ_pos _
        refine Or.inr ⟨_, congrArg some turn, ?_, ?_, ?_⟩
        · show (inbox.contents (inbox.extend buffer (b :: bytes))).length ≤ inbox.target
          omega
        · show inbox.target - (inbox.contents (inbox.extend buffer (b :: bytes))).length <
            inbox.target - (inbox.contents buffer).length
          omega
        · intro after
          refine Filled.of_same ?_ ?_ pendings
          · rw [extended, split, List.append_assoc]
          · show segmentCount rest + (inbox.contents (inbox.extend buffer (b :: bytes))).length =
              segmentCount segments + (inbox.contents buffer).length
            omega

end Fill

inductive WriteReply (ε : Type*)
  | pending
  | accepted (count : Nat)
  | failure (error : ε)
  deriving DecidableEq, Repr

inductive WritePoll (ε : Type*)
  | pending
  | ready (count : Nat)
  | failed (error : ε)
  deriving DecidableEq, Repr

/-- An upstream to write to: the answers it will give and what it has taken so far. Once the answers
are used up it is never ready again. -/
structure Sink (ε : Type*) where
  replies : List (WriteReply ε)
  delivered : Bytes := []
  deriving DecidableEq, Repr

def Sink.pollWrite (sink : Sink ε) (data : Bytes) : Sink ε × WritePoll ε :=
  match sink.replies with
  | [] => (sink, .pending)
  | .pending :: rest => (⟨rest, sink.delivered⟩, .pending)
  | .failure error :: rest => (⟨rest, sink.delivered⟩, .failed error)
  | .accepted count :: rest =>
    (⟨rest, sink.delivered ++ data.take count⟩, .ready (min count data.length))

def Took (delivered delivered' data : Bytes) : WritePoll ε → Prop
  | .pending => delivered' = delivered
  | .failed _ => delivered' = delivered
  | .ready count => delivered' = delivered ++ data.take count ∧ count ≤ data.length

variable {sink sink' : Sink ε}

theorem Sink.pollWrite_took {data : Bytes} {poll : WritePoll ε}
    (polled : sink.pollWrite data = (sink', poll)) :
    Took sink.delivered sink'.delivered data poll := by
  unfold Sink.pollWrite at polled
  split at polled
  · cases polled
    rfl
  · cases polled
    rfl
  · cases polled
    rfl
  · rename_i count rest _
    cases polled
    refine ⟨?_, Nat.min_le_right _ _⟩
    rw [← List.take_eq_take_min]

/-- A buffer of bytes still to be written, with what advancing over written bytes does to it. -/
structure Outbox (β : Type*) where
  pending : β → Bytes
  advance : β → Nat → β
  pending_advance : ∀ buffer count, pending (advance buffer count) = (pending buffer).drop count

inductive DrainPoll (ε : Type*)
  | complete
  | pending
  | failed (error : ε)
  deriving DecidableEq, Repr

variable (box : Outbox β) (zero : ε)

/-- One turn: a write of everything pending; an answer of zero bytes is the failure `zero`. -/
def drainTurn : Sink ε × β → (Sink ε × β) ⊕ (Sink ε × β × DrainPoll ε)
  | (sink, buffer) =>
    if box.pending buffer = [] then .inr (sink, buffer, .complete)
    else
      match sink.pollWrite (box.pending buffer) with
      | (sink', .pending) => .inr (sink', buffer, .pending)
      | (sink', .failed error) => .inr (sink', buffer, .failed error)
      | (sink', .ready 0) => .inr (sink', buffer, .failed zero)
      | (sink', .ready (count + 1)) => .inl (sink', box.advance buffer (count + 1))

def drain (sink : Sink ε) (buffer : β) : Option (Sink ε × β × DrainPoll ε) :=
  loop (fun s => some (drainTurn box zero s)) ((box.pending buffer).length + 1) (sink, buffer)

structure Drained (before : Sink ε × β) (after : Sink ε × β × DrainPoll ε) : Prop where
  moved : ∃ sent, after.1.delivered = before.1.delivered ++ sent ∧
    box.pending before.2 = sent ++ box.pending after.2.1
  empty_iff : box.pending after.2.1 = [] ↔ after.2.2 = .complete
  framed : ∀ inv : β → Prop, (∀ buffer count, inv buffer → inv (box.advance buffer count)) →
    inv before.2 → inv after.2.1

variable {box zero}

theorem Drained.stopped {buffer : β} {poll : DrainPoll ε} (same : sink'.delivered = sink.delivered)
    (ends : box.pending buffer = [] ↔ poll = .complete) :
    Drained box (sink, buffer) (sink', buffer, poll) where
  moved := ⟨[], by rw [same, List.append_nil], rfl⟩
  empty_iff := ends
  framed := fun _ _ held => held

theorem Drained.after_write {buffer : β} {count : Nat} {after : Sink ε × β × DrainPoll ε}
    (took : Took sink.delivered sink'.delivered (box.pending buffer) (.ready count : WritePoll ε))
    (rest : Drained box (sink', box.advance buffer count) after) :
    Drained box (sink, buffer) after where
  moved := by
    obtain ⟨sent, delivered, split⟩ := rest.moved
    refine ⟨(box.pending buffer).take count ++ sent, ?_, ?_⟩
    · rw [delivered, took.1, List.append_assoc]
    · rw [List.append_assoc, ← split, box.pending_advance, List.take_append_drop]
  empty_iff := rest.empty_iff
  framed := fun inv keep held => rest.framed inv keep (keep buffer count held)

theorem drain_spec (sink : Sink ε) (buffer : β) :
    ∃ after, drain box zero sink buffer = some after ∧ Drained box (sink, buffer) after := by
  refine loop_spec (fun s => (box.pending s.2).length) (fun _ => True) (Drained box) ?_ trivial
    (Nat.lt_succ_self _)
  rintro ⟨sink, buffer⟩ -
  by_cases empty : box.pending buffer = []
  · refine Or.inl ⟨_, congrArg some (if_pos empty), ?_⟩
    exact Drained.stopped rfl ⟨fun _ => rfl, fun _ => empty⟩
  · have turn : drainTurn box zero (sink, buffer) = _ := if_neg empty
    rcases polled : sink.pollWrite (box.pending buffer) with ⟨sink', poll⟩
    have took := Sink.pollWrite_took polled
    rw [polled] at turn
    cases poll with
    | pending | failed error =>
      refine Or.inl ⟨_, congrArg some turn, Drained.stopped took ?_⟩
      exact ⟨fun nothing => absurd nothing empty, fun impossible => by cases impossible⟩
    | ready count =>
      cases count with
      | zero =>
        refine Or.inl ⟨_, congrArg some turn, Drained.stopped ?_ ?_⟩
        · rw [took.1, List.take_zero, List.append_nil]
        · exact ⟨fun nothing => absurd nothing empty, fun impossible => by cases impossible⟩
      | succ count =>
        refine Or.inr ⟨_, congrArg some turn, trivial, ?_, fun _ => Drained.after_write took⟩
        show (box.pending (box.advance buffer (count + 1))).length < (box.pending buffer).length
        have some_left := List.length_pos_of_ne_nil empty
        rw [box.pending_advance, List.length_drop]
        omega

end Telemt.Foundation
