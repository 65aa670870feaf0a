import Telemt.Foundation.AsyncIo

namespace Telemt.Stream
open Foundation

/-!
# Buffers of the stream state machines

The buffers of `stream/state.rs` and the error values their users return.
-/

inductive ErrorKind
  | invalidData
  | unexpectedEof
  | writeZero
  | wouldBlock
  | other
  | upstream (code : Nat)
  deriving DecidableEq, Repr

structure IoError where
  kind : ErrorKind
  message : String
  deriving DecidableEq, Repr

def IoError.poisoned : IoError := ⟨.other, "stream previously poisoned"⟩

def IoError.zeroWritten : IoError := ⟨.writeZero, "upstream returned 0 bytes written"⟩

structure HeaderBuffer (size : Nat) where
  filled : Bytes
  bounded : filled.length ≤ size

namespace HeaderBuffer
variable {size : Nat}

def new : HeaderBuffer size := ⟨[], Nat.zero_le _⟩

def advance (header : HeaderBuffer size) (read : Bytes) : HeaderBuffer size :=
  ⟨(header.filled ++ read).take size, List.length_take_le _ _⟩

theorem filled_advance (header : HeaderBuffer size) (read : Bytes)
    (fits : header.filled.length + read.length ≤ size) :
    (header.advance read).filled = header.filled ++ read :=
  List.take_of_length_le (by rw [List.length_append]; exact fits)

def inbox (size : Nat) : Inbox (HeaderBuffer size) where
  target := size
  chunk := id
  contents := filled
  extend := advance
  chunk_pos := fun _ missing => missing
  chunk_le := fun _ => le_rfl
  contents_extend := filled_advance

end HeaderBuffer

structure YieldBuffer where
  data : Bytes
  position : Nat := 0

namespace YieldBuffer
variable (buffer : YieldBuffer)

def asSlice : Bytes := buffer.data.drop buffer.position

def isEmpty : Bool := buffer.data.length ≤ buffer.position

def remaining : Nat := buffer.data.length - buffer.position

def copyTo (room : Nat) : YieldBuffer × Bytes :=
  let toCopy := min buffer.asSlice.length room
  (⟨buffer.data, buffer.position + toCopy⟩, buffer.asSlice.take toCopy)

theorem isEmpty_iff {buffer : YieldBuffer} : buffer.isEmpty = true ↔ buffer.asSlice = [] := by
  rw [isEmpty, decide_eq_true_iff, asSlice, List.drop_eq_nil_iff]

theorem remaining_eq : buffer.remaining = buffer.asSlice.length :=
  List.length_drop.symm

theorem copyTo_spec (room : Nat) :
    (buffer.copyTo room).2 = buffer.asSlice.take room ∧
      (buffer.copyTo room).1.asSlice = buffer.asSlice.drop room := by
  have same : buffer.asSlice.take (min buffer.asSlice.length room) = buffer.asSlice.take room := by
    rw [Nat.min_comm, ← List.take_eq_take_min]
  refine ⟨same, ?_⟩
  show buffer.data.drop (buffer.position + min buffer.asSlice.length room) = _
  rw [← List.drop_drop]
  show buffer.asSlice.drop (min buffer.asSlice.length room) = _
  rw [Nat.min_comm, ← List.drop_eq_drop_min]

end YieldBuffer

structure WriteBuffer where
  buffer : Bytes
  position : Nat
  maxSize : Nat

namespace WriteBuffer

def withMaxSize (maxSize : Nat) : WriteBuffer := ⟨[], 0, maxSize⟩

variable (w : WriteBuffer)

def isEmpty : Bool := w.buffer.length ≤ w.position

def pending : Bytes := w.buffer.drop w.position

/-- Refused, with the buffer unchanged, when the data would pass the maximum size. -/
def extend (data : Bytes) : WriteBuffer :=
  if w.maxSize < w.buffer.length + data.length then w else { w with buffer := w.buffer ++ data }

def advance (count : Nat) : WriteBuffer :=
  if w.buffer.length ≤ w.position + count then { w with buffer := [], position := 0 }
  else { w with position := w.position + count }

theorem pending_advance (count : Nat) : (w.advance count).pending = w.pending.drop count := by
  unfold advance pending
  rw [List.drop_drop]
  split_ifs with all
  · rw [List.drop_nil, List.drop_eq_nil_of_le all]
  · rfl

theorem pending_extend_new {maxSize : Nat} {data : Bytes} (fits : data.length ≤ maxSize) :
    ((withMaxSize maxSize).extend data).pending = data := by
  have room : ¬ maxSize < ([] : Bytes).length + data.length := by
    simpa using fits
  rw [extend, withMaxSize, if_neg room]
  rfl

def outbox : Outbox WriteBuffer := ⟨pending, advance, pending_advance⟩

end WriteBuffer

inductive WriterCall
  | write (buf : Bytes)
  | flush (upstream : DrainPoll IoError)

def acceptedBy (buf : Bytes) : WritePoll IoError → Bytes
  | .ready count => buf.take count
  | _ => []

structure WriterSession (ω : Type) where
  writer : ω
  accepted : Bytes := []

section Session
variable {ω : Type} (pollWrite : ω → Bytes → Option (ω × WritePoll IoError))
  (pollFlush : ω → DrainPoll IoError → Option (ω × DrainPoll IoError))

def callWriter (session : WriterSession ω) : WriterCall → Option (WriterSession ω)
  | .write buf => (pollWrite session.writer buf).map fun (writer, poll) =>
    ⟨writer, session.accepted ++ acceptedBy buf poll⟩
  | .flush upstream => (pollFlush session.writer upstream).map fun (writer, _) =>
    ⟨writer, session.accepted⟩

def callsOf (writer : ω) (calls : List WriterCall) : Option (WriterSession ω) :=
  runFrom (callWriter pollWrite pollFlush) ⟨writer, []⟩ calls

variable {pollWrite pollFlush}

theorem callsOf_spec {holds : ω → Bytes → Prop}
    (writes : ∀ writer accepted buf, holds writer accepted →
      ∃ after, pollWrite writer buf = some after ∧ holds after.1 (accepted ++ acceptedBy buf after.2))
    (flushes : ∀ writer accepted upstream, holds writer accepted →
      ∃ after, pollFlush writer upstream = some after ∧ holds after.1 accepted)
    {writer : ω} (start : holds writer []) (calls : List WriterCall) :
    ∃ final, callsOf pollWrite pollFlush writer calls = some final ∧
      holds final.writer final.accepted := by
  refine @runFrom_total _ _ _ _ (fun session : WriterSession ω =>
    holds session.writer session.accepted) ?_ start calls
  intro session call held
  cases call with
  | write buf =>
    obtain ⟨after, wrote, kept⟩ := writes session.writer session.accepted buf held
    exact ⟨_, by rw [callWriter, wrote]; rfl, kept⟩
  | flush upstream =>
    obtain ⟨_, flushed, kept⟩ := flushes session.writer session.accepted upstream held
    exact ⟨_, by rw [callWriter, flushed]; rfl, kept⟩

end Session

end Telemt.Stream
