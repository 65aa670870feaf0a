import Telemt.Stream.State

namespace Telemt.Stream
open Foundation

/-! # The encrypting writer -/

structure PendingCiphertext where
  buf : Bytes
  pos : Nat
  maxLen : Nat
  inside : pos ≤ buf.length

namespace PendingCiphertext

def new (maxLen : Nat) : PendingCiphertext := ⟨[], 0, maxLen, le_rfl⟩

variable (p : PendingCiphertext)

def pendingLen : Nat := p.buf.length - p.pos

def pendingSlice : Bytes := p.buf.drop p.pos

def remainingCapacity : Nat := p.maxLen - p.pendingLen

def compactConsumedPrefix : PendingCiphertext :=
  if p.pos = 0 then p
  else if p.buf.length ≤ p.pos then ⟨[], 0, p.maxLen, le_rfl⟩
  else ⟨p.buf.drop p.pos, 0, p.maxLen, Nat.zero_le _⟩

def advance (count : Nat) : PendingCiphertext :=
  let moved : PendingCiphertext :=
    ⟨p.buf, min (p.pos + count) p.buf.length, p.maxLen, Nat.min_le_right _ _⟩
  if moved.pos = moved.buf.length then moved.compactConsumedPrefix
  else if 16 * 1024 ≤ moved.pos then moved.compactConsumedPrefix
  else moved

def replaceWith (src : Bytes) : PendingCiphertext :=
  ⟨src, 0, p.maxLen, Nat.zero_le _⟩

def pushEncrypted (keystream : Nat → UInt8) (position : Nat) (plaintext : Bytes) :
    Except IoError (PendingCiphertext × Nat) :=
  if plaintext = [] then .ok (p, position)
  else if p.remainingCapacity < plaintext.length then
    .error ⟨.wouldBlock, "pending ciphertext buffer is full"⟩
  else
    let q := if 0 < p.pos ∧ p.maxLen < p.buf.length + plaintext.length then p.compactConsumedPrefix
      else p
    .ok (⟨q.buf ++ xorFrom keystream position plaintext, q.pos, q.maxLen,
      q.inside.trans (by rw [List.length_append]; exact Nat.le_add_right _ _)⟩,
      position + plaintext.length)

section
variable (p : PendingCiphertext)

theorem pendingLen_eq : p.pendingLen = p.pendingSlice.length :=
  List.length_drop.symm

theorem pendingSlice_compact : p.compactConsumedPrefix.pendingSlice = p.pendingSlice := by
  unfold compactConsumedPrefix
  split_ifs with start consumed
  · rfl
  · exact (List.drop_eq_nil_of_le consumed).symm
  · rfl

theorem maxLen_compact : p.compactConsumedPrefix.maxLen = p.maxLen := by
  unfold compactConsumedPrefix
  split_ifs <;> rfl

theorem pendingSlice_advance (count : Nat) :
    (p.advance count).pendingSlice = p.pendingSlice.drop count := by
  have moved : p.buf.drop (min (p.pos + count) p.buf.length) = p.pendingSlice.drop count := by
    rw [pendingSlice, List.drop_drop, ← List.drop_eq_drop_min]
  unfold advance
  dsimp only
  split_ifs
  · rw [pendingSlice_compact]
    exact moved
  · rw [pendingSlice_compact]
    exact moved
  · exact moved

theorem maxLen_advance (count : Nat) : (p.advance count).maxLen = p.maxLen := by
  unfold advance
  dsimp only
  split_ifs
  · rw [maxLen_compact]
  · rw [maxLen_compact]
  · rfl

end

theorem pushEncrypted_ok {p : PendingCiphertext} {keystream : Nat → UInt8} {position : Nat}
    {plaintext : Bytes} (some_text : plaintext ≠ [])
    (fits : plaintext.length ≤ p.remainingCapacity) :
    ∃ q, p.pushEncrypted keystream position plaintext = .ok (q, position + plaintext.length) ∧
      q.pendingSlice = p.pendingSlice ++ xorFrom keystream position plaintext ∧
      q.maxLen = p.maxLen := by
  unfold pushEncrypted
  rw [if_neg some_text, if_neg (Nat.not_lt.mpr fits)]
  refine ⟨_, rfl, ?_, ?_⟩
  · rw [pendingSlice]
    dsimp only
    rw [List.drop_append_of_le_length (PendingCiphertext.inside _)]
    split_ifs
    · exact congrArg (· ++ _) (pendingSlice_compact p)
    · rfl
  · split_ifs
    · exact maxLen_compact p
    · rfl

def outbox : Outbox PendingCiphertext := ⟨pendingSlice, advance, pendingSlice_advance⟩

end PendingCiphertext

inductive CryptoWriterState
  | idle
  | flushing (pending : PendingCiphertext)
  | poisoned (error : Option IoError)

/-- The encryptor is the position it has reached in the keystream. -/
structure CryptoWriter where
  upstream : Sink IoError
  position : Nat := 0
  state : CryptoWriterState := .idle
  maxPendingWrite : Nat

namespace CryptoWriter

def defaultMaxPendingWrite : Nat := 64 * 1024

def new (upstream : Sink IoError) (maxPendingWrite : Nat) : CryptoWriter where
  upstream := upstream
  maxPendingWrite :=
    max (if maxPendingWrite = 0 then defaultMaxPendingWrite else maxPendingWrite) (4 * 1024)

def pending (writer : CryptoWriter) : Bytes :=
  match writer.state with
  | .flushing pending => pending.pendingSlice
  | _ => []

def isPoisoned (writer : CryptoWriter) : Bool :=
  match writer.state with
  | .poisoned _ => true
  | _ => false

def ensurePending (state : CryptoWriterState) (maxPending : Nat) : PendingCiphertext :=
  match state with
  | .flushing pending => pending
  | _ => .new maxPending

def selectToAcceptForBuffering (state : CryptoWriterState) (bufLen maxPending : Nat) : Nat :=
  if bufLen = 0 then 0
  else
    match state with
    | .flushing pending => min bufLen pending.remainingCapacity
    | .idle => min bufLen maxPending
    | .poisoned _ => 0

def pollFlushPending (writer : CryptoWriter) : Option (CryptoWriter × DrainPoll IoError) :=
  match writer.state with
  | .poisoned error => some ({ writer with state := .poisoned none }, .failed (error.getD .poisoned))
  | .idle => some (writer, .complete)
  | .flushing pending =>
    (drain PendingCiphertext.outbox .zeroWritten writer.upstream pending).map fun
      | (upstream, _, .complete) => ({ writer with upstream := upstream, state := .idle }, .complete)
      | (upstream, pending, .pending) =>
        ({ writer with upstream := upstream, state := .flushing pending }, .pending)
      | (upstream, _, .failed error) =>
        ({ writer with upstream := upstream, state := .poisoned (some error) }, .failed error)

variable (keystream : Nat → UInt8)

def bufferMore (writer : CryptoWriter) (buf : Bytes) : CryptoWriter × WritePoll IoError :=
  let toAccept := selectToAcceptForBuffering writer.state buf.length writer.maxPendingWrite
  if toAccept = 0 then (writer, .pending)
  else
    let pending := ensurePending writer.state writer.maxPendingWrite
    match pending.pushEncrypted keystream writer.position (buf.take toAccept) with
    | .error error => (writer, if error.kind = .wouldBlock then .pending else .failed error)
    | .ok (pending, position) =>
      ({ writer with state := .flushing pending, position := position }, .ready toAccept)

def writeThrough (writer : CryptoWriter) (buf : Bytes) : CryptoWriter × WritePoll IoError :=
  let toAccept := min buf.length writer.maxPendingWrite
  let scratch := xorFrom keystream writer.position (buf.take toAccept)
  let position := writer.position + (buf.take toAccept).length
  let kept : PendingCiphertext := ensurePending writer.state writer.maxPendingWrite
  match writer.upstream.pollWrite scratch with
  | (upstream, .pending) =>
    (⟨upstream, position, .flushing (kept.replaceWith scratch), writer.maxPendingWrite⟩,
      .ready toAccept)
  | (upstream, .failed error) =>
    (⟨upstream, position, .poisoned (some error), writer.maxPendingWrite⟩, .failed error)
  | (upstream, .ready 0) =>
    (⟨upstream, position, .poisoned (some .zeroWritten), writer.maxPendingWrite⟩,
      .failed .zeroWritten)
  | (upstream, .ready (count + 1)) =>
    if count + 1 = scratch.length then
      (⟨upstream, position, writer.state, writer.maxPendingWrite⟩, .ready toAccept)
    else
      (⟨upstream, position, .flushing (kept.replaceWith (scratch.drop (count + 1))),
        writer.maxPendingWrite⟩, .ready toAccept)

def pollWrite (writer : CryptoWriter) (buf : Bytes) : Option (CryptoWriter × WritePoll IoError) :=
  match writer.state with
  | .poisoned error => some ({ writer with state := .poisoned none }, .failed (error.getD .poisoned))
  | .idle => some (if buf = [] then (writer, .ready 0) else writeThrough keystream writer buf)
  | .flushing _ =>
    if buf = [] then some (writer, .ready 0)
    else
      writer.pollFlushPending.map fun
        | (writer, .complete) => writeThrough keystream writer buf
        | (writer, .failed error) => (writer, .failed error)
        | (writer, .pending) => bufferMore keystream writer buf

/-- With nothing pending any more, the answer is that of the upstream's own flush. -/
def afterFlushPending (flushed : DrainPoll IoError) :
    CryptoWriter × DrainPoll IoError → CryptoWriter × DrainPoll IoError
  | (writer, .complete) => (writer, flushed)
  | (writer, poll) => (writer, poll)

def pollFlush (writer : CryptoWriter) (flushed : DrainPoll IoError) :
    Option (CryptoWriter × DrainPoll IoError) :=
  match writer.state with
  | .poisoned error => some ({ writer with state := .poisoned none }, .failed (error.getD .poisoned))
  | _ => writer.pollFlushPending.map (afterFlushPending flushed)

theorem pollFlush_eq (writer : CryptoWriter) (flushed : DrainPoll IoError) :
    pollFlush writer flushed = writer.pollFlushPending.map (afterFlushPending flushed) := by
  obtain ⟨_, _, state, _⟩ := writer
  cases state <;> rfl

end CryptoWriter

end Telemt.Stream
