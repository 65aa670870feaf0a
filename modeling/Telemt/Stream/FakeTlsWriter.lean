import Telemt.Stream.TlsRecord

namespace Telemt.Stream
open Foundation

/-!
# The FakeTLS writer

`FakeTlsWriter`: wraps each accepted chunk into one application data record and keeps the part of
the record that the upstream did not take.
-/

def maxTlsPayload : Nat := maxTlsCiphertextSize

def maxPendingWrite : Nat := 64 * 1024

inductive TlsWriterState
  | idle
  | writingRecord (record : WriteBuffer) (payloadSize : Nat)
  | poisoned (error : Option IoError)

structure FakeTlsWriter where
  upstream : Sink IoError
  state : TlsWriterState := .idle

namespace FakeTlsWriter
variable (writer : FakeTlsWriter)

def pending : Bytes :=
  match writer.state with
  | .writingRecord record _ => record.pending
  | _ => []

def isPoisoned : Bool :=
  match writer.state with
  | .poisoned _ => true
  | _ => false

def buildRecord (data : Bytes) : Bytes :=
  TlsRecordHeader.toBytes ⟨tlsRecordApplication, tlsVersion, data.length % 65536⟩ ++ data

variable (upstream : Sink IoError)

def pollFlushRecordInner (record : WriteBuffer) :
    Option (Sink IoError × WriteBuffer × DrainPoll IoError) :=
  drain WriteBuffer.outbox .zeroWritten upstream record

def keepRemainder (remainder : Bytes) (chunkSize : Nat) : FakeTlsWriter :=
  ⟨upstream, .writingRecord ((WriteBuffer.withMaxSize maxPendingWrite).extend remainder) chunkSize⟩

def sendRecord (recordData : Bytes) (chunkSize : Nat) : FakeTlsWriter × WritePoll IoError :=
  match upstream.pollWrite recordData with
  | (upstream, .ready count) =>
    if count = recordData.length then (⟨upstream, .idle⟩, .ready chunkSize)
    else (keepRemainder upstream (recordData.drop count) chunkSize, .ready chunkSize)
  | (upstream, .failed error) => (⟨upstream, .poisoned (some error)⟩, .failed error)
  | (upstream, .pending) => (keepRemainder upstream recordData chunkSize, .ready chunkSize)

def writeRecord (buf : Bytes) : FakeTlsWriter × WritePoll IoError :=
  if buf = [] then (⟨upstream, .idle⟩, .ready 0)
  else
    let chunkSize := min buf.length maxTlsPayload
    sendRecord upstream (buildRecord (buf.take chunkSize)) chunkSize

def pollWrite (buf : Bytes) : Option (FakeTlsWriter × WritePoll IoError) :=
  match writer.state with
  | .poisoned error => some (⟨writer.upstream, .poisoned none⟩, .failed (error.getD .poisoned))
  | .writingRecord record payloadSize =>
    (pollFlushRecordInner writer.upstream record).map fun
      | (upstream, record, .pending) => (⟨upstream, .writingRecord record payloadSize⟩, .pending)
      | (upstream, _, .failed error) => (⟨upstream, .poisoned (some error)⟩, .failed error)
      | (upstream, _, .complete) => writeRecord upstream buf
  | .idle => some (writeRecord writer.upstream buf)

/-- The last argument is what the upstream's own flush answers when it is reached. -/
def pollFlush (flushed : DrainPoll IoError) : Option (FakeTlsWriter × DrainPoll IoError) :=
  match writer.state with
  | .poisoned error => some (⟨writer.upstream, .poisoned none⟩, .failed (error.getD .poisoned))
  | .writingRecord record payloadSize =>
    (pollFlushRecordInner writer.upstream record).map fun
      | (upstream, record, .pending) => (⟨upstream, .writingRecord record payloadSize⟩, .pending)
      | (upstream, _, .failed error) => (⟨upstream, .poisoned (some error)⟩, .failed error)
      | (upstream, _, .complete) => (⟨upstream, .idle⟩, flushed)
  | .idle => some (writer, flushed)

end FakeTlsWriter

open FakeTlsWriter

def RecordsOf (stream accepted : Bytes) : Prop :=
  ∃ payloads : List Bytes, stream = payloads.flatMap buildRecord ∧
    (∀ payload ∈ payloads, 0 < payload.length ∧ payload.length ≤ maxTlsPayload) ∧
    payloads.flatten = accepted

theorem recordsOf_nil : RecordsOf [] [] :=
  ⟨[], rfl, nofun, rfl⟩

variable {accepted : Bytes}

theorem RecordsOf.append {stream chunk : Bytes} (held : RecordsOf stream accepted)
    (nonempty : 0 < chunk.length) (fits : chunk.length ≤ maxTlsPayload) :
    RecordsOf (stream ++ buildRecord chunk) (accepted ++ chunk) := by
  obtain ⟨payloads, streamed, sizes, carried⟩ := held
  refine ⟨payloads ++ [chunk], ?_, ?_, ?_⟩
  · rw [streamed, List.flatMap_append, List.flatMap_singleton]
  · intro payload member
    rcases List.mem_append.mp member with earlier | last
    · exact sizes payload earlier
    · rw [List.mem_singleton.mp last]
      exact ⟨nonempty, fits⟩
  · rw [List.flatten_append, carried, List.flatten_singleton]

theorem nextRecord_buildRecord {payload : Bytes} (rest : Bytes) (nonempty : 0 < payload.length)
    (fits : payload.length ≤ maxTlsPayload) :
    nextRecord (buildRecord payload ++ rest) = some (⟨tlsRecordApplication, payload⟩, rest) := by
  have fits' : payload.length ≤ 16640 := fits
  have whole : payload.length % 65536 = payload.length := Nat.mod_eq_of_lt (by omega)
  have parsed := @TlsRecordHeader.parse_toBytes
    ⟨tlsRecordApplication, tlsVersion, payload.length⟩ (by dsimp only; omega)
  rw [buildRecord, whole, List.append_assoc,
    nextRecord_header parsed rfl (TlsRecordHeader.validate_application nonempty fits),
    if_neg (by rw [List.length_append]; dsimp only; omega), List.take_left, List.drop_left]

theorem records_flatMap_buildRecord {payloads : List Bytes}
    (sizes : ∀ payload ∈ payloads, 0 < payload.length ∧ payload.length ≤ maxTlsPayload) :
    records (payloads.flatMap buildRecord) =
      payloads.map fun payload => ⟨tlsRecordApplication, payload⟩ := by
  induction payloads with
  | nil => exact records_of_none rfl
  | cons payload _ ih =>
    obtain ⟨nonempty, fits⟩ := sizes payload List.mem_cons_self
    have later := ih fun other member => sizes other (List.mem_cons_of_mem payload member)
    rw [List.flatMap_cons, records_of_some (nextRecord_buildRecord _ nonempty fits), later,
      List.map_cons]

def Emitted (writer : FakeTlsWriter) (accepted : Bytes) : Prop :=
  match writer.state with
  | .idle => RecordsOf writer.upstream.delivered accepted
  | .writingRecord record _ => RecordsOf (writer.upstream.delivered ++ record.pending) accepted
  | .poisoned _ => ∃ lost, RecordsOf (writer.upstream.delivered ++ lost) accepted

theorem buildRecord_length (data : Bytes) : (buildRecord data).length = 5 + data.length := by
  rw [buildRecord, List.length_append]
  rfl

variable {upstream : Sink IoError}

theorem keepRemainder_emitted {remainder : Bytes} {chunkSize : Nat}
    (fits : remainder.length ≤ maxPendingWrite)
    (held : RecordsOf (upstream.delivered ++ remainder) accepted) :
    Emitted (keepRemainder upstream remainder chunkSize) accepted := by
  show RecordsOf (upstream.delivered ++
    ((WriteBuffer.withMaxSize maxPendingWrite).extend remainder).pending) accepted
  rw [WriteBuffer.pending_extend_new fits]
  exact held

theorem sendRecord_emitted {recordData buf : Bytes} {chunkSize : Nat}
    (held : RecordsOf upstream.delivered accepted)
    (grown : RecordsOf (upstream.delivered ++ recordData) (accepted ++ buf.take chunkSize))
    (fits : recordData.length ≤ maxPendingWrite) :
    Emitted (sendRecord upstream recordData chunkSize).1
      (accepted ++ acceptedBy buf (sendRecord upstream recordData chunkSize).2) := by
  rcases polled : upstream.pollWrite recordData with ⟨upstream', poll⟩
  have took := Sink.pollWrite_took polled
  rw [sendRecord, polled]
  cases poll with
  | pending =>
    refine keepRemainder_emitted fits ?_
    rw [show upstream'.delivered = upstream.delivered from took]
    exact grown
  | failed =>
    refine ⟨[], ?_⟩
    show RecordsOf (upstream'.delivered ++ []) (accepted ++ [])
    rw [show upstream'.delivered = upstream.delivered from took, List.append_nil, List.append_nil]
    exact held
  | ready count =>
    obtain ⟨delivered, _⟩ := took
    by_cases whole : count = recordData.length
    · simp only [if_pos whole]
      show RecordsOf upstream'.delivered _
      rw [delivered, whole, List.take_length]
      exact grown
    · simp only [if_neg whole]
      refine keepRemainder_emitted ?_ ?_
      · rw [List.length_drop]
        exact (Nat.sub_le _ _).trans fits
      · rw [delivered, List.append_assoc, List.take_append_drop]
        exact grown

theorem writeRecord_emitted (buf : Bytes) (held : RecordsOf upstream.delivered accepted) :
    Emitted (writeRecord upstream buf).1
      (accepted ++ acceptedBy buf (writeRecord upstream buf).2) := by
  unfold writeRecord
  split_ifs with empty
  · show RecordsOf upstream.delivered (accepted ++ buf.take 0)
    rw [List.take_zero, List.append_nil]
    exact held
  · have limit : (buf.take (min buf.length maxTlsPayload)).length ≤ maxTlsPayload :=
      (List.length_take_le _ _).trans (Nat.min_le_right _ _)
    have nonempty : 0 < (buf.take (min buf.length maxTlsPayload)).length := by
      have some_left := List.length_pos_of_ne_nil empty
      rw [List.length_take]
      exact lt_min (lt_min some_left (by decide)) some_left
    refine sendRecord_emitted held (held.append nonempty limit) ?_
    rw [buildRecord_length]
    exact (Nat.add_le_add_left limit 5).trans (by decide)

theorem pollFlushRecordInner_spec {record : WriteBuffer}
    (held : RecordsOf (upstream.delivered ++ record.pending) accepted) :
    ∃ upstream' record' poll,
      pollFlushRecordInner upstream record = some (upstream', record', poll) ∧
      RecordsOf (upstream'.delivered ++ record'.pending) accepted ∧
      (poll = .complete → record'.pending = []) := by
  obtain ⟨⟨upstream', record', poll⟩, ran, drained⟩ :=
    @drain_spec _ _ WriteBuffer.outbox IoError.zeroWritten upstream record
  obtain ⟨sent, delivered, split⟩ := drained.moved
  refine ⟨upstream', record', poll, ran, ?_, drained.empty_iff.mpr⟩
  change record.pending = sent ++ record'.pending at split
  rw [delivered, List.append_assoc, ← split]
  exact held

theorem pollWrite_emitted (writer : FakeTlsWriter) (accepted buf : Bytes)
    (held : Emitted writer accepted) :
    ∃ after, pollWrite writer buf = some after ∧
      Emitted after.1 (accepted ++ acceptedBy buf after.2) := by
  obtain ⟨upstream, state⟩ := writer
  cases state with
  | idle => exact ⟨_, rfl, writeRecord_emitted buf held⟩
  | poisoned error =>
    refine ⟨_, rfl, ?_⟩
    show Emitted ⟨upstream, .poisoned none⟩ (accepted ++ [])
    rw [List.append_nil]
    exact held
  | writingRecord _ payloadSize =>
    obtain ⟨upstream', record', poll, ran, kept, empty⟩ := pollFlushRecordInner_spec held
    refine ⟨_, congrArg (Option.map _) ran, ?_⟩
    cases poll with
    | pending =>
      show Emitted ⟨upstream', .writingRecord record' payloadSize⟩ (accepted ++ [])
      rw [List.append_nil]
      exact kept
    | failed error =>
      show Emitted ⟨upstream', .poisoned (some error)⟩ (accepted ++ [])
      rw [List.append_nil]
      exact ⟨record'.pending, kept⟩
    | complete =>
      rw [empty rfl, List.append_nil] at kept
      exact writeRecord_emitted buf kept

theorem pollFlush_emitted (writer : FakeTlsWriter) (accepted : Bytes) (flushed : DrainPoll IoError)
    (held : Emitted writer accepted) :
    ∃ after, pollFlush writer flushed = some after ∧ Emitted after.1 accepted := by
  obtain ⟨_, state⟩ := writer
  cases state with
  | idle | poisoned error => exact ⟨_, rfl, held⟩
  | writingRecord =>
    obtain ⟨_, record', poll, ran, kept, empty⟩ := pollFlushRecordInner_spec held
    refine ⟨_, congrArg (Option.map _) ran, ?_⟩
    cases poll with
    | pending => exact kept
    | failed => exact ⟨record'.pending, kept⟩
    | complete =>
      rw [empty rfl, List.append_nil] at kept
      exact kept

theorem pollFlush_complete {writer after : FakeTlsWriter} {flushed : DrainPoll IoError}
    (complete : pollFlush writer flushed = some (after, .complete)) :
    after.state = .idle := by
  obtain ⟨_, state⟩ := writer
  cases state with
  | idle =>
    cases complete
    rfl
  | poisoned error => cases complete
  | writingRecord =>
    obtain ⟨⟨_, _, poll⟩, _, moved⟩ := Option.map_eq_some_iff.mp complete
    cases poll with
    | pending | failed error => cases moved
    | complete =>
      cases moved
      rfl

theorem Emitted.stream {writer : FakeTlsWriter} (held : Emitted writer accepted) :
    ∃ lost, RecordsOf (writer.upstream.delivered ++ writer.pending ++ lost) accepted ∧
      (writer.isPoisoned = false → lost = []) := by
  obtain ⟨upstream, state⟩ := writer
  cases state with
  | idle =>
    refine ⟨[], ?_, fun _ => rfl⟩
    show RecordsOf (upstream.delivered ++ [] ++ []) accepted
    rw [List.append_nil, List.append_nil]
    exact held
  | writingRecord =>
    refine ⟨[], ?_, fun _ => rfl⟩
    rw [List.append_nil]
    exact held
  | poisoned =>
    obtain ⟨lost, held⟩ := held
    refine ⟨lost, ?_, fun sound => by cases sound⟩
    show RecordsOf (upstream.delivered ++ [] ++ lost) accepted
    rw [List.append_nil]
    exact held

theorem writer_emits_accepted_records (replies : List (WriteReply IoError))
    (calls : List WriterCall) :
    ∃ final, callsOf pollWrite pollFlush { upstream := { replies := replies } } calls = some final ∧
      (∃ (lost : Bytes) (payloads : List Bytes),
        final.writer.upstream.delivered ++ final.writer.pending ++ lost =
          payloads.flatMap buildRecord ∧
        records (payloads.flatMap buildRecord) =
          payloads.map (fun payload => ⟨tlsRecordApplication, payload⟩) ∧
        (∀ payload ∈ payloads, payload.length ≤ maxTlsCiphertextSize) ∧
        payloads.flatten = final.accepted ∧
        (final.writer.isPoisoned = false → lost = [])) ∧
      ∀ flushed after, pollFlush final.writer flushed = some (after, .complete) →
        after.isPoisoned = false ∧ after.pending = [] := by
  obtain ⟨final, ran, held⟩ := callsOf_spec pollWrite_emitted pollFlush_emitted
    (show Emitted { upstream := { replies := replies } } [] from recordsOf_nil) calls
  obtain ⟨lost, ⟨payloads, streamed, sizes, carried⟩, kept⟩ := held.stream
  refine ⟨final, ran, ⟨lost, payloads, streamed, records_flatMap_buildRecord sizes,
    fun payload member => (sizes payload member).2, carried, kept⟩, ?_⟩
  intro flushed after complete
  have idle := pollFlush_complete complete
  unfold isPoisoned pending
  rw [idle]
  exact ⟨rfl, rfl⟩

/-- A record that the upstream first stalls on and then answers with zero bytes is dropped, although
its payload was accepted. -/
theorem zero_write_drops_accepted_record :
    ∃ final, callsOf pollWrite pollFlush { upstream := { replies := [.pending, .accepted 0] } }
        [.write [1, 2], .flush .complete] = some final ∧
      final.accepted = [1, 2] ∧ final.writer.upstream.delivered ++ final.writer.pending = [] ∧
      ∀ payloads : List Bytes, payloads.flatten = final.accepted →
        final.writer.upstream.delivered ++ final.writer.pending ≠ payloads.flatMap buildRecord := by
  refine ⟨_, rfl, rfl, rfl, ?_⟩
  intro payloads carried none
  cases payloads with
  | nil => cases carried
  | cons => cases none

end Telemt.Stream
