import Telemt.Stream.CryptoWriter

namespace Telemt.Stream
open Foundation

/-!
# Keystream integrity of the encrypting writer
-/

namespace CryptoWriter

def ciphertext (writer : CryptoWriter) : Bytes := writer.upstream.delivered ++ writer.pending

def WithinLimit (writer : CryptoWriter) : Prop :=
  match writer.state with
  | .flushing pending =>
    pending.maxLen = writer.maxPendingWrite ∧ pending.pendingLen ≤ writer.maxPendingWrite
  | _ => True

inductive FlushOutcome (writer : CryptoWriter) : CryptoWriter × DrainPoll IoError → Prop
  | complete {upstream} (awake : writer.isPoisoned = false)
      (delivered : upstream.delivered = writer.ciphertext) :
      FlushOutcome writer ({ writer with upstream := upstream, state := .idle }, .complete)
  | pending {upstream rest} (awake : writer.isPoisoned = false)
      (same : upstream.delivered ++ rest.pendingSlice = writer.ciphertext)
      (limit : rest.maxLen = writer.maxPendingWrite)
      (within : rest.pendingLen ≤ writer.maxPendingWrite) :
      FlushOutcome writer
        ({ writer with upstream := upstream, state := .flushing rest }, .pending)
  | failed {upstream stored error} (delivered : upstream.delivered <+: writer.ciphertext) :
      FlushOutcome writer
        ({ writer with upstream := upstream, state := .poisoned stored }, .failed error)

variable {writer : CryptoWriter}

theorem ciphertext_idle (idle : writer.state = .idle) :
    writer.ciphertext = writer.upstream.delivered := by
  unfold ciphertext pending
  rw [idle, List.append_nil]

variable {error : Option IoError}

theorem ciphertext_poisoned (poisoned : writer.state = .poisoned error) :
    writer.ciphertext = writer.upstream.delivered := by
  unfold ciphertext pending
  rw [poisoned, List.append_nil]

theorem pollFlushPending_spec (writer : CryptoWriter) (within : writer.WithinLimit) :
    ∃ after, writer.pollFlushPending = some after ∧ FlushOutcome writer after := by
  obtain ⟨upstream, _, state, limit⟩ := writer
  cases state with
  | idle =>
    refine ⟨_, rfl, .complete rfl ?_⟩
    rw [ciphertext_idle rfl]
  | poisoned error =>
    refine ⟨_, rfl, .failed ?_⟩
    rw [ciphertext_poisoned rfl]
  | flushing pending =>
    obtain ⟨⟨upstream', pending', poll⟩, ran, drained⟩ :=
      @drain_spec _ _ PendingCiphertext.outbox IoError.zeroWritten upstream pending
    obtain ⟨sent, delivered, split⟩ := drained.moved
    change pending.pendingSlice = sent ++ pending'.pendingSlice at split
    have same : upstream'.delivered ++ pending'.pendingSlice =
        upstream.delivered ++ pending.pendingSlice := by
      rw [delivered, split, List.append_assoc]
    refine ⟨_, congrArg (Option.map _) ran, ?_⟩
    cases poll with
    | complete =>
      have empty : pending'.pendingSlice = [] := drained.empty_iff.mpr rfl
      rw [empty, List.append_nil] at same
      exact .complete rfl same
    | pending =>
      have limit' : pending'.maxLen = limit :=
        drained.framed (fun p => p.maxLen = limit)
          (fun p count held => (p.maxLen_advance count).trans held) within.1
      refine .pending rfl same limit' ?_
      have fewer : pending'.pendingSlice.length ≤ pending.pendingSlice.length := by
        rw [split, List.length_append]
        exact Nat.le_add_left _ _
      rw [pending'.pendingLen_eq]
      exact fewer.trans (pending.pendingLen_eq ▸ within.2)
    | failed => exact .failed ⟨pending'.pendingSlice, same⟩

variable {keystream : Nat → UInt8}

/-- What a write can do. Only a write that fails on fresh ciphertext, with everything before it
delivered, can leave the keystream ahead. -/
inductive WriteOutcome (keystream : Nat → UInt8) (writer : CryptoWriter) (buf : Bytes) :
    CryptoWriter × WritePoll IoError → Prop
  | accepted {after count} (awake : writer.isPoisoned = false) (sound : after.isPoisoned = false)
      (grown : after.ciphertext =
        writer.ciphertext ++ xorFrom keystream writer.position (buf.take count))
      (position : after.position = writer.position + (buf.take count).length)
      (within : after.WithinLimit) (limit : after.maxPendingWrite = writer.maxPendingWrite) :
      WriteOutcome keystream writer buf (after, .ready count)
  | pending {after} (awake : writer.isPoisoned = false) (sound : after.isPoisoned = false)
      (same : after.ciphertext = writer.ciphertext) (position : after.position = writer.position)
      (within : after.WithinLimit) (limit : after.maxPendingWrite = writer.maxPendingWrite) :
      WriteOutcome keystream writer buf (after, .pending)
  | failed {after error stored} (poisoned : after.state = .poisoned stored)
      (delivered : after.upstream.delivered <+: writer.ciphertext)
      (drift : after.position ≠ writer.position → after.upstream.delivered = writer.ciphertext)
      (limit : after.maxPendingWrite = writer.maxPendingWrite) :
      WriteOutcome keystream writer buf (after, .failed error)

theorem WriteOutcome.of_same {between : CryptoWriter} {buf : Bytes}
    {after : CryptoWriter × WritePoll IoError} (outcome : WriteOutcome keystream between buf after)
    (cipher : between.ciphertext = writer.ciphertext)
    (position : between.position = writer.position)
    (limit : between.maxPendingWrite = writer.maxPendingWrite) (awake : writer.isPoisoned = false) :
    WriteOutcome keystream writer buf after := by
  cases outcome with
  | accepted _ sound grown moved within kept =>
    rw [cipher, position] at grown
    rw [position] at moved
    exact .accepted awake sound grown moved within (kept.trans limit)
  | pending _ sound same stayed within kept =>
    exact .pending awake sound (same.trans cipher) (stayed.trans position) within (kept.trans limit)
  | failed poisoned delivered drift kept =>
    rw [cipher] at delivered drift
    rw [position] at drift
    exact .failed poisoned delivered drift (kept.trans limit)

theorem take_toAccept_length {buf : Bytes} {limit : Nat} :
    (buf.take (min buf.length limit)).length = min buf.length limit :=
  List.length_take_of_le (Nat.min_le_left _ _)

theorem writeThrough_outcome (buf : Bytes) (idle : writer.state = .idle) :
    WriteOutcome keystream writer buf (writeThrough keystream writer buf) := by
  obtain ⟨upstream, position, _, limit⟩ := writer
  subst idle
  have cipher : ciphertext ⟨upstream, position, .idle, limit⟩ = upstream.delivered :=
    ciphertext_idle rfl
  unfold writeThrough
  dsimp only
  have small : (xorFrom keystream position (buf.take (min buf.length limit))).length ≤ limit := by
    rw [xorFrom_length, take_toAccept_length]
    exact Nat.min_le_right _ _
  generalize scratched : xorFrom keystream position (buf.take (min buf.length limit)) = scratch at small
  rcases polled : upstream.pollWrite scratch with ⟨upstream', poll⟩
  have took := Sink.pollWrite_took polled
  cases poll with
  | pending =>
    refine .accepted rfl rfl ?_ rfl ⟨rfl, small⟩ rfl
    show upstream'.delivered ++ scratch = _
    rw [cipher, scratched, show upstream'.delivered = upstream.delivered from took]
  | failed =>
    have same : upstream'.delivered = upstream.delivered := took
    refine .failed rfl ?_ ?_ rfl
    · rw [cipher]
      exact same ▸ List.prefix_rfl
    · exact fun _ => same.trans cipher.symm
  | ready count =>
    obtain ⟨delivered, _⟩ := took
    cases count with
    | zero =>
      have same : upstream'.delivered = upstream.delivered := by
        rw [delivered, List.take_zero, List.append_nil]
      refine .failed rfl ?_ ?_ rfl
      · rw [cipher]
        exact same ▸ List.prefix_rfl
      · exact fun _ => same.trans cipher.symm
    | succ count =>
      dsimp only
      split_ifs with whole
      · refine .accepted rfl rfl ?_ rfl trivial rfl
        rw [ciphertext_idle rfl, cipher, scratched]
        rw [delivered, whole, List.take_length]
      · refine .accepted rfl rfl ?_ rfl ⟨rfl, ?_⟩ rfl
        · show upstream'.delivered ++ scratch.drop (count + 1) = _
          rw [delivered, cipher, scratched, List.append_assoc, List.take_append_drop]
        · show (scratch.drop (count + 1)).length - 0 ≤ limit
          rw [List.length_drop]
          omega

theorem bufferMore_outcome {rest : PendingCiphertext} (buf : Bytes)
    (flushing : writer.state = .flushing rest) (within : writer.WithinLimit) :
    WriteOutcome keystream writer buf (bufferMore keystream writer buf) := by
  obtain ⟨upstream, position, _, limit⟩ := writer
  subst flushing
  obtain ⟨maxLen, bounded⟩ := within
  dsimp only at maxLen bounded
  unfold bufferMore
  dsimp only
  split_ifs with full
  · exact .pending rfl rfl rfl rfl ⟨maxLen, bounded⟩ rfl
  · have nonempty : buf.length ≠ 0 := by
      intro empty
      exact full (if_pos empty)
    have chosen : selectToAcceptForBuffering (.flushing rest) buf.length limit =
        min buf.length rest.remainingCapacity := if_neg nonempty
    rw [chosen] at full ⊢
    have length := @take_toAccept_length buf rest.remainingCapacity
    have some_text : buf.take (min buf.length rest.remainingCapacity) ≠ [] := by
      intro nothing
      rw [nothing] at length
      exact full length.symm
    obtain ⟨grown, pushed, slice, maxLen'⟩ := @PendingCiphertext.pushEncrypted_ok rest keystream
      position _ some_text (length.trans_le (Nat.min_le_right _ _))
    have pushed' : (ensurePending (.flushing rest) limit).pushEncrypted keystream position
        (buf.take (min buf.length rest.remainingCapacity)) = .ok (grown, _) := pushed
    rw [pushed']
    refine .accepted rfl rfl ?_ rfl ⟨maxLen'.trans maxLen, ?_⟩ rfl
    · show upstream.delivered ++ grown.pendingSlice = upstream.delivered ++ rest.pendingSlice ++ _
      rw [slice, List.append_assoc]
    · show grown.pendingLen ≤ limit
      have capacity : min buf.length rest.remainingCapacity ≤ rest.remainingCapacity :=
        Nat.min_le_right _ _
      rw [grown.pendingLen_eq, slice, List.length_append, xorFrom_length, length,
        ← rest.pendingLen_eq]
      unfold PendingCiphertext.remainingCapacity at capacity ⊢
      omega

theorem WriteOutcome.nothing {buf : Bytes} (sound : writer.isPoisoned = false)
    (within : writer.WithinLimit) : WriteOutcome keystream writer buf (writer, .ready 0) := by
  refine .accepted sound sound ?_ ?_ within rfl
  · rw [List.take_zero, xorFrom, List.append_nil]
  · rw [List.take_zero, List.length_nil, Nat.add_zero]

theorem pollWrite_outcome (writer : CryptoWriter) (buf : Bytes) (within : writer.WithinLimit) :
    ∃ after, pollWrite keystream writer buf = some after ∧
      WriteOutcome keystream writer buf after := by
  obtain ⟨upstream, position, state, limit⟩ := writer
  cases state with
  | poisoned =>
    refine ⟨_, rfl, .failed rfl ?_ (fun moved => absurd rfl moved) rfl⟩
    rw [ciphertext_poisoned rfl]
  | idle =>
    refine ⟨_, rfl, ?_⟩
    split_ifs with empty
    · exact .nothing rfl within
    · exact writeThrough_outcome buf rfl
  | flushing pending =>
    by_cases empty : buf = []
    · exact ⟨_, if_pos empty, .nothing rfl within⟩
    · obtain ⟨_, ran, outcome⟩ :=
        pollFlushPending_spec ⟨upstream, position, .flushing pending, limit⟩ within
      refine ⟨_, (if_neg empty).trans (congrArg (Option.map _) ran), ?_⟩
      cases outcome with
      | @complete upstream' awake delivered =>
        have through := @writeThrough_outcome ⟨upstream', position, .idle, limit⟩ keystream buf rfl
        have cipher : ciphertext ⟨upstream', position, .idle, limit⟩ =
            ciphertext ⟨upstream, position, .flushing pending, limit⟩ :=
          (ciphertext_idle rfl).trans delivered
        exact through.of_same cipher rfl rfl awake
      | @pending upstream' rest awake same maxLen bounded =>
        have more := @bufferMore_outcome ⟨upstream', position, .flushing rest, limit⟩ keystream
          rest buf rfl ⟨maxLen, bounded⟩
        exact more.of_same same rfl rfl awake
      | failed delivered =>
        exact .failed rfl delivered (fun moved => absurd rfl moved) rfl

structure Enciphered (keystream : Nat → UInt8) (limit : Nat) (writer : CryptoWriter)
    (accepted : Bytes) : Prop where
  within : writer.WithinLimit
  limit_eq : writer.maxPendingWrite = limit
  sent : writer.ciphertext <+: xorFrom keystream 0 accepted
  whole : writer.isPoisoned = false →
    writer.ciphertext = xorFrom keystream 0 accepted ∧ writer.position = accepted.length

theorem isPoisoned_of_state (poisoned : writer.state = .poisoned error) :
    writer.isPoisoned = true := by
  unfold isPoisoned
  rw [poisoned]

theorem withinLimit_of_poisoned (poisoned : writer.state = .poisoned error) :
    writer.WithinLimit := by
  unfold WithinLimit
  rw [poisoned]
  trivial

variable {limit : Nat} {accepted : Bytes}

theorem Enciphered.poison {after : CryptoWriter} (held : Enciphered keystream limit writer accepted)
    (poisoned : after.state = .poisoned error)
    (delivered : after.upstream.delivered <+: writer.ciphertext)
    (limit_eq : after.maxPendingWrite = writer.maxPendingWrite) :
    Enciphered keystream limit after accepted where
  within := withinLimit_of_poisoned poisoned
  limit_eq := limit_eq.trans held.limit_eq
  sent := by
    rw [ciphertext_poisoned poisoned]
    exact delivered.trans held.sent
  whole := by
    intro sound
    rw [isPoisoned_of_state poisoned] at sound
    cases sound

theorem Enciphered.of_whole (within : writer.WithinLimit)
    (limit_eq : writer.maxPendingWrite = limit)
    (cipher : writer.ciphertext = xorFrom keystream 0 accepted)
    (position : writer.position = accepted.length) :
    Enciphered keystream limit writer accepted :=
  ⟨within, limit_eq, cipher ▸ List.prefix_rfl, fun _ => ⟨cipher, position⟩⟩

theorem pollWrite_enciphered (writer : CryptoWriter) (accepted buf : Bytes)
    (held : Enciphered keystream limit writer accepted) :
    ∃ after, pollWrite keystream writer buf = some after ∧
      Enciphered keystream limit after.1 (accepted ++ acceptedBy buf after.2) := by
  obtain ⟨⟨after, _⟩, wrote, outcome⟩ :=
    @pollWrite_outcome keystream writer buf held.within
  refine ⟨_, wrote, ?_⟩
  cases outcome with
  | failed poisoned delivered _ limit_eq =>
    show Enciphered keystream limit after (accepted ++ [])
    rw [List.append_nil]
    exact held.poison poisoned delivered limit_eq
  | pending awake sound same position within limit_eq =>
    obtain ⟨cipher, behind⟩ := held.whole awake
    show Enciphered keystream limit after (accepted ++ [])
    rw [List.append_nil]
    exact .of_whole within (limit_eq.trans held.limit_eq) (same.trans cipher)
      (position.trans behind)
  | @accepted _ count awake sound grown position within limit_eq =>
    obtain ⟨cipher, behind⟩ := held.whole awake
    refine .of_whole within (limit_eq.trans held.limit_eq) ?_ ?_
    · show after.ciphertext = xorFrom keystream 0 (accepted ++ buf.take count)
      rw [grown, cipher, behind, xorFrom_append, Nat.zero_add]
    · show after.position = (accepted ++ buf.take count).length
      rw [position, behind, List.length_append]

theorem pollFlush_enciphered (writer : CryptoWriter) (accepted : Bytes)
    (flushed : DrainPoll IoError) (held : Enciphered keystream limit writer accepted) :
    ∃ after, pollFlush writer flushed = some after ∧
      Enciphered keystream limit after.1 accepted := by
  obtain ⟨_, ran, outcome⟩ := pollFlushPending_spec writer held.within
  refine ⟨_, (pollFlush_eq writer flushed).trans (congrArg (Option.map _) ran), ?_⟩
  cases outcome with
  | complete awake delivered =>
    obtain ⟨cipher, behind⟩ := held.whole awake
    refine .of_whole trivial held.limit_eq ?_ behind
    exact (ciphertext_idle rfl).trans (delivered.trans cipher)
  | pending awake same maxLen bounded =>
    obtain ⟨cipher, behind⟩ := held.whole awake
    exact .of_whole ⟨maxLen, bounded⟩ held.limit_eq (same.trans cipher) behind
  | failed delivered => exact held.poison rfl delivered rfl

theorem Enciphered.pending_le (held : Enciphered keystream limit writer accepted) :
    writer.pending.length ≤ limit := by
  obtain ⟨within, rfl, _, _⟩ := held
  obtain ⟨_, _, state, limit⟩ := writer
  cases state with
  | idle | poisoned error => exact Nat.zero_le _
  | flushing rest =>
    show rest.pendingSlice.length ≤ limit
    rw [← rest.pendingLen_eq]
    exact within.2

theorem ciphertext_is_accepted_under_keystream (keystream : Nat → UInt8)
    (replies : List (WriteReply IoError)) (maxPendingWrite : Nat) (calls : List WriterCall) :
    ∃ final, callsOf (pollWrite keystream) pollFlush (new { replies := replies } maxPendingWrite)
        calls = some final ∧
      final.writer.upstream.delivered ++ final.writer.pending <+:
        xorFrom keystream 0 final.accepted ∧
      (final.writer.isPoisoned = false →
        final.writer.upstream.delivered ++ final.writer.pending =
            xorFrom keystream 0 final.accepted ∧
          final.writer.position = final.accepted.length) ∧
      final.writer.pending.length ≤ (new { replies := replies } maxPendingWrite).maxPendingWrite ∧
      ∀ buf after poll, pollWrite keystream final.writer buf = some (after, poll) →
        (poll = .pending → after.position = final.writer.position ∧
          after.upstream.delivered ++ after.pending =
            final.writer.upstream.delivered ++ final.writer.pending) ∧
        ∀ error, poll = .failed error →
          after.isPoisoned = true ∧
          after.upstream.delivered <+:
            final.writer.upstream.delivered ++ final.writer.pending ∧
          (after.upstream.delivered ≠ final.writer.upstream.delivered ++ final.writer.pending →
            after.position = final.writer.position) := by
  have start : Enciphered keystream (new { replies := replies } maxPendingWrite).maxPendingWrite
      (new { replies := replies } maxPendingWrite) [] := .of_whole trivial rfl rfl rfl
  obtain ⟨final, ran, held⟩ :=
    callsOf_spec pollWrite_enciphered pollFlush_enciphered start calls
  refine ⟨final, ran, held.sent, held.whole, held.pending_le, ?_⟩
  intro buf after poll wrote
  obtain ⟨_, wrote', outcome⟩ := @pollWrite_outcome keystream final.writer buf held.within
  cases wrote.symm.trans wrote'
  constructor
  · rintro rfl
    cases outcome with
    | pending _ _ same position _ limit_eq => exact ⟨position, same⟩
  · rintro error rfl
    cases outcome with
    | failed poisoned delivered drift =>
      refine ⟨isPoisoned_of_state poisoned, delivered, ?_⟩
      intro unsent
      by_contra moved
      exact unsent (drift moved)

/-- An error drops the pending ciphertext of accepted bytes, and a failed direct write has already
moved the keystream. -/
theorem failed_upstream_loses_ciphertext_and_drifts :
    (∃ final, callsOf (pollWrite fun _ => 0) pollFlush
        (new { replies := [.pending, .failure ⟨.upstream 32, "broken pipe"⟩] } 4096)
        [.write [7], .flush .complete] = some final ∧
      final.accepted = [7] ∧ final.writer.upstream.delivered ++ final.writer.pending = []) ∧
    ∃ after error, pollWrite (fun _ => 0)
        (new { replies := [.failure ⟨.upstream 32, "broken pipe"⟩] } 4096) [7] =
          some (after, .failed error) ∧ after.position = 1 := by
  exact ⟨⟨_, rfl, rfl, rfl⟩, _, _, rfl, rfl⟩

end CryptoWriter

end Telemt.Stream
