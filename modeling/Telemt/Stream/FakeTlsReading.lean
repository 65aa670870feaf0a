import Telemt.Stream.FakeTlsReader

namespace Telemt.Stream
open Foundation

/-! # What the FakeTLS reader yields -/

def endsReading (record : TlsRecord) : Bool :=
  record.recordType = tlsRecordAlert ∨ record.recordType = tlsRecordHandshake

def plaintext (input : Bytes) : Bytes := payloadsBefore endsReading input

def bodyUnread (recordType : UInt8) (length : Nat) (input : Bytes) : Bytes :=
  if input.length < length then []
  else afterRecord endsReading ⟨recordType, input.take length⟩ (input.drop length)

namespace TlsReaderState

def unread : TlsReaderState → Bytes → Bytes
  | .idle, rest => plaintext rest
  | .readingHeader header, rest => plaintext (header.filled ++ rest)
  | .readingBody recordType length buffer, rest => bodyUnread recordType length (buffer ++ rest)
  | .yielding buffer, rest => buffer.asSlice ++ plaintext rest
  | .poisoned _, _ => []

def WellFormed : TlsReaderState → Prop
  | .readingHeader header => header.filled.length < tlsHeaderSize
  | .readingBody recordType length buffer =>
    TlsRecordHeader.Known recordType ∧ buffer.length ≤ length
  | .yielding buffer => buffer.asSlice ≠ []
  | _ => True

def rank : TlsReaderState → Nat
  | .idle => 2
  | .readingHeader _ => 1
  | .readingBody _ _ _ => 3
  | _ => 0

end TlsReaderState

open TlsReaderState

/-- What an answer means when `left` was still to come and the upstream would stall `pendings`
times. A read into an empty buffer may return nothing at any time. -/
def Answered (room : Nat) (left : Bytes) (pendings : Nat) :
    TlsReaderState × Upstream × ReadPoll IoError → Prop
  | (state, upstream, .pending) =>
    state.unread (segmentBytes upstream) = left ∧ pendingCount upstream + 1 = pendings
  | (_, _, .ready []) => 0 < room → left = []
  | (state, upstream, .ready (b :: bytes)) =>
    left = (b :: bytes) ++ state.unread (segmentBytes upstream) ∧
      pendingCount upstream = pendings
  | (state, _, .failed _) => left = [] ∧ ∃ error, state = .poisoned error

def readerRank (reader : TlsReaderState × Upstream) : Nat :=
  4 * segmentCount reader.2 + reader.1.rank

inductive TurnOutcome (room : Nat) (before : TlsReaderState × Upstream) : Prop
  | answer (after : TlsReaderState × Upstream × ReadPoll IoError)
      (turn : readTurn room before = some (.inr after)) (formed : after.1.WellFormed)
      (answered : Answered room (before.1.unread (segmentBytes before.2)) (pendingCount before.2)
        after)
  | again (after : TlsReaderState × Upstream) (turn : readTurn room before = some (.inl after))
      (formed : after.1.WellFormed) (closer : readerRank after < readerRank before)
      (kept : after.1.unread (segmentBytes after.2) = before.1.unread (segmentBytes before.2))
      (pendings : pendingCount after.2 = pendingCount before.2)

variable {room : Nat}

theorem TurnOutcome.poison {before : TlsReaderState × Upstream} {error : IoError}
    {upstream : Upstream} (turn : readTurn room before = some (poisonReader error upstream))
    (nothing : before.1.unread (segmentBytes before.2) = []) : TurnOutcome room before :=
  .answer _ turn trivial ⟨nothing, _, rfl⟩

theorem readTurn_poisoned (room : Nat) (error : Option IoError) (upstream : Upstream) :
    TurnOutcome room (.poisoned error, upstream) :=
  .answer _ rfl trivial ⟨rfl, _, rfl⟩

theorem readTurn_idle (room : Nat) (upstream : Upstream) : TurnOutcome room (.idle, upstream) := by
  by_cases full : room = 0
  · refine .answer _ (if_pos full) trivial ?_
    intro open_
    omega
  · refine .again _ (if_neg full) ?_ ?_ rfl rfl
    · show ([] : Bytes).length < tlsHeaderSize
      decide
    · exact Nat.lt_succ_self _

theorem readTurn_yielding (room : Nat) {buffer : YieldBuffer} (upstream : Upstream)
    (formed : buffer.asSlice ≠ []) : TurnOutcome room (.yielding buffer, upstream) := by
  by_cases full : room = 0
  · refine .answer _ (if_pos full) formed ?_
    intro open_
    omega
  · obtain ⟨copied, left⟩ := buffer.copyTo_spec (min buffer.remaining room)
    have split := List.take_append_drop (min buffer.remaining room) buffer.asSlice
    have some_copied : buffer.asSlice.take (min buffer.remaining room) ≠ [] := by
      have length := List.length_pos_of_ne_nil formed
      rw [Ne, List.take_eq_nil_iff, buffer.remaining_eq]
      rintro (none | nothing)
      · omega
      · exact formed nothing
    have turn : readTurn room (.yielding buffer, upstream) =
        some (.inr (if (buffer.copyTo (min buffer.remaining room)).1.isEmpty then .idle
          else .yielding (buffer.copyTo (min buffer.remaining room)).1, upstream,
          .ready (buffer.copyTo (min buffer.remaining room)).2)) := if_neg full
    rw [← copied] at some_copied split
    rw [← left] at split
    generalize buffer.copyTo (min buffer.remaining room) = after at turn split some_copied
    obtain ⟨buffer', bytes⟩ := after
    cases bytes with
    | nil => exact absurd rfl some_copied
    | cons b =>
      by_cases empty : buffer'.isEmpty = true
      · rw [if_pos empty] at turn
        rw [YieldBuffer.isEmpty_iff.mp empty, List.append_nil] at split
        refine .answer _ turn trivial ⟨?_, rfl⟩
        show buffer.asSlice ++ plaintext (segmentBytes upstream) = _
        rw [← split]
        rfl
      · rw [if_neg empty] at turn
        refine .answer _ turn ?_ ⟨?_, rfl⟩
        · exact fun nothing => empty (YieldBuffer.isEmpty_iff.mpr nothing)
        · show buffer.asSlice ++ plaintext (segmentBytes upstream) = _
          rw [← split, List.append_assoc]
          rfl

variable {rest : Bytes}

theorem unread_readingHeader_short {header : HeaderBuffer tlsHeaderSize}
    (short : (header.filled ++ rest).length < tlsHeaderSize) :
    (TlsReaderState.readingHeader header).unread rest = [] :=
  payloadsBefore_of_none (nextRecord_short short)

theorem bodyUnread_header {headerBytes : Bytes} {header : TlsRecordHeader}
    (parsed : TlsRecordHeader.parse headerBytes = some header) (valid : header.validate = .ok ()) :
    bodyUnread header.recordType header.length rest = plaintext (headerBytes ++ rest) := by
  have next := @nextRecord_header header headerBytes rest parsed (parse_length parsed) valid
  unfold bodyUnread plaintext
  by_cases cut : rest.length < header.length
  · rw [if_pos cut] at next ⊢
    rw [payloadsBefore_of_none next]
  · rw [if_neg cut] at next ⊢
    rw [payloadsBefore_of_some next]

inductive HeaderRead (upstream : Upstream) (header : HeaderBuffer tlsHeaderSize) :
    Upstream × HeaderBuffer tlsHeaderSize × HeaderPollResult → Prop
  | pending {upstream' header'} (short : header'.filled.length < tlsHeaderSize)
      (same : header'.filled ++ segmentBytes upstream' = header.filled ++ segmentBytes upstream)
      (pendings : pendingCount upstream' + 1 = pendingCount upstream) :
      HeaderRead upstream header (upstream', header', .pending)
  | eof {upstream' header'} (short : (header.filled ++ segmentBytes upstream).length < tlsHeaderSize) :
      HeaderRead upstream header (upstream', header', .eof)
  | error {upstream' header' error}
      (short : (header.filled ++ segmentBytes upstream).length < tlsHeaderSize) :
      HeaderRead upstream header (upstream', header', .error error)
  | complete {upstream' header' parsed}
      (isParsed : TlsRecordHeader.parse header'.filled = some parsed)
      (same : header'.filled ++ segmentBytes upstream' = header.filled ++ segmentBytes upstream)
      (count : segmentCount upstream' + tlsHeaderSize =
        segmentCount upstream + header.filled.length)
      (pendings : pendingCount upstream' = pendingCount upstream) :
      HeaderRead upstream header (upstream', header', .complete parsed)

theorem pollReadHeader_spec (upstream : Upstream) (header : HeaderBuffer tlsHeaderSize) :
    ∃ after, pollReadHeader upstream header = some after ∧ HeaderRead upstream header after := by
  obtain ⟨⟨_, header', poll⟩, ran, filled⟩ :=
    @fill_spec IoError _ upstream (HeaderBuffer.inbox tlsHeaderSize) header header.bounded
  unfold pollReadHeader
  rw [ran, Option.map_some]
  cases poll with
  | pending =>
    obtain ⟨short, same, pendings⟩ := filled
    exact ⟨_, rfl, .pending short same pendings⟩
  | failed error => exact ⟨_, rfl, .error filled⟩
  | ended =>
    refine ⟨_, rfl, ?_⟩
    dsimp only
    split_ifs with empty
    · exact .eof filled
    · exact .error filled
  | complete =>
    obtain ⟨full, same, count, pendings⟩ := filled
    obtain ⟨parsed, isParsed⟩ := TlsRecordHeader.parse_of_length full
    change TlsRecordHeader.parse header'.filled = some parsed at isParsed
    refine ⟨_, rfl, ?_⟩
    dsimp only
    rw [isParsed]
    exact .complete isParsed same count pendings

theorem readTurn_readingHeader (room : Nat) {header : HeaderBuffer tlsHeaderSize}
    (upstream : Upstream) (formed : header.filled.length < tlsHeaderSize) :
    TurnOutcome room (.readingHeader header, upstream) := by
  obtain ⟨after, ran, read⟩ := pollReadHeader_spec upstream header
  have turn : readTurn room (.readingHeader header, upstream) = some (afterHeaderPoll after) :=
    congrArg (Option.map afterHeaderPoll) ran
  cases read with
  | pending short same pendings =>
    exact .answer _ turn short ⟨congrArg plaintext same, pendings⟩
  | eof short => exact .answer _ turn trivial fun _ => unread_readingHeader_short short
  | error short => exact .poison turn (unread_readingHeader_short short)
  | @complete upstream' header' parsed isParsed same count pendings =>
    cases checked : parsed.validate with
    | error =>
      have nothing : plaintext (header'.filled ++ segmentBytes upstream') = [] :=
        payloadsBefore_of_none (nextRecord_invalid isParsed (parse_length isParsed) checked)
      rw [afterHeaderPoll, checked] at turn
      refine .poison turn ?_
      rw [← nothing, same]
      rfl
    | ok =>
      obtain ⟨known, _⟩ := TlsRecordHeader.validate_ok checked
      rw [afterHeaderPoll, checked] at turn
      refine .again _ turn ⟨known, Nat.zero_le _⟩ ?_ ?_ pendings
      · show 4 * segmentCount upstream' + 3 < 4 * segmentCount upstream + 1
        omega
      · show bodyUnread parsed.recordType parsed.length (segmentBytes upstream') =
          plaintext (header.filled ++ segmentBytes upstream)
        rw [bodyUnread_header isParsed checked, same]

inductive BodyRead (upstream : Upstream) (buffer : Bytes) (length : Nat) :
    Upstream × Bytes × BodyPollResult → Prop
  | pending {upstream' buffer'} (short : buffer'.length < length)
      (same : buffer' ++ segmentBytes upstream' = buffer ++ segmentBytes upstream)
      (pendings : pendingCount upstream' + 1 = pendingCount upstream) :
      BodyRead upstream buffer length (upstream', buffer', .pending)
  | error {upstream' buffer' error} (short : (buffer ++ segmentBytes upstream).length < length) :
      BodyRead upstream buffer length (upstream', buffer', .error error)
  | complete {upstream' data} (full : data.length = length)
      (same : data ++ segmentBytes upstream' = buffer ++ segmentBytes upstream)
      (count : segmentCount upstream' ≤ segmentCount upstream)
      (pendings : pendingCount upstream' = pendingCount upstream) :
      BodyRead upstream buffer length (upstream', [], .complete data)

theorem pollReadBody_spec (upstream : Upstream) {buffer : Bytes} {length : Nat}
    (fits : buffer.length ≤ length) :
    ∃ after, pollReadBody upstream buffer length = some after ∧
      BodyRead upstream buffer length after := by
  obtain ⟨⟨upstream', _, poll⟩, ran, filled⟩ :=
    @fill_spec IoError _ upstream (bodyInbox length) buffer fits
  unfold pollReadBody
  rw [ran, Option.map_some]
  cases poll with
  | pending =>
    obtain ⟨short, same, pendings⟩ := filled
    exact ⟨_, rfl, .pending short same pendings⟩
  | failed error | ended => exact ⟨_, rfl, .error filled⟩
  | complete =>
    obtain ⟨full, same, count, pendings⟩ := filled
    refine ⟨_, rfl, .complete full same ?_ pendings⟩
    change segmentCount upstream' + length = segmentCount upstream + buffer.length at count
    omega

variable {recordType : UInt8}

theorem bodyUnread_complete {data : Bytes} :
    bodyUnread recordType data.length (data ++ rest) =
      afterRecord endsReading ⟨recordType, data⟩ rest := by
  unfold bodyUnread
  rw [if_neg (by rw [List.length_append]; omega), List.take_left, List.drop_left]

theorem afterBody_outcome {before : TlsReaderState × Upstream} {data : Bytes} {upstream : Upstream}
    (turn : readTurn room before = some (afterBody recordType data upstream))
    (known : TlsRecordHeader.Known recordType)
    (rank : 4 * segmentCount upstream + 3 ≤ readerRank before)
    (left : before.1.unread (segmentBytes before.2) = afterRecord endsReading ⟨recordType, data⟩
      (segmentBytes upstream))
    (pendings : pendingCount upstream = pendingCount before.2) : TurnOutcome room before := by
  have closer : 4 * segmentCount upstream + 2 < readerRank before := by omega
  rcases known with rfl | rfl | rfl | rfl
  · by_cases empty : data = []
    · subst empty
      exact .again (.idle, upstream) turn trivial closer left.symm pendings
    · have yields : afterBody tlsRecordApplication data upstream =
          .inl (.yielding { data := data }, upstream) := if_neg empty
      rw [yields] at turn
      refine .again _ turn empty ?_ left.symm pendings
      show 4 * segmentCount upstream + 0 < readerRank before
      omega
  · exact .again (.idle, upstream) turn trivial closer left.symm pendings
  · exact .answer (.idle, upstream, .ready []) turn trivial fun _ => left
  · exact .poison turn left

theorem readTurn_readingBody (room : Nat) {length : Nat} {buffer : Bytes} (upstream : Upstream)
    (known : TlsRecordHeader.Known recordType) (fits : buffer.length ≤ length) :
    TurnOutcome room (.readingBody recordType length buffer, upstream) := by
  obtain ⟨after, ran, read⟩ := pollReadBody_spec upstream fits
  have turn : readTurn room (.readingBody recordType length buffer, upstream) =
      some (afterBodyPoll recordType length after) :=
    congrArg (Option.map (afterBodyPoll recordType length)) ran
  cases read with
  | pending short same pendings =>
    exact .answer _ turn ⟨known, short.le⟩
      ⟨congrArg (bodyUnread recordType length) same, pendings⟩
  | error short => exact .poison turn (if_pos short)
  | complete full same _ pendings =>
    subst full
    refine afterBody_outcome turn known ?_ ?_ pendings
    · show 4 * _ + 3 ≤ 4 * segmentCount upstream + 3
      omega
    · show bodyUnread recordType _ (buffer ++ segmentBytes upstream) = _
      rw [← same, bodyUnread_complete]

theorem readTurn_outcome (room : Nat) (reader : TlsReaderState × Upstream)
    (formed : reader.1.WellFormed) : TurnOutcome room reader := by
  obtain ⟨state, upstream⟩ := reader
  cases state with
  | idle => exact readTurn_idle room upstream
  | readingHeader => exact readTurn_readingHeader room upstream formed
  | readingBody _ _ buffer =>
    exact readTurn_readingBody room upstream formed.1 formed.2
  | yielding => exact readTurn_yielding room upstream formed
  | poisoned error => exact readTurn_poisoned room error upstream

theorem pollRead_spec (room : Nat) (reader : TlsReaderState × Upstream)
    (formed : reader.1.WellFormed) :
    ∃ after, pollRead room reader = some after ∧ after.1.WellFormed ∧
      Answered room (reader.1.unread (segmentBytes reader.2)) (pendingCount reader.2) after := by
  refine loop_spec readerRank (fun reader => reader.1.WellFormed) (fun reader after =>
    after.1.WellFormed ∧
      Answered room (reader.1.unread (segmentBytes reader.2)) (pendingCount reader.2) after)
    ?_ formed ?_
  · intro reader formed
    cases readTurn_outcome room reader formed with
    | answer after turn formed answered => exact Or.inl ⟨after, turn, formed, answered⟩
    | again next turn formed closer kept pendings =>
      refine Or.inr ⟨next, turn, formed, closer, ?_⟩
      intro after met
      rw [kept, pendings] at met
      exact met
  · have small : reader.1.rank < 4 := by
      cases reader.1 <;> simp [rank]
    show 4 * segmentCount reader.2 + reader.1.rank < 4 * segmentCount reader.2 + 4
    omega

def isFailed : ReadPoll IoError → Bool
  | .failed _ => true
  | _ => false

def stopsReading : ReadPoll IoError → Bool
  | .ready [] => true
  | .failed _ => true
  | _ => false

def yielded : List (ReadPoll IoError) → Bytes
  | [] => []
  | .pending :: polls => yielded polls
  | .ready [] :: _ => []
  | .ready (b :: bytes) :: polls => (b :: bytes) ++ yielded polls
  | .failed _ :: _ => []

def firstStop (rooms : List Nat) (polls : List (ReadPoll IoError)) :
    Option (Nat × ReadPoll IoError) :=
  (rooms.zip polls).find? fun call => stopsReading call.2

structure ReadsMet (left : Bytes) (pendings : Nat) (rooms : List Nat)
    (polls : List (ReadPoll IoError)) : Prop where
  length_eq : polls.length = rooms.length
  handed : ∃ unread, left = yielded polls ++ unread ∧
    ∀ room poll, firstStop rooms polls = some (room, poll) →
      (isFailed poll = true ∨ 0 < room) → unread = []
  stops : pendings + left.length < rooms.length → (firstStop rooms polls).isSome = true
  failures : polls.Pairwise fun earlier later => isFailed earlier = true → isFailed later = true

variable {polls : List (ReadPoll IoError)} {rooms : List Nat}

theorem pollReads_cons {reader next : TlsReaderState × Upstream} {poll : ReadPoll IoError}
    (first : pollRead room reader = some (next.1, next.2, poll))
    (rest : pollReads next rooms = some polls) :
    pollReads reader (room :: rooms) = some (poll :: polls) := by
  rw [pollReads, first]
  exact congrArg (Option.map (poll :: ·)) rest

theorem pollReads_poisoned (error : Option IoError) (upstream : Upstream) (rooms : List Nat) :
    ∃ polls, pollReads (.poisoned error, upstream) rooms = some polls ∧
      polls.length = rooms.length ∧ ∀ poll ∈ polls, isFailed poll = true := by
  induction rooms generalizing error with
  | nil => exact ⟨[], rfl, rfl, nofun⟩
  | cons room _ ih =>
    obtain ⟨polls, ran, length, failures⟩ := ih none
    have first : pollRead room (.poisoned error, upstream) =
        some (.poisoned none, upstream, .failed (error.getD .poisoned)) := rfl
    refine ⟨.failed (error.getD .poisoned) :: polls, ?_, congrArg Nat.succ length, ?_⟩
    · exact pollReads_cons first ran
    · intro poll member
      rcases List.mem_cons.mp member with rfl | later
      · rfl
      · exact failures poll later

theorem ReadsMet.pending {left : Bytes} {pendings pendings' : Nat}
    (rest : ReadsMet left pendings' rooms polls)
    (stalled : pendings' + 1 = pendings) :
    ReadsMet left pendings (room :: rooms) (.pending :: polls) where
  length_eq := congrArg Nat.succ rest.length_eq
  handed := rest.handed
  stops := by
    intro many
    rw [List.length_cons] at many
    exact rest.stops (by omega)
  failures := List.pairwise_cons.mpr
    ⟨fun _ _ failed => absurd failed Bool.false_ne_true, rest.failures⟩

theorem ReadsMet.ready {left unread : Bytes} {b : UInt8} {bytes : Bytes} {pendings : Nat}
    (rest : ReadsMet unread pendings rooms polls) (split : left = (b :: bytes) ++ unread) :
    ReadsMet left pendings (room :: rooms) (.ready (b :: bytes) :: polls) where
  length_eq := congrArg Nat.succ rest.length_eq
  handed := by
    obtain ⟨later, handed, ends⟩ := rest.handed
    refine ⟨later, ?_, ends⟩
    rw [split, handed, yielded, List.append_assoc]
  stops := by
    intro many
    rw [split, List.length_append, List.length_cons, List.length_cons] at many
    exact rest.stops (by omega)
  failures := List.pairwise_cons.mpr
    ⟨fun _ _ failed => absurd failed Bool.false_ne_true, rest.failures⟩

theorem pollReads_spec (reader : TlsReaderState × Upstream) (rooms : List Nat)
    (formed : reader.1.WellFormed) :
    ∃ polls, pollReads reader rooms = some polls ∧
      ReadsMet (reader.1.unread (segmentBytes reader.2)) (pendingCount reader.2) rooms polls := by
  induction rooms generalizing reader with
  | nil =>
    refine ⟨[], rfl, rfl, ⟨_, rfl, ?_⟩, ?_, List.Pairwise.nil⟩
    · intro room poll first
      cases first
    · intro many
      exact absurd many (Nat.not_lt_zero _)
  | cons room rooms ih =>
    obtain ⟨⟨state, upstream, poll⟩, ran, formed', answered⟩ := pollRead_spec room reader formed
    obtain ⟨polls, rest, met⟩ := ih (state, upstream) formed'
    refine ⟨poll :: polls, pollReads_cons ran rest, ?_⟩
    cases poll with
    | pending =>
      obtain ⟨kept, stalled⟩ := answered
      rw [← kept]
      exact met.pending stalled
    | ready bytes =>
      cases bytes with
      | nil =>
        refine ⟨congrArg Nat.succ met.length_eq, ⟨_, rfl, ?_⟩, fun _ => rfl, ?_⟩
        · rintro _ _ ⟨⟩ (failed | room_left)
          · cases failed
          · exact answered room_left
        · exact List.pairwise_cons.mpr ⟨fun _ _ failed => absurd failed Bool.false_ne_true, met.failures⟩
      | cons b =>
        obtain ⟨split, pendings⟩ := answered
        rw [← pendings]
        exact met.ready split
    | failed =>
      obtain ⟨nothing, stored, poisoned⟩ := answered
      refine ⟨congrArg Nat.succ met.length_eq, ⟨_, rfl, fun _ _ _ _ => nothing⟩,
        fun _ => rfl, ?_⟩
      subst poisoned
      obtain ⟨_, rest', _, failures⟩ := pollReads_poisoned stored upstream rooms
      cases rest.symm.trans rest'
      exact List.pairwise_cons.mpr ⟨fun later member _ => failures later member, met.failures⟩

theorem plaintext_truncated {headerBytes body : Bytes} {header : TlsRecordHeader}
    (parsed : TlsRecordHeader.parse headerBytes = some header)
    (cut : body.length < header.length) : plaintext (headerBytes ++ body) = [] := by
  cases checked : header.validate with
  | error =>
    exact payloadsBefore_of_none (nextRecord_invalid parsed (parse_length parsed) checked)
  | ok =>
    rw [← bodyUnread_header parsed checked]
    exact if_pos cut

theorem reader_yields_application_data (upstream : Upstream) (rooms : List Nat) :
    ∃ polls, pollReads (.idle, upstream) rooms = some polls ∧ polls.length = rooms.length ∧
      (∃ unread, plaintext (segmentBytes upstream) = yielded polls ++ unread ∧
        ∀ room poll, firstStop rooms polls = some (room, poll) →
          (isFailed poll = true ∨ 0 < room) → unread = []) ∧
      (pendingCount upstream + (plaintext (segmentBytes upstream)).length < rooms.length →
        (firstStop rooms polls).isSome = true) ∧
      (polls.Pairwise fun earlier later => isFailed earlier = true → isFailed later = true) ∧
      ∀ headerBytes header body, TlsRecordHeader.parse headerBytes = some header →
        body.length < header.length → plaintext (headerBytes ++ body) = [] := by
  obtain ⟨polls, ran, met⟩ := pollReads_spec (.idle, upstream) rooms trivial
  refine ⟨polls, ran, met.length_eq, met.handed, met.stops, met.failures, ?_⟩
  intro headerBytes header body parsed cut
  exact plaintext_truncated parsed cut

/-- A handshake record fails the reader before the payload behind it, and a read into an empty
buffer returns nothing with the whole payload still to come. -/
theorem handshake_and_empty_buffer_stop_early :
    (pollReads (.idle, [.data [0x16, 3, 3, 0, 4, 1, 2, 3, 4, 0x17, 3, 3, 0, 1, 9]]) [8] =
        some [.failed ⟨.invalidData, "unexpected TLS handshake record"⟩] ∧
      payloadsBefore (fun record => record.recordType = tlsRecordAlert)
        [0x16, 3, 3, 0, 4, 1, 2, 3, 4, 0x17, 3, 3, 0, 1, 9] = [9]) ∧
    pollReads (.idle, [.data [0x17, 3, 3, 0, 1, 9]]) [0, 8] = some [.ready [], .ready [9]] ∧
      payloadsBefore (fun record => record.recordType = tlsRecordAlert) [0x17, 3, 3, 0, 1, 9] = [9] := by
  decide +kernel

end Telemt.Stream
