import Telemt.Stream.TlsRecord

namespace Telemt.Stream
open Foundation

/-! # The FakeTLS reader -/

abbrev Upstream := List (Segment IoError)

inductive TlsReaderState
  | idle
  | readingHeader (header : HeaderBuffer tlsHeaderSize)
  | readingBody (recordType : UInt8) (length : Nat) (buffer : Bytes)
  | yielding (buffer : YieldBuffer)
  | poisoned (error : Option IoError)

inductive HeaderPollResult
  | pending
  | eof
  | complete (header : TlsRecordHeader)
  | error (error : IoError)

def pollReadHeader (upstream : Upstream) (header : HeaderBuffer tlsHeaderSize) :
    Option (Upstream × HeaderBuffer tlsHeaderSize × HeaderPollResult) :=
  (fill (HeaderBuffer.inbox tlsHeaderSize) upstream header).map fun
    | (upstream, header, .pending) => (upstream, header, .pending)
    | (upstream, header, .failed error) => (upstream, header, .error error)
    | (upstream, header, .ended) =>
      let got := header.filled.length
      (upstream, header,
        if header.filled = [] then .eof
        else .error ⟨.unexpectedEof, s!"unexpected EOF in TLS header (got {got} of 5 bytes)"⟩)
    | (upstream, header, .complete) =>
      (upstream, header,
        match TlsRecordHeader.parse header.filled with
        | some parsed => .complete parsed
        | none => .error ⟨.invalidData, "failed to parse TLS header"⟩)

inductive BodyPollResult
  | pending
  | complete (data : Bytes)
  | error (error : IoError)

def bodyInbox (length : Nat) : Inbox Bytes where
  target := length
  chunk := fun missing => min missing 8192
  contents := id
  extend := (· ++ ·)
  chunk_pos := fun _ missing => lt_min missing (by decide)
  chunk_le := fun _ => Nat.min_le_left _ _
  contents_extend := fun _ _ _ => rfl

def pollReadBody (upstream : Upstream) (buffer : Bytes) (targetLen : Nat) :
    Option (Upstream × Bytes × BodyPollResult) :=
  (fill (bodyInbox targetLen) upstream buffer).map fun
    | (upstream, buffer, .pending) => (upstream, buffer, .pending)
    | (upstream, buffer, .failed error) => (upstream, buffer, .error error)
    | (upstream, buffer, .ended) =>
      let got := buffer.length
      (upstream, buffer, .error
        ⟨.unexpectedEof, s!"unexpected EOF in TLS body (got {got} of {targetLen} bytes)"⟩)
    | (upstream, buffer, .complete) => (upstream, [], .complete buffer)

abbrev ReaderTurn :=
  (TlsReaderState × Upstream) ⊕ (TlsReaderState × Upstream × ReadPoll IoError)

def poisonReader (error : IoError) (upstream : Upstream) : ReaderTurn :=
  .inr (.poisoned (some error), upstream, .failed error)

def afterHeaderPoll : Upstream × HeaderBuffer tlsHeaderSize × HeaderPollResult → ReaderTurn
  | (upstream, header, .pending) => .inr (.readingHeader header, upstream, .pending)
  | (upstream, _, .eof) => .inr (.idle, upstream, .ready [])
  | (upstream, _, .error error) => poisonReader error upstream
  | (upstream, _, .complete parsed) =>
    match parsed.validate with
    | .error error => poisonReader error upstream
    | .ok () => .inl (.readingBody parsed.recordType parsed.length [], upstream)

def afterBody (recordType : UInt8) (data : Bytes) (upstream : Upstream) : ReaderTurn :=
  let shownType := hexByte recordType
  if recordType = tlsRecordChangeCipher then .inl (.idle, upstream)
  else if recordType = tlsRecordApplication then
    if data = [] then .inl (.idle, upstream)
    else .inl (.yielding { data := data }, upstream)
  else if recordType = tlsRecordAlert then .inr (.idle, upstream, .ready [])
  else if recordType = tlsRecordHandshake then
    poisonReader ⟨.invalidData, "unexpected TLS handshake record"⟩ upstream
  else poisonReader ⟨.invalidData, s!"unknown TLS record type: 0x{shownType}"⟩ upstream

def afterBodyPoll (recordType : UInt8) (length : Nat) :
    Upstream × Bytes × BodyPollResult → ReaderTurn
  | (upstream, buffer, .pending) => .inr (.readingBody recordType length buffer, upstream, .pending)
  | (upstream, _, .error error) => poisonReader error upstream
  | (upstream, _, .complete data) => afterBody recordType data upstream

def readTurn (room : Nat) : TlsReaderState × Upstream → Option ReaderTurn
  | (.poisoned error, upstream) =>
    some (.inr (.poisoned none, upstream, .failed (error.getD .poisoned)))
  | (.yielding buffer, upstream) =>
    if room = 0 then some (.inr (.yielding buffer, upstream, .ready []))
    else
      let (buffer', copied) := buffer.copyTo (min buffer.remaining room)
      let next := if buffer'.isEmpty then .idle else .yielding buffer'
      some (.inr (next, upstream, .ready copied))
  | (.idle, upstream) =>
    if room = 0 then some (.inr (.idle, upstream, .ready []))
    else some (.inl (.readingHeader HeaderBuffer.new, upstream))
  | (.readingHeader header, upstream) =>
    (pollReadHeader upstream header).map afterHeaderPoll
  | (.readingBody recordType length buffer, upstream) =>
    (pollReadBody upstream buffer length).map (afterBodyPoll recordType length)

/-- A header takes at least one byte of the upstream, so four rounds for each byte left are enough
for any number of records skipped in one call. -/
def pollRead (room : Nat) (reader : TlsReaderState × Upstream) :
    Option (TlsReaderState × Upstream × ReadPoll IoError) :=
  loop (readTurn room) (4 * segmentCount reader.2 + 4) reader

def pollReads : TlsReaderState × Upstream → List Nat → Option (List (ReadPoll IoError))
  | _, [] => some []
  | reader, room :: rooms =>
    (pollRead room reader).bind fun (state, upstream, poll) =>
      (pollReads (state, upstream) rooms).map (poll :: ·)

end Telemt.Stream
