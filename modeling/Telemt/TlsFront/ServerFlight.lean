import Telemt.Foundation.Layout
import Telemt.Foundation.Wire
import Telemt.TlsFront.CertificateFlight
import Telemt.TlsFront.ServerHello

namespace Telemt.TlsFront
open Telemt.Foundation Telemt.Stream

/-! # The server flight as a client reads it -/

abbrev Record := TlsRecordHeader × Bytes

variable (input : Bytes)

def readRecord : Option (Record × Bytes) := do
  let (head, rest) ← takeExactly tlsHeaderSize input
  let header ← TlsRecordHeader.parse head
  let (payload, rest) ← takeExactly header.length rest
  return ((header, payload), rest)

def readRecords : Option (List Record) := readAll readRecord input.length input

abbrev HelloExtension := Bytes × Bytes

def readExtension : Option (HelloExtension × Bytes) := do
  let (etype, rest) ← takeExactly 2 input
  let (data, rest) ← takeCounted 2 rest
  return ((etype, data), rest)

def readKeyShare (data : Bytes) : Option Bytes := do
  let (_, rest) ← takeExactly 2 data
  let (key, rest) ← takeCounted 2 rest
  if rest = [] then return key else none

structure ServerHello where
  version : Bytes
  random : Bytes
  sessionId : Bytes
  cipherSuite : Bytes
  compression : Bytes
  extensions : List HelloExtension

def readServerHelloBody (body : Bytes) : Option ServerHello := do
  let (version, body) ← takeExactly 2 body
  let (random, body) ← takeExactly 32 body
  let (sessionId, body) ← takeCounted 1 body
  let (cipherSuite, body) ← takeExactly 2 body
  let (compression, body) ← takeExactly 1 body
  let (extensionBytes, body) ← takeCounted 2 body
  if body = [] then do
    let extensions ← readAll readExtension extensionBytes.length extensionBytes
    return ⟨version, random, sessionId, cipherSuite, compression, extensions⟩
  else none

def readServerHello (message : Bytes) : Option ServerHello := do
  let (messageType, rest) ← takeExactly 1 message
  let (body, rest) ← takeCounted 3 rest
  if messageType = [0x02] ∧ rest = [] then readServerHelloBody body else none

def keyShareType : Bytes := [0x00, 0x33]

def withoutRandom (output : Bytes) : Bytes :=
  output.take tlsDigestPos ++ List.replicate tlsDigestLen 0 ++
    output.drop (tlsDigestPos + tlsDigestLen)

def WellFormedFlight (prims : Primitives) (secret clientDigest output : Bytes) : Prop :=
  ∃ header message rest hello,
    readRecords output = some ((header, message) :: rest) ∧
    header.recordType = tlsRecordHandshake ∧
    (∀ record ∈ (header, message) :: rest,
      TlsRecordHeader.Known record.1.recordType ∧ record.1.version = tlsVersion) ∧
    readServerHello message = some hello ∧
    (∀ extension ∈ hello.extensions, extension.1 = keyShareType →
      (readKeyShare extension.2).isSome) ∧
    hello.random = (output.drop tlsDigestPos).take tlsDigestLen ∧
    hello.random = prims.sha256Hmac secret (clientDigest ++ withoutRandom output)

def Record.encode (record : Record) : Bytes := record.1.toBytes ++ record.2

def Record.Formed (record : Record) : Prop :=
  record.1.length = record.2.length ∧ record.2.length < 65536 ∧
    TlsRecordHeader.Known record.1.recordType ∧ record.1.version = tlsVersion

theorem toBytes_length (header : TlsRecordHeader) : header.toBytes.length = tlsHeaderSize := rfl

theorem readRecord_encode (record : Record) (rest : Bytes) (formed : record.Formed) :
    readRecord (record.encode ++ rest) = some (record, rest) := by
  obtain ⟨header, _⟩ := record
  obtain ⟨sized, small, -⟩ := formed
  have parsed : TlsRecordHeader.parse header.toBytes = some header :=
    TlsRecordHeader.parse_toBytes (sized ▸ small)
  rw [readRecord, Record.encode, List.append_assoc,
    takeExactly_append (toBytes_length header)]
  simp [parsed, takeExactly_append sized.symm]

theorem readRecords_flatMap {records : List Record} (formed : ∀ record ∈ records, record.Formed) :
    readRecords (records.flatMap Record.encode) = some records := by
  have positive : ∀ record : Record, 0 < record.encode.length := by
    intro record
    simp [Record.encode, toBytes_length, tlsHeaderSize]
  exact readAll_flatMap readRecord_encode
    (fun record => List.ne_nil_of_length_pos (positive record)) formed
    (length_le_flatMap positive records)

def RecordRow (bytes : Bytes) : Prop :=
  ∃ records : List Record, (∀ record ∈ records, record.Formed) ∧
    bytes = records.flatMap Record.encode

theorem recordRow_nil : RecordRow [] := ⟨[], by simp, rfl⟩

theorem RecordRow.append {first second : Bytes} (one : RecordRow first) (two : RecordRow second) :
    RecordRow (first ++ second) := by
  obtain ⟨firsts, formed, rfl⟩ := one
  obtain ⟨seconds, alsoFormed, rfl⟩ := two
  exact ⟨firsts ++ seconds, List.forall_mem_append.mpr ⟨formed, alsoFormed⟩,
    (List.flatMap_append ..).symm⟩

theorem recordRow_record {record : Record} (formed : record.Formed) : RecordRow record.encode :=
  ⟨[record], by simpa using formed, by simp⟩

theorem recordRow_changeCipherSpec : RecordRow changeCipherSpec :=
  @recordRow_record (⟨tlsRecordChangeCipher, tlsVersion, 1⟩, [0x01])
    ⟨rfl, by decide, Or.inr (Or.inl rfl), rfl⟩

theorem recordRow_application {len : Nat} {payload : Bytes} (sized : payload.length = len)
    (small : len < 65536) : RecordRow (applicationRecord len payload) := by
  rw [applicationRecord, Nat.mod_eq_of_lt small]
  exact @recordRow_record (⟨tlsRecordApplication, tlsVersion, len⟩, payload)
    ⟨sized.symm, sized ▸ small, Or.inl rfl, rfl⟩

def encodeExtension (extension : HelloExtension) : Bytes := extension.1 ++ counted 2 extension.2

def ExtensionFormed (extension : HelloExtension) : Prop :=
  extension.1.length = 2 ∧ extension.2.length ≤ 36 ∧
    (extension.1 = keyShareType → (readKeyShare extension.2).isSome)

theorem readExtension_encode (extension : HelloExtension) (rest : Bytes)
    (formed : ExtensionFormed extension) :
    readExtension (encodeExtension extension ++ rest) = some (extension, rest) := by
  obtain ⟨_, data⟩ := extension
  obtain ⟨typed, small, -⟩ := formed
  have fits : data.length < 256 ^ 2 := lt_of_le_of_lt small (by decide)
  rw [readExtension, encodeExtension, List.append_assoc, takeExactly_append typed]
  simp [takeCounted_counted fits]

theorem encodeExtension_ne_nil (extension : HelloExtension) : encodeExtension extension ≠ [] := by
  refine List.ne_nil_of_length_pos ?_
  rw [encodeExtension, List.length_append, counted_length]
  omega

structure HelloParts where
  version : Bytes
  sessionId : Bytes
  cipherSuite : Bytes
  compression : Bytes
  extensions : List HelloExtension
  version_length : version.length = 2
  sessionId_length : sessionId.length < 256
  cipherSuite_length : cipherSuite.length = 2
  compression_length : compression.length = 1
  extensions_formed : ∀ extension ∈ extensions, ExtensionFormed extension
  extensions_length : extensions.length ≤ 2

namespace HelloParts
variable (parts : HelloParts) {random : Bytes}

def extensionBytes : Bytes := parts.extensions.flatMap encodeExtension

def afterRandom : Bytes :=
  counted 1 parts.sessionId ++ (parts.cipherSuite ++ (parts.compression ++
    counted 2 parts.extensionBytes))

def message (random : Bytes) : Bytes :=
  [0x02] ++ counted 3 (parts.version ++ (random ++ parts.afterRandom))

def record (random : Bytes) : Record :=
  (⟨tlsRecordHandshake, tlsVersion, (parts.message random).length⟩, parts.message random)

theorem extensionBytes_length : parts.extensionBytes.length ≤ 80 := by
  have each : ∀ extension ∈ parts.extensions, (encodeExtension extension).length ≤ 40 := by
    intro extension member
    obtain ⟨_, _, -⟩ := parts.extensions_formed extension member
    rw [encodeExtension, List.length_append, counted_length]
    omega
  calc parts.extensionBytes.length
    _ = (parts.extensions.map fun extension => (encodeExtension extension).length).sum :=
        List.length_flatMap ..
    _ ≤ (parts.extensions.map fun extension => (encodeExtension extension).length).length • 40 := by
        apply List.sum_le_card_nsmul
        exact List.forall_mem_map.mpr each
    _ ≤ 80 := by
        have few := parts.extensions_length
        rw [List.length_map, smul_eq_mul]
        omega

theorem afterRandom_length : parts.afterRandom.length ≤ 341 := by
  have few := parts.extensionBytes_length
  have short := parts.sessionId_length
  simp only [afterRandom, List.length_append, counted_length, parts.cipherSuite_length,
    parts.compression_length]
  omega

section
variable (sized : random.length = 32)
include sized

theorem message_length : (parts.message random).length = 38 + parts.afterRandom.length := by
  simp only [message, List.length_append, counted_length, List.length_singleton, sized,
    parts.version_length]
  omega

theorem message_small : (parts.message random).length < 65536 := by
  have short := parts.afterRandom_length
  rw [parts.message_length sized]
  omega

theorem record_formed : (parts.record random).Formed :=
  ⟨rfl, parts.message_small sized, Or.inr (Or.inr (Or.inr rfl)), rfl⟩

theorem readServerHelloBody_eq :
    readServerHelloBody (parts.version ++ (random ++ parts.afterRandom)) =
      some ⟨parts.version, random, parts.sessionId, parts.cipherSuite, parts.compression,
        parts.extensions⟩ := by
  have few := parts.extensionBytes_length
  have extensions : readAll readExtension parts.extensionBytes.length parts.extensionBytes =
      some parts.extensions :=
    readAll_flatMap readExtension_encode encodeExtension_ne_nil parts.extensions_formed
      (length_le_flatMap (fun extension => List.length_pos_of_ne_nil (encodeExtension_ne_nil _)) _)
  have sessionId := @takeCounted_counted 1 parts.sessionId parts.sessionId_length
  have last := @takeCounted_counted 2 parts.extensionBytes (by omega) []
  rw [List.append_nil] at last
  rw [readServerHelloBody, takeExactly_append parts.version_length]
  simp [afterRandom, takeExactly_append sized, sessionId,
    takeExactly_append parts.cipherSuite_length, takeExactly_append parts.compression_length, last,
    extensions]

theorem readServerHello_message :
    readServerHello (parts.message random) = some ⟨parts.version, random, parts.sessionId,
      parts.cipherSuite, parts.compression, parts.extensions⟩ := by
  have short := parts.afterRandom_length
  have whole := @takeCounted_counted 3 (parts.version ++ (random ++ parts.afterRandom)) (by
    simp only [List.length_append, sized, parts.version_length]
    omega) []
  rw [List.append_nil] at whole
  rw [readServerHello, message, takeExactly_append (List.length_singleton)]
  simp [whole, parts.readServerHelloBody_eq sized]

end

def beforeRandom : Bytes :=
  TlsRecordHeader.toBytes ⟨tlsRecordHandshake, tlsVersion, 38 + parts.afterRandom.length⟩ ++
    ([0x02] ++ ((leBytes 3 (34 + parts.afterRandom.length)).reverse ++ parts.version))

theorem beforeRandom_length : parts.beforeRandom.length = tlsDigestPos := by
  simp [beforeRandom, toBytes_length, tlsHeaderSize, parts.version_length, tlsDigestPos]

theorem record_encode (sized : random.length = 32) :
    (parts.record random).encode = parts.beforeRandom ++ (random ++ parts.afterRandom) := by
  have body : (parts.version ++ (random ++ parts.afterRandom)).length =
      34 + parts.afterRandom.length := by
    simp only [List.length_append, sized, parts.version_length]
    omega
  rw [Record.encode, record, parts.message_length sized, message, counted, body, beforeRandom]
  simp only [List.append_assoc]

end HelloParts

section Digest
variable {prims : Primitives} {secret clientDigest before random after : Bytes}

section
variable (start : before.length = tlsDigestPos) (sized : random.length = tlsDigestLen)
include start sized

theorem insertDigest_eq :
    insertDigest prims secret clientDigest (before ++ (random ++ after)) =
      before ++ (prims.sha256Hmac secret (clientDigest ++ (before ++ (random ++ after))) ++ after) := by
  rw [insertDigest, ← start, List.take_left, ← sized, ← List.drop_drop, List.drop_left,
    List.drop_left, List.append_assoc]

theorem withoutRandom_eq :
    withoutRandom (before ++ (random ++ after)) =
      before ++ (List.replicate tlsDigestLen 0 ++ after) := by
  rw [withoutRandom, ← start, List.take_left, ← List.drop_drop, List.drop_left]
  rw [show (random ++ after).drop tlsDigestLen = after by rw [← sized, List.drop_left],
    List.append_assoc]

theorem random_eq :
    ((before ++ (random ++ after)).drop tlsDigestPos).take tlsDigestLen = random := by
  rw [← start, List.drop_left, ← sized, List.take_left]

end

end Digest

theorem wellFormedFlight_of_parts (prims : Primitives) (secret clientDigest : Bytes)
    (parts : HelloParts) {rest : Bytes} (row : RecordRow rest) :
    WellFormedFlight prims secret clientDigest (insertDigest prims secret clientDigest
      ((parts.record (List.replicate 32 0)).encode ++ rest)) := by
  obtain ⟨records, formed, rfl⟩ := row
  have blank : (List.replicate 32 (0 : UInt8)).length = 32 := List.length_replicate
  generalize response_eq : (parts.record (List.replicate 32 0)).encode ++
    records.flatMap Record.encode = response
  have parted : response = parts.beforeRandom ++ (List.replicate 32 0 ++
      (parts.afterRandom ++ records.flatMap Record.encode)) := by
    rw [← response_eq, parts.record_encode blank]
    simp only [List.append_assoc]
  have signed := prims.hmac_length secret (clientDigest ++ response)
  generalize digest_eq : prims.sha256Hmac secret (clientDigest ++ response) = digest at signed
  have shape : insertDigest prims secret clientDigest response = parts.beforeRandom ++ (digest ++
      (parts.afterRandom ++ records.flatMap Record.encode)) := by
    rw [← digest_eq]
    conv_lhs => rw [parted, insertDigest_eq parts.beforeRandom_length blank, ← parted]
  have output : insertDigest prims secret clientDigest response =
      (parts.record digest :: records).flatMap Record.encode := by
    rw [shape, List.flatMap_cons, parts.record_encode signed]
    simp only [List.append_assoc]
  have allFormed : ∀ record ∈ parts.record digest :: records, record.Formed :=
    List.forall_mem_cons.mpr ⟨parts.record_formed signed, formed⟩
  refine ⟨(parts.record digest).1, (parts.record digest).2, records, _, ?_, rfl, ?_,
    parts.readServerHello_message signed, ?_, ?_, ?_⟩
  · rw [output]
    exact readRecords_flatMap allFormed
  · intro record member
    exact (allFormed record member).2.2
  · intro extension member
    exact (parts.extensions_formed extension member).2.2
  · rw [shape, random_eq parts.beforeRandom_length signed]
  · rw [shape, withoutRandom_eq parts.beforeRandom_length signed, ← digest_eq]
    exact congrArg _ (congrArg _ parted)

structure KeyPrimitives extends Primitives where
  x25519_length : ∀ scalar, (x25519 scalar).length = 32

instance : Coe KeyPrimitives Primitives := ⟨KeyPrimitives.toPrimitives⟩

structure RangedRandom extends SecureRandom where
  range_lt : ∀ call max, 0 < max → range call max < max

instance : Coe RangedRandom SecureRandom := ⟨RangedRandom.toSecureRandom⟩

def keyShare (key : Bytes) : HelloExtension := (keyShareType, [0x00, 0x1d] ++ counted 2 key)

def supportedVersions : HelloExtension := ([0x00, 0x2b], [0x03, 0x04])

theorem keyShare_formed {key : Bytes} (sized : key.length = 32) : ExtensionFormed (keyShare key) := by
  have read := @takeCounted_counted 2 key (by rw [sized]; decide) []
  rw [List.append_nil] at read
  refine ⟨rfl, ?_, fun _ => ?_⟩
  · simp [keyShare, sized]
  · have group := takeExactly_append (show [(0x00 : UInt8), 0x1d].length = 2 from rfl) (counted 2 key)
    show (readKeyShare ([0x00, 0x1d] ++ counted 2 key)).isSome
    rw [readKeyShare, group]
    simp [read]

theorem supportedVersions_formed : ExtensionFormed supportedVersions :=
  ⟨rfl, by decide, fun sameType => absurd sameType (by decide)⟩

theorem encode_keyShare {key : Bytes} (sized : key.length = 32) :
    encodeExtension (keyShare key) =
      beBytes 2 0x0033 ++ beBytes 2 (2 + 2 + 32) ++ beBytes 2 0x001d ++ beBytes 2 32 ++ key := by
  simp [encodeExtension, keyShare, keyShareType, counted, sized, beBytes, leBytes]

theorem encode_supportedVersions :
    encodeExtension supportedVersions = beBytes 2 0x002b ++ beBytes 2 2 ++ beBytes 2 0x0304 := by
  decide

theorem HelloParts.message_eq (parts : HelloParts) :
    parts.message (List.replicate 32 0) =
      [0x02] ++ beBytes 3 (2 + 32 + 1 + parts.sessionId.length + 2 + 1 + 2 +
        parts.extensionBytes.length) ++ parts.version ++ List.replicate 32 0 ++
        [UInt8.ofNat parts.sessionId.length] ++ parts.sessionId ++ parts.cipherSuite ++
        parts.compression ++ beBytes 2 parts.extensionBytes.length ++ parts.extensionBytes := by
  have total : (parts.version ++ (List.replicate 32 0 ++ parts.afterRandom)).length =
      2 + 32 + 1 + parts.sessionId.length + 2 + 1 + 2 + parts.extensionBytes.length := by
    simp only [HelloParts.afterRandom, List.length_append, List.length_replicate, counted_length,
      parts.version_length, parts.cipherSuite_length, parts.compression_length]
    omega
  rw [HelloParts.message, counted, total]
  simp [HelloParts.afterRandom, counted, beBytes, leBytes]

section Emulated
variable (prims : KeyPrimitives) (rng : RangedRandom)

def Replayed (replay : ExtensionReplay) : Prop :=
  ∃ extensions : List HelloExtension, (∀ extension ∈ extensions, ExtensionFormed extension) ∧
    extensions.length = replay.sawSupportedVersions.toNat + replay.sawKeyShare.toNat ∧
    replay.extensions = extensions.flatMap encodeExtension

variable {replay : ExtensionReplay}

section
variable (replayed : Replayed replay)
include replayed

theorem Replayed.pushSupportedVersions (unseen : replay.sawSupportedVersions = false) :
    Replayed replay.pushSupportedVersions := by
  obtain ⟨extensions, formed, count, bytes⟩ := replayed
  refine ⟨extensions ++ [supportedVersions], ?_, ?_, ?_⟩
  · exact List.forall_mem_append.mpr ⟨formed, by simpa using supportedVersions_formed⟩
  · simp [ExtensionReplay.pushSupportedVersions, count, unseen]
    omega
  · rw [List.flatMap_append, List.flatMap_singleton, encode_supportedVersions, ← bytes]
    rfl

theorem Replayed.pushKeyShare (unseen : replay.sawKeyShare = false) :
    Replayed (replay.pushKeyShare prims rng) := by
  obtain ⟨extensions, formed, count, bytes⟩ := replayed
  have sized := prims.x25519_length (rng.bytes replay.call 32)
  refine ⟨extensions ++ [keyShare (prims.x25519 (rng.bytes replay.call 32))], ?_, ?_, ?_⟩
  · exact List.forall_mem_append.mpr ⟨formed, by simpa using keyShare_formed sized⟩
  · simp [ExtensionReplay.pushKeyShare, count, unseen]
  · rw [List.flatMap_append, List.flatMap_singleton, encode_keyShare sized, ← bytes]
    rfl

theorem Replayed.extension (ext : TlsExtension) : Replayed (replay.extension prims rng ext) := by
  unfold ExtensionReplay.extension
  split_ifs with versions key
  · exact replayed.pushSupportedVersions versions.2
  · exact replayed.pushKeyShare prims rng key.2
  · exact replayed

theorem Replayed.foldl (template : List TlsExtension) :
    Replayed (template.foldl
      (ExtensionReplay.extension prims rng) replay) := by
  induction template generalizing replay with
  | nil => exact replayed
  | cons ext _ ih => exact ih (replayed.extension prims rng ext)

end

variable (cached : CachedTlsData) (selected : Option Bytes) (call : Nat)

theorem buildProfiledServerHelloExtensions_formed :
    ∃ extensions : List HelloExtension, (∀ extension ∈ extensions, ExtensionFormed extension) ∧
      extensions.length ≤ 2 ∧
      (buildProfiledServerHelloExtensions prims cached rng call).1 =
        extensions.flatMap encodeExtension := by
  have start : Replayed { call := call } := ⟨[], by simp, rfl, rfl⟩
  have replayed := start.foldl prims rng cached.serverHelloTemplate.extensions
  unfold buildProfiledServerHelloExtensions
  dsimp only
  generalize cached.serverHelloTemplate.extensions.foldl
    (ExtensionReplay.extension prims rng) { call := call } = replay at *
  have keyed : Replayed (if replay.sawKeyShare then replay
      else replay.pushKeyShare prims rng) := by
    split_ifs with seen
    · exact replayed
    · exact replayed.pushKeyShare prims rng (by simpa using seen)
  generalize (if replay.sawKeyShare then replay
    else replay.pushKeyShare prims rng) = replay at *
  have both : Replayed (if replay.sawSupportedVersions then replay
      else replay.pushSupportedVersions) := by
    split_ifs with seen
    · exact keyed
    · exact keyed.pushSupportedVersions (by simpa using seen)
  obtain ⟨extensions, formed, _, bytes⟩ := both
  refine ⟨extensions, formed, ?_, bytes⟩
  have versions := Bool.toNat_le (if replay.sawSupportedVersions then replay
    else replay.pushSupportedVersions).sawSupportedVersions
  have key := Bool.toNat_le (if replay.sawSupportedVersions then replay
    else replay.pushSupportedVersions).sawKeyShare
  omega

theorem serverHelloRecord_eq (request : EmulationRequest) (short : request.sessionId.length ≤ 32)
    (call : Nat) :
    ∃ parts : HelloParts, serverHelloRecord (serverHelloMessage cached request
      (buildProfiledServerHelloExtensions prims cached rng call).1) =
        (parts.record (List.replicate 32 0)).encode := by
  obtain ⟨extensions, formed, few, bytes⟩ :=
    buildProfiledServerHelloExtensions_formed prims rng cached call
  let parts : HelloParts :=
    { version := [cached.serverHelloTemplate.version.major, cached.serverHelloTemplate.version.minor]
      sessionId := request.sessionId
      cipherSuite := [(chosenCipherSuite cached request).1, (chosenCipherSuite cached request).2]
      compression := [cached.serverHelloTemplate.compression]
      extensions := extensions
      version_length := rfl
      sessionId_length := by omega
      cipherSuite_length := rfl
      compression_length := rfl
      extensions_formed := formed
      extensions_length := few }
  refine ⟨parts, ?_⟩
  have message : serverHelloMessage cached request (extensions.flatMap encodeExtension) =
      parts.message (List.replicate 32 0) := parts.message_eq.symm
  have small := parts.message_small (@List.length_replicate _ 32 (0 : UInt8))
  rw [bytes, message, serverHelloRecord, Nat.mod_eq_of_lt small]
  rfl

theorem fillRecord_sized (size : Nat) :
    (fillRecord rng selected call size).1.size = size ∧
      (fillRecord rng selected call size).1.body.length = size := by
  unfold fillRecord AppDataRecord.body
  split_ifs with room
  · cases selected with
    | none =>
      refine ⟨rfl, ?_⟩
      simp only [List.length_append, List.length_cons, List.length_nil, rng.bytes_length]
      omega
    | some =>
      dsimp only
      split_ifs with short
      · refine ⟨rfl, ?_⟩
        simp only [List.length_append, List.length_cons, List.length_take, rng.bytes_length]
        omega
      · refine ⟨rfl, ?_⟩
        simp only [List.length_append, List.length_cons, List.length_take, List.length_nil,
          rng.bytes_length]
        omega
  · exact ⟨rfl, by simp [rng.bytes_length]⟩

theorem recordRow_fillRecords {sizes : List Nat} (sized : Sized sizes) :
    RecordRow ((fillRecords rng selected call sizes).1.flatMap (·.toBytes)) := by
  induction sizes generalizing call with
  | nil => exact recordRow_nil
  | cons size _ ih =>
    have high := (sized size List.mem_cons_self).2
    obtain ⟨named, body⟩ := fillRecord_sized rng selected call size
    have first := @recordRow_application size
      (fillRecord rng selected call size).1.body body
      (lt_of_le_of_lt high (by decide))
    refine RecordRow.append ?_ (ih _ fun other member => sized other (List.mem_cons_of_mem _ member))
    show RecordRow (fillRecord rng selected call size).1.toBytes
    rw [AppDataRecord.toBytes, named]
    exact first

theorem plannedSizes_sized : Sized (plannedSizes cached selected rng call).1 := by
  cases selected with
  | none => exact (clampedAppDataSizes_sized cached rng call).1
  | some payload => exact (plannedSizes_spec cached payload rng call).1

theorem recordRow_ticketRecords {sizes : List Nat} (small : ∀ size ∈ sizes, size < 65536) :
    RecordRow (ticketRecords rng call sizes) := by
  induction sizes generalizing call with
  | nil => exact recordRow_nil
  | cons size _ ih =>
    rw [List.forall_mem_cons] at small
    exact (recordRow_application (rng.bytes_length call size) small.1).append (ih _ small.2)

theorem randomTicketSizes_small (missing : Nat) :
    ∀ size ∈ (randomTicketSizes rng call missing).1, size < 65536 := by
  induction missing generalizing call with
  | zero => exact nofun
  | succ _ ih =>
    have low := rng.range_lt call 48 (by decide)
    refine List.forall_mem_cons.mpr ⟨?_, ih (call + 1)⟩
    omega

theorem emulatedTicketRecordSizes_small (newSessionTickets : UInt8) (call : Nat)
    (profiled : ∀ size ∈ cached.behaviorProfile.ticketRecordSizes, size ≤ 65535) :
    ∀ size ∈ (emulatedTicketRecordSizes cached newSessionTickets rng call).1,
      size < 65536 := by
  unfold emulatedTicketRecordSizes
  intro size member
  rcases List.mem_append.mp member with kept | drawn
  · have member := List.mem_of_mem_take kept
    split at member
    · exact Nat.lt_succ_of_le (profiled size member)
    · exact Nat.lt_succ_of_le (profiled size member)
    · cases member
    · cases member
  · exact randomTicketSizes_small rng _ _ size drawn

theorem emulated_wellFormed (request : EmulationRequest) (short : request.sessionId.length ≤ 32)
    (profiled : ∀ size ∈ cached.behaviorProfile.ticketRecordSizes, size ≤ 65535) :
    WellFormedFlight prims request.secret request.clientDigest
      (buildEmulatedServerHello prims cached request rng) := by
  obtain ⟨parts, hello⟩ := serverHelloRecord_eq prims rng cached request short 0
  unfold buildEmulatedServerHello
  dsimp only
  rw [hello, List.append_assoc, List.append_assoc]
  exact wellFormedFlight_of_parts _ _ _ parts (recordRow_changeCipherSpec.append
    ((recordRow_fillRecords rng _ _ (plannedSizes_sized rng cached _ _)).append
      (recordRow_ticketRecords rng _ (emulatedTicketRecordSizes_small rng cached _ _ profiled))))

end Emulated

section Plain
variable (prims : KeyPrimitives) (rng : RangedRandom)

theorem buildRecord_of_parts {builder : ServerHelloBuilder} {parts : HelloParts}
    (blank : builder.random = List.replicate 32 0)
    (version : parts.version = [tlsVersion.major, tlsVersion.minor])
    (sessionId : parts.sessionId = builder.sessionId)
    (cipherSuite : parts.cipherSuite = [builder.cipherSuite.1, builder.cipherSuite.2])
    (compression : parts.compression = [builder.compression])
    (extensions : builder.extensions.extensions = parts.extensionBytes) :
    builder.buildRecord = (parts.record (List.replicate 32 0)).encode := by
  have few := parts.extensionBytes_length
  have short := parts.sessionId_length
  have small := parts.message_small (@List.length_replicate _ 32 (0 : UInt8))
  have message : builder.buildMessage = parts.message (List.replicate 32 0) := by
    rw [ServerHelloBuilder.buildMessage, parts.message_eq, extensions, ← sessionId, version,
      cipherSuite, compression, blank]
    rw [if_neg (by omega), if_neg (by omega), if_neg (by omega)]
  have nonempty : parts.message (List.replicate 32 0) ≠ [] := by simp [HelloParts.message]
  rw [ServerHelloBuilder.buildRecord, message]
  rw [if_neg nonempty, if_neg (by omega)]
  rfl

theorem buildRecord_eq (sessionId : Bytes) (cipherSuite : UInt8 × UInt8) {key : Bytes}
    (short : sessionId.length ≤ 32) (sized : key.length = 32) :
    ∃ parts : HelloParts, ((({ sessionId := sessionId } : ServerHelloBuilder).withCipherSuite
      cipherSuite).withX25519Key key).withTls13Version.buildRecord =
        (parts.record (List.replicate 32 0)).encode := by
  generalize started : ({ sessionId := sessionId } : ServerHelloBuilder).withCipherSuite
    cipherSuite = builder
  have fresh : builder.random = List.replicate 32 0 ∧ builder.sessionId = sessionId ∧
      builder.extensions.extensions = [] := by
    rw [← started, ServerHelloBuilder.withCipherSuite]
    split_ifs <;> exact ⟨rfl, rfl, rfl⟩
  obtain ⟨blank, echoed, empty⟩ := fresh
  refine ⟨
    { version := [tlsVersion.major, tlsVersion.minor]
      sessionId := sessionId
      cipherSuite := [builder.cipherSuite.1, builder.cipherSuite.2]
      compression := [builder.compression]
      extensions := [keyShare key, supportedVersions]
      version_length := rfl
      sessionId_length := by omega
      cipherSuite_length := rfl
      compression_length := rfl
      extensions_formed := by simp [keyShare_formed sized, supportedVersions_formed]
      extensions_length := le_rfl },
    buildRecord_of_parts blank rfl echoed.symm rfl rfl ?_⟩
  show builder.extensions.extensions ++ _ ++ _ ++ _ ++ _ ++ key ++ _ ++ _ ++ _ = _
  rw [empty, HelloParts.extensionBytes, List.flatMap_cons, List.flatMap_singleton,
    encode_keyShare sized, encode_supportedVersions]
  simp only [List.nil_append, List.append_assoc]

theorem recordRow_sessionTickets (call count : Nat) :
    RecordRow (sessionTickets rng call count) := by
  induction count generalizing call with
  | zero => exact recordRow_nil
  | succ _ ih =>
    have low := rng.range_lt call 48 (by decide)
    exact (recordRow_application (rng.bytes_length _ _) (by omega)).append (ih (call + 2))

theorem plain_wellFormed (request : ServerHelloRequest) (short : request.sessionId.length ≤ 32) :
    WellFormedFlight prims request.secret request.clientDigest
      (buildServerHelloWithCipher prims request rng) := by
  obtain ⟨parts, hello⟩ := buildRecord_eq request.sessionId request.selectedCipherSuite short
    (prims.x25519_length (rng.bytes 0 32))
  have high := (clampAppData_sized request.fakeCertLen).2
  unfold buildServerHelloWithCipher
  dsimp only
  rw [hello, List.append_assoc, List.append_assoc]
  exact wellFormedFlight_of_parts _ _ _ parts (recordRow_changeCipherSpec.append
    ((recordRow_application (rng.bytes_length _ _) (lt_of_le_of_lt high (by decide))).append
      (recordRow_sessionTickets rng _ _)))

end Plain

theorem server_flights_well_formed (prims : KeyPrimitives) (rng : RangedRandom)
    (cached : CachedTlsData) (emulated : EmulationRequest) (plain : ServerHelloRequest)
    (emulated_session : emulated.sessionId.length ≤ 32) (plain_session : plain.sessionId.length ≤ 32)
    (ticket_sizes : ∀ size ∈ cached.behaviorProfile.ticketRecordSizes, size ≤ 65535) :
    WellFormedFlight prims.toPrimitives emulated.secret emulated.clientDigest
      (buildEmulatedServerHello prims.toPrimitives cached emulated rng.toSecureRandom) ∧
    WellFormedFlight prims.toPrimitives plain.secret plain.clientDigest
      (buildServerHelloWithCipher prims.toPrimitives plain rng.toSecureRandom) :=
  ⟨emulated_wellFormed prims rng cached emulated emulated_session ticket_sizes,
    plain_wellFormed prims rng plain plain_session⟩

def zeroKeyPrimitives : KeyPrimitives where
  toPrimitives := zeroPrimitives
  x25519_length := fun _ => List.length_replicate

def zeroRangedRandom : RangedRandom where
  toSecureRandom := zeroRandom
  range_lt := fun _ _ positive => positive

def capturedProfile : CachedTlsData :=
  { profileOf [1200] countingPayload with behaviorProfile := ⟨[1200], [65535, 0], .merged⟩ }

def ticketedRequest : EmulationRequest :=
  { tls12Request with sessionId := List.replicate 32 7, newSessionTickets := 3 }

def plainRequest : ServerHelloRequest where
  secret := []
  clientDigest := List.replicate 32 0
  sessionId := List.replicate 32 7
  fakeCertLen := 2048
  selectedCipherSuite := (0x13, 0x02)
  alpn := none
  newSessionTickets := 2

theorem captured_flights_well_formed :
    ticketedRequest.sessionId.length ≤ 32 ∧ plainRequest.sessionId.length ≤ 32 ∧
    (∀ size ∈ capturedProfile.behaviorProfile.ticketRecordSizes, size ≤ 65535) ∧
    WellFormedFlight zeroPrimitives ticketedRequest.secret ticketedRequest.clientDigest
      (buildEmulatedServerHello zeroPrimitives capturedProfile ticketedRequest zeroRandom) ∧
    WellFormedFlight zeroPrimitives plainRequest.secret plainRequest.clientDigest
      (buildServerHelloWithCipher zeroPrimitives plainRequest zeroRandom) :=
  ⟨by decide, by decide, by decide,
    server_flights_well_formed zeroKeyPrimitives zeroRangedRandom capturedProfile ticketedRequest
      plainRequest (by decide) (by decide) (by decide)⟩

end Telemt.TlsFront
