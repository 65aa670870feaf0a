import Telemt.Stream.TlsRecord

namespace Telemt.TlsFront
open Telemt.Foundation Telemt.Stream

/-! # The emulated server hello -/

/-- The random source: what each call of it returns, by the number of the call. -/
structure SecureRandom where
  bytes : (call len : Nat) → Bytes
  range : (call max : Nat) → Nat
  bytes_length : ∀ call len, (bytes call len).length = len

structure Primitives where
  x25519 : Bytes → Bytes
  crc32 : Bytes → UInt32
  sha256Hmac : Bytes → Bytes → Bytes
  hmac_length : ∀ key message, (sha256Hmac key message).length = 32

def beBytes (width n : Nat) : Bytes := (leBytes width n).reverse

structure TlsExtension where
  extType : UInt16
  data : Bytes

structure ParsedServerHello where
  version : TlsVersion
  cipherSuite : UInt8 × UInt8
  compression : UInt8
  extensions : List TlsExtension

structure ParsedCertificateInfo where
  notAfterUnix : Option Int
  notBeforeUnix : Option Int
  issuerCn : Option String
  subjectCn : Option String
  sanNames : List String

inductive TlsProfileSource
  | default
  | raw
  | rustls
  | merged
  deriving DecidableEq, Repr

structure TlsBehaviorProfile where
  appDataRecordSizes : List Nat
  ticketRecordSizes : List Nat
  source : TlsProfileSource

structure CachedTlsData where
  serverHelloTemplate : ParsedServerHello
  certInfo : Option ParsedCertificateInfo
  certificateMessage : Option Bytes
  appDataRecordsSizes : List Nat
  totalAppDataLen : Nat
  behaviorProfile : TlsBehaviorProfile

inductive ClientHelloTlsVersion
  | tls12
  | tls13
  deriving DecidableEq, Repr

structure EmulationRequest where
  secret : Bytes
  clientDigest : Bytes
  sessionId : Bytes
  useFullCertPayload : Bool
  serverhelloCompact : Bool
  clientTlsVersion : ClientHelloTlsVersion
  selectedCipherSuite : UInt8 × UInt8
  newSessionTickets : UInt8

def minAppData : Nat := 64

def maxAppData : Nat := maxTlsCiphertextSize

def maxTicketRecords : Nat := 4

def clampAppData (size : Nat) : Nat := max minAppData (min size maxAppData)

/-- Three percent of the size, rounded half up: on every clamped size the source's product of
floating point numbers rounds to the same integer. -/
def jitterRange (base : Nat) : Nat := (3 * base + 50) / 100

def jitterAndClampSize (rng : SecureRandom) (call size : Nat) : Nat × Nat :=
  let base := clampAppData size
  if jitterRange base = 0 then (base, call)
  else
    let span := 2 * jitterRange base + 1
    let delta : Int := (leNat (rng.bytes call 2) % span : Nat) - jitterRange base
    ((max (minAppData : Int) (min (base + delta) maxAppData)).toNat, call + 1)

def jitterAndClampSizes (rng : SecureRandom) : Nat → List Nat → List Nat × Nat
  | call, [] => ([], call)
  | call, size :: sizes =>
    let (adjusted, call) := jitterAndClampSize rng call size
    let (rest, call) := jitterAndClampSizes rng call sizes
    (adjusted :: rest, call)

def appDataBodyCapacity (sizes : List Nat) : Nat := (sizes.map (· - 17)).sum

def extraSizes : Nat → Nat → List Nat
  | 0, _ => []
  | fuel + 1, remaining =>
    if remaining = 0 then []
    else
      let chunk := clampAppData (remaining + 17)
      chunk :: extraSizes fuel (remaining - (chunk - 17))

def ensurePayloadCapacity (sizes : List Nat) (payloadLen : Nat) : List Nat :=
  if payloadLen = 0 then sizes
  else if payloadLen ≤ appDataBodyCapacity sizes then sizes
  else
    let missing := payloadLen - appDataBodyCapacity sizes
    match sizes.getLast? with
    | none => extraSizes missing missing
    | some last =>
      let grow := min (maxAppData - last) missing
      sizes.dropLast ++ (last + grow) :: extraSizes (missing - grow) (missing - grow)

variable (cached : CachedTlsData)

def emulatedAppDataSizes : List Nat :=
  match cached.behaviorProfile.source with
  | .raw | .merged =>
    match cached.appDataRecordsSizes.head?.or cached.behaviorProfile.appDataRecordSizes.head? with
    | some size => [size]
    | none => [max cached.totalAppDataLen 1024]
  | .default | .rustls =>
    if cached.appDataRecordsSizes = [] then [max cached.totalAppDataLen 1024]
    else cached.appDataRecordsSizes

def clampedAppDataSizes (rng : SecureRandom) (call : Nat) : List Nat × Nat :=
  match cached.behaviorProfile.source with
  | .raw | .merged => ((emulatedAppDataSizes cached).map clampAppData, call)
  | .default | .rustls => jitterAndClampSizes rng call (emulatedAppDataSizes cached)

def randomTicketSizes (rng : SecureRandom) (call : Nat) : Nat → List Nat × Nat
  | 0 => ([], call)
  | missing + 1 =>
    let (rest, next) := randomTicketSizes rng (call + 1) missing
    ((rng.range call 48 + 48) :: rest, next)

def emulatedTicketRecordSizes (newSessionTickets : UInt8) (rng : SecureRandom) (call : Nat) :
    List Nat × Nat :=
  let targetCount := min newSessionTickets.toNat maxTicketRecords
  let profiled := match cached.behaviorProfile.source with
    | .raw | .merged => cached.behaviorProfile.ticketRecordSizes
    | .default | .rustls => []
  let sizes := profiled.take targetCount
  let (more, call) := randomTicketSizes rng call (targetCount - sizes.length)
  (sizes ++ more, call)

def certInfoFields (info : ParsedCertificateInfo) : List String :=
  (info.subjectCn.map ("CN=" ++ ·)).toList ++ (info.issuerCn.map ("ISSUER=" ++ ·)).toList ++
    (info.notBeforeUnix.map fun n => "NB=" ++ toString n).toList ++
    (info.notAfterUnix.map fun n => "NA=" ++ toString n).toList ++
    if info.sanNames = [] then [] else ["SAN=" ++ String.intercalate "," (info.sanNames.take 8)]

def buildCompactCertInfoPayload (info : ParsedCertificateInfo) : Option Bytes :=
  if certInfoFields info = [] then none
  else some ((String.intercalate ";" (certInfoFields info)).toUTF8.toList.take 512)

def hashBlocks (crc32 : Bytes → UInt32) (payload : Bytes) : Nat → UInt32 → Bytes
  | 0, _ => []
  | fuel + 1, state =>
    let state := crc32 (leBytes 4 state.toNat ++ payload)
    leBytes 4 state.toNat ++ hashBlocks crc32 payload fuel state

def hashCompactCertInfoPayload (crc32 : Bytes → UInt32) (payload : Bytes) : Option Bytes :=
  if payload = [] then none
  else some ((hashBlocks crc32 payload payload.length (crc32 payload)).take payload.length)

variable (prims : Primitives)

def selectedPayload (cached : CachedTlsData) (request : EmulationRequest) : Option Bytes :=
  let compactPayload := if request.serverhelloCompact then
      (cached.certInfo.bind buildCompactCertInfoPayload).bind
        (hashCompactCertInfoPayload prims.crc32)
    else none
  let fullPayload := cached.certificateMessage.filter (· ≠ [])
  match request.clientTlsVersion with
  | .tls13 => none
  | .tls12 =>
    if request.serverhelloCompact then
      if request.useFullCertPayload then fullPayload.or compactPayload else compactPayload
    else fullPayload

structure AppDataRecord where
  size : Nat
  copied : Bytes
  filler : Bytes
  trailer : Bytes

def AppDataRecord.body (record : AppDataRecord) : Bytes :=
  record.copied ++ record.filler ++ record.trailer

def AppDataRecord.toBytes (record : AppDataRecord) : Bytes :=
  TlsRecordHeader.toBytes ⟨tlsRecordApplication, tlsVersion, record.size % 65536⟩ ++ record.body

/-- The copy starts at the beginning of the payload in every record. -/
def fillRecord (rng : SecureRandom) (selected : Option Bytes) (call size : Nat) :
    AppDataRecord × Nat :=
  if 17 < size then
    let bodyLen := size - 17
    match selected with
    | some payload =>
      let copyLen := min payload.length bodyLen
      let (filler, call) := if copyLen < bodyLen then (rng.bytes call (bodyLen - copyLen), call + 1)
        else ([], call)
      (⟨size, payload.take copyLen, filler, 0x16 :: rng.bytes call 16⟩, call + 1)
    | none => (⟨size, [], rng.bytes call bodyLen, 0x16 :: rng.bytes (call + 1) 16⟩, call + 2)
  else (⟨size, [], [], rng.bytes call size⟩, call + 1)

def fillRecords (rng : SecureRandom) (selected : Option Bytes) :
    Nat → List Nat → List AppDataRecord × Nat
  | call, [] => ([], call)
  | call, size :: sizes =>
    let (record, call) := fillRecord rng selected call size
    let (rest, call) := fillRecords rng selected call sizes
    (record :: rest, call)

def plannedSizes (selected : Option Bytes) (rng : SecureRandom) (call : Nat) : List Nat × Nat :=
  let (sizes, call) := clampedAppDataSizes cached rng call
  match selected with
  | some payload => (ensurePayloadCapacity sizes payload.length, call)
  | none => (sizes, call)

def certificateFlight (selected : Option Bytes) (rng : SecureRandom) (call : Nat) :
    List AppDataRecord × Nat :=
  let (sizes, call) := plannedSizes cached selected rng call
  fillRecords rng selected call sizes

def ticketRecords (rng : SecureRandom) : Nat → List Nat → Bytes
  | _, [] => []
  | call, len :: lens =>
    TlsRecordHeader.toBytes ⟨tlsRecordApplication, tlsVersion, len % 65536⟩ ++ rng.bytes call len ++
      ticketRecords rng (call + 1) lens

def supportedVersionsExtension : Bytes := beBytes 2 0x002b ++ beBytes 2 2 ++ beBytes 2 0x0304

def keyShareExtension (rng : SecureRandom) (call : Nat) : Bytes :=
  beBytes 2 0x0033 ++ beBytes 2 (2 + 2 + 32) ++ beBytes 2 0x001d ++ beBytes 2 32 ++
    prims.x25519 (rng.bytes call 32)

structure ExtensionReplay where
  extensions : Bytes := []
  sawSupportedVersions : Bool := false
  sawKeyShare : Bool := false
  call : Nat

namespace ExtensionReplay

def pushSupportedVersions (replay : ExtensionReplay) : ExtensionReplay :=
  { replay with
    extensions := replay.extensions ++ supportedVersionsExtension
    sawSupportedVersions := true }

def pushKeyShare (prims : Primitives) (rng : SecureRandom) (replay : ExtensionReplay) :
    ExtensionReplay :=
  { replay with
    extensions := replay.extensions ++ keyShareExtension prims rng replay.call
    sawKeyShare := true
    call := replay.call + 1 }

def extension (prims : Primitives) (rng : SecureRandom) (replay : ExtensionReplay)
    (ext : TlsExtension) : ExtensionReplay :=
  if ext.extType = 0x002b ∧ replay.sawSupportedVersions = false then replay.pushSupportedVersions
  else if ext.extType = 0x0033 ∧ replay.sawKeyShare = false then replay.pushKeyShare prims rng
  else replay

end ExtensionReplay

def buildProfiledServerHelloExtensions (cached : CachedTlsData) (rng : SecureRandom) (call : Nat) :
    Bytes × Nat :=
  let replay := cached.serverHelloTemplate.extensions.foldl
    (ExtensionReplay.extension prims rng) { call := call }
  let replay := if replay.sawKeyShare then replay else replay.pushKeyShare prims rng
  let replay := if replay.sawSupportedVersions then replay else replay.pushSupportedVersions
  (replay.extensions, replay.call)

variable (request : EmulationRequest)

def chosenCipherSuite : UInt8 × UInt8 :=
  if request.selectedCipherSuite ≠ (0, 0) then request.selectedCipherSuite
  else if cached.serverHelloTemplate.cipherSuite = (0, 0) then (0x13, 0x01)
  else cached.serverHelloTemplate.cipherSuite

def serverHelloMessage (extensions : Bytes) : Bytes :=
  let cipher := chosenCipherSuite cached request
  let bodyLen := 2 + 32 + 1 + request.sessionId.length + 2 + 1 + 2 + extensions.length
  [0x02] ++ beBytes 3 bodyLen ++
    [cached.serverHelloTemplate.version.major, cached.serverHelloTemplate.version.minor] ++
    List.replicate 32 0 ++ [UInt8.ofNat request.sessionId.length] ++ request.sessionId ++
    [cipher.1, cipher.2] ++ [cached.serverHelloTemplate.compression] ++
    beBytes 2 extensions.length ++ extensions

def serverHelloRecord (message : Bytes) : Bytes :=
  TlsRecordHeader.toBytes ⟨tlsRecordHandshake, tlsVersion, message.length % 65536⟩ ++ message

def changeCipherSpec : Bytes := [tlsRecordChangeCipher, 0x03, 0x03, 0x00, 0x01, 0x01]

def tlsDigestPos : Nat := 11

def tlsDigestLen : Nat := 32

/-- The digest of the whole response takes the place of the ServerHello's random. -/
def signResponse (response : Bytes) : Bytes :=
  response.take tlsDigestPos ++
    prims.sha256Hmac request.secret (request.clientDigest ++ response) ++
    response.drop (tlsDigestPos + tlsDigestLen)

def buildEmulatedServerHello (cached : CachedTlsData) (request : EmulationRequest)
    (rng : SecureRandom) : Bytes :=
  let (extensions, call) := buildProfiledServerHelloExtensions prims cached rng 0
  let serverHello := serverHelloRecord (serverHelloMessage cached request extensions)
  let (appData, call) := certificateFlight cached (selectedPayload prims cached request) rng call
  let (ticketSizes, call) := emulatedTicketRecordSizes cached request.newSessionTickets rng call
  signResponse prims request (serverHello ++ changeCipherSpec ++
    appData.flatMap (·.toBytes) ++ ticketRecords rng call ticketSizes)

end Telemt.TlsFront
