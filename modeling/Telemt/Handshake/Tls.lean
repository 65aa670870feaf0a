import Telemt.Handshake.Search
import Telemt.Replay.Model

namespace Telemt.Handshake
open Foundation ClientHello

/-!
# The FakeTLS handshake

`Env` holds what the proxy takes from elsewhere: HMAC-SHA256 and the two hashers are arbitrary
functions, and `epoch` is the UNIX time, in nanoseconds, of the zero of the monotonic clock.
-/

structure Env where
  hmac : Bytes → Bytes → Vector UInt8 32
  sniHash : Text → Nat
  shardHash : ReplayKey → Nat
  epoch : Int

def tlsDigestLen : Nat := 32

def tlsDigestPos : Nat := 11

def tlsDigestHalfLen : Nat := 16

def timeSkewMin : Int := -2 * 60

def timeSkewMax : Int := 2 * 60

def bootTimeMaxSecs : Nat := 7 * 24 * 60 * 60

def bootTimeCompatMaxSecs : Nat := 2 * 60

def systemTimeToUnixSecs (unixNow : Int) : Option Int :=
  if 0 ≤ unixNow ∧ unixNow / 1000000000 < 2 ^ 63 then some (unixNow / 1000000000) else none

def tlsNow (ignoreTimeSkew : Bool) (unixNow : Int) : Option Int :=
  if ignoreTimeSkew then some 0 else systemTimeToUnixSecs unixNow

def bootTimeCapSecs (ignoreTimeSkew : Bool) (replayWindowSecs : Nat) : Nat :=
  if ignoreTimeSkew then 0
  else min (min bootTimeMaxSecs (min replayWindowSecs (2 ^ 32 - 1))) bootTimeCompatMaxSecs

structure ParsedTlsAuthMaterial where
  digest : Bytes
  sessionId : Bytes
  now : Int
  ignoreTimeSkew : Bool
  bootTimeCapSecs : Nat

structure TlsCandidateValidation where
  digest : Bytes
  sessionId : Bytes

structure TlsValidation where
  user : Text
  sessionId : Bytes
  digest : Bytes
  timestamp : Nat

-- The digest and the session id, from the fixed positions both validators read.
def digestAndSessionId (handshake : Bytes) : Option (Bytes × Bytes) :=
  let sessionIdLenPos := tlsDigestPos + tlsDigestLen
  if handshake.length < sessionIdLenPos + 1 then none
  else
    let sessionIdLen := (byteAt handshake sessionIdLenPos).toNat
    if 32 < sessionIdLen then none
    else if handshake.length < sessionIdLenPos + 1 + sessionIdLen then none
    else some (slice handshake tlsDigestPos tlsDigestLen,
      slice handshake (sessionIdLenPos + 1) sessionIdLen)

def parseTlsAuthMaterial (handshake : Bytes) (ignoreTimeSkew : Bool) (replayWindowSecs : Nat)
    (unixNow : Int) : Option ParsedTlsAuthMaterial := do
  let (digest, sessionId) ← digestAndSessionId handshake
  let now ← tlsNow ignoreTimeSkew unixNow
  return {
    digest := digest
    sessionId := sessionId
    now := now
    ignoreTimeSkew := ignoreTimeSkew
    bootTimeCapSecs := bootTimeCapSecs ignoreTimeSkew replayWindowSecs }

def zeroedDigest (handshake : Bytes) : Bytes :=
  handshake.take tlsDigestPos ++ List.replicate tlsDigestLen 0 ++
    handshake.drop (tlsDigestPos + tlsDigestLen)

section
variable (hmac : Bytes → Bytes → Vector UInt8 32)

def computeTlsHmacZeroedDigest (secret handshake : Bytes) : Bytes :=
  (hmac secret (zeroedDigest handshake)).toList

-- The timestamp the digest hides behind the last four bytes of the code, if the rest agrees.
def embeddedTimestamp (digest handshake secret : Bytes) : Option Nat :=
  let computed := computeTlsHmacZeroedDigest hmac secret handshake
  if digest.take 28 = computed.take 28 then
    some (leNat (List.zipWith (· ^^^ ·) (slice digest 28 4) (slice computed 28 4)))
  else none

def timestampAccepted (ignoreTimeSkew : Bool) (now : Int) (bootTimeCapSecs timestamp : Nat) :
    Bool :=
  if ignoreTimeSkew then true
  else if 0 < bootTimeCapSecs ∧ timestamp < bootTimeCapSecs then true
  else decide (timeSkewMin ≤ now - timestamp ∧ now - timestamp ≤ timeSkewMax)

def validateTlsSecretCandidate (parsed : ParsedTlsAuthMaterial) (handshake secret : Bytes) :
    Option TlsCandidateValidation :=
  match embeddedTimestamp hmac parsed.digest handshake secret with
  | none => none
  | some timestamp =>
    if timestampAccepted parsed.ignoreTimeSkew parsed.now parsed.bootTimeCapSecs timestamp then
      some ⟨parsed.digest, parsed.sessionId⟩
    else none

def firstMatch (digest handshake : Bytes) (ignoreTimeSkew : Bool) (now : Int)
    (bootTimeCapSecs : Nat) : List (Text × Bytes) → Option (Text × Nat)
  | [] => none
  | (user, secret) :: rest =>
    match embeddedTimestamp hmac digest handshake secret with
    | none => firstMatch digest handshake ignoreTimeSkew now bootTimeCapSecs rest
    | some timestamp =>
      if timestampAccepted ignoreTimeSkew now bootTimeCapSecs timestamp then
        some (user, timestamp)
      else firstMatch digest handshake ignoreTimeSkew now bootTimeCapSecs rest

def validateTlsHandshakeAtTimeWithBootCap (handshake : Bytes) (secrets : List (Text × Bytes))
    (ignoreTimeSkew : Bool) (now : Int) (bootTimeCapSecs : Nat) : Option TlsValidation := do
  let (digest, sessionId) ← digestAndSessionId handshake
  let (user, timestamp) ←
    firstMatch hmac digest handshake ignoreTimeSkew now bootTimeCapSecs secrets
  return ⟨user, sessionId, digest, timestamp⟩

def validateTlsHandshakeWithReplayWindow (handshake : Bytes) (secrets : List (Text × Bytes))
    (ignoreTimeSkew : Bool) (replayWindowSecs : Nat) (unixNow : Int) : Option TlsValidation := do
  let now ← tlsNow ignoreTimeSkew unixNow
  validateTlsHandshakeAtTimeWithBootCap hmac handshake secrets ignoreTimeSkew now
    (bootTimeCapSecs ignoreTimeSkew replayWindowSecs)

end

structure IpNetwork where
  address : IpAddr
  bits : Nat
  deriving DecidableEq, Repr

/-- As the crate `ipnetwork` 0.21 documents it: same family and, whatever its host bits, same network. -/
def IpNetwork.contains (network : IpNetwork) (ip : IpAddr) : Bool :=
  match network.address, ip with
  | .v4 base, .v4 octets =>
    beNat base.toList / 2 ^ (32 - network.bits) == beNat octets.toList / 2 ^ (32 - network.bits)
  | .v6 base, .v6 octets =>
    beNat base.toList / 2 ^ (128 - network.bits) == beNat octets.toList / 2 ^ (128 - network.bits)
  | _, _ => false

structure AccessConfig where
  users : Dict Text Text := ∅
  ignoreTimeSkew : Bool := false
  replayWindowSecs : Nat
  userSourceDeny : Dict Text (List IpNetwork) := ∅

def AccessConfig.isUserSourceIpDenied (access : AccessConfig) (username : Text) (ip : IpAddr) :
    Bool :=
  match access.userSourceDeny.lookup username with
  | none => false
  | some nets => nets.any (·.contains ip)

inductive UnknownSniAction
  | drop
  | mask
  | accept
  | rejectHandshake
  deriving DecidableEq, Repr

structure CensorshipConfig where
  tlsDomain : Text
  tlsDomains : List Text := []
  alpnEnforce : Bool := true
  unknownSniAction : UnknownSniAction := .drop

structure ProxyConfig where
  access : AccessConfig
  censorship : CensorshipConfig
  runtimeUserAuth : Option UserAuthSnapshot

def findMatchingTlsDomain (config : ProxyConfig) (sni : Text) : Option Text :=
  if eqIgnoreAsciiCase config.censorship.tlsDomain sni then some config.censorship.tlsDomain
  else config.censorship.tlsDomains.find? (eqIgnoreAsciiCase · sni)

def handshakeRecentUserRingLen : Nat := 64

structure SharedState where
  stickyUserByIp : Dict IpAddr Nat := ∅
  stickyUserByIpPrefix : Dict Nat Nat := ∅
  stickyUserBySniHash : Dict Nat Nat := ∅
  recentUserRing : List Nat := List.replicate handshakeRecentUserRingLen 0
  recentUserRingSeq : Nat := 0
  authExpensiveChecksTotal : Nat := 0
  authBudgetExhaustedTotal : Nat := 0

def stickyHintMaxEntries : Nat := 65536

def ipPrefixHintKey : IpAddr → Nat
  | .v4 octets => beNat (0x04 :: (octets.toList.take 3 ++ [0, 0, 0, 0]))
  | .v6 octets => beNat (0x06 :: octets.toList.take 7)

def insertHint {κ : Type} [DecidableEq κ] (hints : Dict κ Nat) (key : κ) (userId : Nat) :
    Dict κ Nat :=
  (if stickyHintMaxEntries < hints.size then ∅ else hints).insert key userId

def stickyHintRecordSuccess (sniHash : Text → Nat) (shared : SharedState) (peerIp : IpAddr)
    (userId : Nat) (sni : Option Text) : SharedState :=
  { shared with
    stickyUserByIp := insertHint shared.stickyUserByIp peerIp userId
    stickyUserByIpPrefix := insertHint shared.stickyUserByIpPrefix (ipPrefixHintKey peerIp) userId
    stickyUserBySniHash :=
      match sni with
      | none => shared.stickyUserBySniHash
      | some sni =>
        insertHint shared.stickyUserBySniHash (UserAuthSnapshot.sniLookupHash sniHash sni)
          userId }

def recordRecentUserSuccess (shared : SharedState) (userId : Nat) : SharedState :=
  if shared.recentUserRing.isEmpty then shared
  else
    { shared with
      recentUserRing := shared.recentUserRing.set
        (shared.recentUserRingSeq % shared.recentUserRing.length) (min (userId + 1) (2 ^ 32 - 1))
      recentUserRingSeq := shared.recentUserRingSeq + 1 }

end Telemt.Handshake
