import Telemt.Handshake.Tls
import Telemt.Replay.Memory

namespace Telemt.Handshake
open Foundation ClientHello

/-!
# `handle_tls_handshake_impl`

A request carries what its call reads from outside: the two clock readings (the synchronous part up
to the replay check takes no time, the front cache is awaited between the check and the insertion),
the verdicts of the probe throttle, and whether the answer could be written. The bytes of the answer
are not modelled.
-/

structure Request where
  handshake : Bytes
  peer : SocketAddr
  config : ProxyConfig
  now : Instant
  addNow : Instant
  throttled : Bool
  overload : Bool
  written : Bool

inductive HandshakeError
  | unknownTlsSni
  | io
  deriving DecidableEq, Repr

inductive HandshakeResult
  | success (user : Text)
  | badClient
  | error (reason : HandshakeError)
  deriving DecidableEq, Repr

structure Authenticated where
  user : Text
  userId : Option Nat
  digest : Bytes

structure Proxy where
  shared : SharedState
  replay : ReplayChecker

namespace Request
variable (request : Request)

def clientSni : Option Text := extractSniFromClientHello request.handshake

def preferredUserHint : Option Text :=
  request.clientSni.filter fun sni => decide (sni ∈ request.config.access.users)

def matchedTlsDomain : Option Text :=
  request.clientSni.bind (findMatchingTlsDomain request.config)

def h2 : Bytes := [104, 50]

def http11 : Bytes := [104, 116, 116, 112, 47, 49, 46, 49]

def alpnUnsupported : Bool :=
  let offered := extractAlpnFromClientHello request.handshake
  request.config.censorship.alpnEnforce && !offered.contains h2 && !offered.contains http11 &&
    !offered.isEmpty

def unknownSni : Bool :=
  request.clientSni.isSome && request.matchedTlsDomain.isNone && request.preferredUserHint.isNone

def rejectedEarly : Option HandshakeResult :=
  if request.throttled then some .badClient
  else if request.handshake.length < tlsDigestPos + tlsDigestLen + 1 then some .badClient
  else if request.alpnUnsupported then some .badClient
  else if request.unknownSni then
    match request.config.censorship.unknownSniAction with
    | .accept => none
    | .drop => some (.error .unknownTlsSni)
    | .rejectHandshake => some (.error .unknownTlsSni)
    | .mask => some .badClient
  else none

end Request

def decodeUserSecret (secretHex : Text) : Option Bytes :=
  (hexDecode secretHex).filter fun bytes => bytes.length = accessSecretBytes

def decodeUserSecrets (config : ProxyConfig) (preferred : Option Text) : List (Text × Bytes) :=
  let first := do
    let user ← preferred
    let secretHex ← config.access.users.lookup user
    let secret ← decodeUserSecret secretHex
    return (user, secret)
  let others := config.access.users.entries.filterMap fun row =>
    if preferred = some row.1 then none
    else (decodeUserSecret row.2).map fun secret => (row.1, secret)
  first.toList ++ others

section
variable (env : Env) (shared : SharedState)

def hintsFor (snapshot : UserAuthSnapshot) (request : Request) : Hints where
  stickyIp := shared.stickyUserByIp.lookup request.peer.ip
  preferred := request.preferredUserHint.bind snapshot.userIdByName
  stickySni := request.clientSni.bind fun sni =>
    shared.stickyUserBySniHash.lookup (UserAuthSnapshot.sniLookupHash env.sniHash sni)
  stickyPrefix := shared.stickyUserByIpPrefix.lookup (ipPrefixHintKey request.peer.ip)
  sniCandidates := request.clientSni.bind (snapshot.sniCandidates env.sniHash)
  sniInitialCandidates := request.clientSni.bind snapshot.sniInitialCandidates
  recentUserRing := shared.recentUserRing
  recentUserRingSeq := shared.recentUserRingSeq

variable (request : Request)

def parsedMaterial : Option ParsedTlsAuthMaterial :=
  parseTlsAuthMaterial request.handshake request.config.access.ignoreTimeSkew
    request.config.access.replayWindowSecs (env.epoch + request.now)

def validator (parsed : ParsedTlsAuthMaterial) (entry : UserAuthEntry) :
    Option TlsCandidateValidation :=
  validateTlsSecretCandidate env.hmac parsed request.handshake entry.secret

def authenticateBySnapshot (snapshot : UserAuthSnapshot) (request : Request) :
    SharedState × Option Authenticated :=
  match parsedMaterial env request with
  | none => (shared, none)
  | some parsed =>
    let (search, matched) := searchUser snapshot (validator env request parsed) request.overload
      (hintsFor env shared snapshot request)
    ({ shared with
        authExpensiveChecksTotal := shared.authExpensiveChecksTotal + search.checks
        authBudgetExhaustedTotal :=
          shared.authBudgetExhaustedTotal + if search.exhausted then 1 else 0 },
      matched.map fun found => ⟨found.entry.user, some found.userId, found.candidate.digest⟩)

def authenticateBySecrets : Option Authenticated :=
  let secrets := decodeUserSecrets request.config request.preferredUserHint
  match validateTlsHandshakeWithReplayWindow env.hmac request.handshake secrets
      request.config.access.ignoreTimeSkew request.config.access.replayWindowSecs
      (env.epoch + request.now) with
  | none => none
  | some validation =>
    match secrets.find? fun row => row.1 == validation.user with
    | none => none
    | some (_, secret) =>
      if secret.length ≠ accessSecretBytes then none
      else if 32 < validation.sessionId.length then none
      else some ⟨validation.user, none, validation.digest⟩

def authenticate : SharedState × Option Authenticated :=
  match request.config.runtimeUserAuth with
  | some snapshot => authenticateBySnapshot env shared snapshot request
  | none => (shared, authenticateBySecrets env request)

def recordSuccess (who : Authenticated) : SharedState :=
  match who.userId with
  | none => shared
  | some userId =>
    recordRecentUserSuccess
      (stickyHintRecordSuccess env.sniHash shared request.peer.ip userId request.clientSni) userId

def handleTlsHandshake (proxy : Proxy) (request : Request) : Proxy × HandshakeResult :=
  match request.rejectedEarly with
  | some result => (proxy, result)
  | none =>
    match authenticate env proxy.shared request with
    | (shared, none) => ({ proxy with shared := shared }, .badClient)
    | (shared, some who) =>
      if request.config.access.isUserSourceIpDenied who.user request.peer.ip then
        ({ proxy with shared := shared }, .badClient)
      else
        let digestHalf := who.digest.take tlsDigestHalfLen
        match proxy.replay.checkTlsDigest env.shardHash digestHalf request.now with
        | (true, replay) => (⟨shared, replay⟩, .badClient)
        | (false, replay) =>
          let replay := replay.addTlsDigest env.shardHash digestHalf request.addNow
          if request.written then
            (⟨recordSuccess env shared request who, replay⟩, .success who.user)
          else (⟨shared, replay⟩, .error .io)

end

inductive HandleEffect (env : Env) (request : Request) (before : ReplayChecker) :
    ReplayChecker → HandshakeResult → Prop
  | rejected (result : HandshakeResult) (refused : ∀ user, result ≠ .success user) :
      HandleEffect env request before before result
  | replayed (who : Authenticated) :
      HandleEffect env request before
        (before.checkTlsDigest env.shardHash (who.digest.take tlsDigestHalfLen) request.now).2
        .badClient
  | recorded (shared : SharedState) (who : Authenticated) (result : HandshakeResult)
      (authentic : (authenticate env shared request).2 = some who)
      (missed : (before.checkTlsDigest env.shardHash (who.digest.take tlsDigestHalfLen)
        request.now).1 = false) :
      HandleEffect env request before
        ((before.checkTlsDigest env.shardHash (who.digest.take tlsDigestHalfLen)
          request.now).2.addTlsDigest env.shardHash (who.digest.take tlsDigestHalfLen)
            request.addNow) result

variable {request : Request}

theorem rejectedEarly_refused {result : HandshakeResult}
    (early : request.rejectedEarly = some result) (user : Text) : result ≠ .success user := by
  rintro rfl
  unfold Request.rejectedEarly at early
  split_ifs at early
  · cases early
  · cases early
  · cases early
  · cases action : request.config.censorship.unknownSniAction with
    | drop | mask | accept | rejectHandshake => simp [action] at early

theorem handleTlsHandshake_effect (env : Env) (proxy : Proxy) (request : Request) :
    HandleEffect env request proxy.replay (handleTlsHandshake env proxy request).1.replay
      (handleTlsHandshake env proxy request).2 := by
  unfold handleTlsHandshake
  cases early : request.rejectedEarly with
  | some result => exact .rejected result (rejectedEarly_refused early)
  | none =>
    cases outcome : authenticate env proxy.shared request with
    | mk shared authenticated =>
      cases authenticated with
      | none => exact .rejected .badClient (fun _ => nofun)
      | some who =>
        dsimp only
        split_ifs with denied written
        · exact .rejected .badClient (fun _ => nofun)
        all_goals
          cases checked : proxy.replay.checkTlsDigest env.shardHash
            (who.digest.take tlsDigestHalfLen) request.now with
          | mk found replay =>
            have after : replay = (proxy.replay.checkTlsDigest env.shardHash
              (who.digest.take tlsDigestHalfLen) request.now).2 := by rw [checked]
            cases found with
            | true =>
              rw [after]
              exact .replayed who
            | false =>
              rw [after]
              exact .recorded proxy.shared who _ (by rw [outcome]) (by rw [checked])

variable {env : Env} {who : Authenticated}

theorem handleTlsHandshake_accepts {proxy : Proxy} (early : request.rejectedEarly = none)
    (authentic : (authenticate env proxy.shared request).2 = some who)
    (allowed : request.config.access.isUserSourceIpDenied who.user request.peer.ip = false)
    (missed : (proxy.replay.checkTlsDigest env.shardHash (who.digest.take tlsDigestHalfLen)
      request.now).1 = false)
    (written : request.written = true) :
    (handleTlsHandshake env proxy request).2 = .success who.user ∧
      (handleTlsHandshake env proxy request).1.replay =
        (proxy.replay.checkTlsDigest env.shardHash (who.digest.take tlsDigestHalfLen)
          request.now).2.addTlsDigest env.shardHash (who.digest.take tlsDigestHalfLen)
            request.addNow := by
  unfold handleTlsHandshake
  rw [early]
  cases outcome : authenticate env proxy.shared request with
  | mk =>
    rw [outcome] at authentic
    dsimp only at authentic
    rw [authentic]
    simp only [allowed, Bool.false_eq_true, if_false]
    cases checked : proxy.replay.checkTlsDigest env.shardHash
        (who.digest.take tlsDigestHalfLen) request.now with
    | mk =>
      rw [checked] at missed
      dsimp only at missed
      rw [missed]
      simp only [written, if_true, and_self]

def configuredSecrets (config : ProxyConfig) : List Bytes :=
  (config.runtimeUserAuth.elim [] fun snapshot => snapshot.entries.map UserAuthEntry.secret) ++
    config.access.users.entries.filterMap fun row => decodeUserSecret row.2

structure Vouched (env : Env) (request : Request) (who : Authenticated) : Prop where
  digest : who.digest = slice request.handshake tlsDigestPos tlsDigestLen
  accepted : ∃ now timestamp, ∃ secret ∈ configuredSecrets request.config,
    tlsNow request.config.access.ignoreTimeSkew (env.epoch + request.now) = some now ∧
    embeddedTimestamp env.hmac who.digest request.handshake secret = some timestamp ∧
    timestampAccepted request.config.access.ignoreTimeSkew now
      (bootTimeCapSecs request.config.access.ignoreTimeSkew
        request.config.access.replayWindowSecs) timestamp

variable {handshake : Bytes}

theorem digestAndSessionId_digest {digest sessionId : Bytes}
    (parsed : digestAndSessionId handshake = some (digest, sessionId)) :
    digest = slice handshake tlsDigestPos tlsDigestLen := by
  unfold digestAndSessionId at parsed
  dsimp only at parsed
  split_ifs at parsed
  exact (Prod.mk.inj (Option.some.inj parsed)).1.symm

variable {hmac : Bytes → Bytes → Vector UInt8 32} {parsed : ParsedTlsAuthMaterial} {secret : Bytes}

theorem validateTlsSecretCandidate_spec {candidate : TlsCandidateValidation}
    (validated : validateTlsSecretCandidate hmac parsed handshake secret = some candidate) :
    candidate.digest = parsed.digest ∧
      ∃ timestamp, embeddedTimestamp hmac parsed.digest handshake secret = some timestamp ∧
        timestampAccepted parsed.ignoreTimeSkew parsed.now parsed.bootTimeCapSecs timestamp := by
  unfold validateTlsSecretCandidate at validated
  cases embedded : embeddedTimestamp hmac parsed.digest handshake secret with
  | none =>
    rw [embedded] at validated
    cases validated
  | some timestamp =>
    simp only [embedded] at validated
    split_ifs at validated with accepted
    cases validated
    exact ⟨rfl, timestamp, rfl, accepted⟩

theorem validateTlsSecretCandidate_isSome {timestamp : Nat}
    (embedded : embeddedTimestamp hmac parsed.digest handshake secret = some timestamp)
    (accepted : timestampAccepted parsed.ignoreTimeSkew parsed.now parsed.bootTimeCapSecs timestamp) :
    (validateTlsSecretCandidate hmac parsed handshake secret).isSome := by
  simp only [validateTlsSecretCandidate, embedded]
  rw [if_pos accepted]
  rfl

theorem firstMatch_spec {digest : Bytes} {ignoreTimeSkew : Bool} {now : Int} {cap : Nat}
    {secrets : List (Text × Bytes)} {user : Text} {timestamp : Nat}
    (matched : firstMatch hmac digest handshake ignoreTimeSkew now cap secrets =
      some (user, timestamp)) :
    ∃ secret, (user, secret) ∈ secrets ∧
      embeddedTimestamp hmac digest handshake secret = some timestamp ∧
      timestampAccepted ignoreTimeSkew now cap timestamp := by
  induction secrets with
  | nil => cases matched
  | cons row rest ih =>
    have later (matched : firstMatch hmac digest handshake ignoreTimeSkew now cap rest =
        some (user, timestamp)) :
        ∃ secret, (user, secret) ∈ row :: rest ∧
          embeddedTimestamp hmac digest handshake secret = some timestamp ∧
          timestampAccepted ignoreTimeSkew now cap timestamp := by
      obtain ⟨secret, member, accepted⟩ := ih matched
      exact ⟨secret, List.mem_cons_of_mem row member, accepted⟩
    obtain ⟨_, secret⟩ := row
    rw [firstMatch] at matched
    cases embedded : embeddedTimestamp hmac digest handshake secret with
    | none =>
      rw [embedded] at matched
      exact later matched
    | some =>
      simp only [embedded] at matched
      split_ifs at matched with accepted
      · cases matched
        exact ⟨secret, List.mem_cons_self, embedded, accepted⟩
      · exact later matched

theorem parseTlsAuthMaterial_spec {ignoreTimeSkew : Bool} {replayWindowSecs : Nat} {unixNow : Int}
    (material : parseTlsAuthMaterial handshake ignoreTimeSkew replayWindowSecs unixNow =
      some parsed) :
    parsed.digest = slice handshake tlsDigestPos tlsDigestLen ∧
      tlsNow ignoreTimeSkew unixNow = some parsed.now ∧
      parsed.ignoreTimeSkew = ignoreTimeSkew ∧
      parsed.bootTimeCapSecs = bootTimeCapSecs ignoreTimeSkew replayWindowSecs := by
  simp only [parseTlsAuthMaterial, bind, Option.bind_eq_some_iff] at material
  obtain ⟨⟨_, _⟩, fields, now, clock, built⟩ := material
  cases built
  exact ⟨digestAndSessionId_digest fields, clock, rfl, rfl⟩

theorem authenticateBySnapshot_vouched {shared : SharedState} {snapshot : UserAuthSnapshot}
    (configured : request.config.runtimeUserAuth = some snapshot)
    (authentic : (authenticateBySnapshot env shared snapshot request).2 = some who) :
    Vouched env request who := by
  unfold authenticateBySnapshot at authentic
  cases material : parsedMaterial env request with
  | none =>
    rw [material] at authentic
    cases authentic
  | some parsed =>
    simp only [material, searchUser_eq_tryAll] at authentic
    obtain ⟨found, matched, rfl⟩ := Option.map_eq_some_iff.mp authentic
    obtain ⟨present, validated⟩ := tryAll_match matched
    obtain ⟨digest, clock, ignore, cap⟩ := parseTlsAuthMaterial_spec material
    obtain ⟨same, timestamp, embedded, accepted⟩ := validateTlsSecretCandidate_spec validated
    have secret : found.entry.secret ∈ configuredSecrets request.config := by
      apply List.mem_append_left
      rw [configured]
      exact List.mem_map_of_mem (List.mem_of_getElem? present)
    rw [ignore, cap] at accepted
    rw [← same] at embedded
    exact ⟨same.trans digest, parsed.now, timestamp, _, secret, clock, embedded, accepted⟩

theorem decodeUserSecrets_configured {config : ProxyConfig} {preferred : Option Text} {user : Text}
    (member : (user, secret) ∈ decodeUserSecrets config preferred) :
    secret ∈ configuredSecrets config := by
  apply List.mem_append_right
  apply List.mem_filterMap.mpr
  rcases List.mem_append.mp member with first | other
  · obtain ⟨name, _, secretHex, stored, decoded, valid, built⟩ :
        ∃ name, preferred = some name ∧ ∃ secretHex, config.access.users.lookup name =
          some secretHex ∧ ∃ decoded, decodeUserSecret secretHex = some decoded ∧
            (name, decoded) = (user, secret) := by
      simpa [Option.bind_eq_some_iff] using first
    cases built
    exact ⟨⟨user, secretHex⟩, AList.mem_lookup_iff.mp stored, valid⟩
  · obtain ⟨row, present, built⟩ := List.mem_filterMap.mp other
    refine ⟨row, present, ?_⟩
    split_ifs at built
    obtain ⟨_, valid, same⟩ := Option.map_eq_some_iff.mp built
    cases same
    exact valid

theorem authenticateBySecrets_vouched (authentic : authenticateBySecrets env request = some who) :
    Vouched env request who := by
  unfold authenticateBySecrets at authentic
  dsimp only at authentic
  cases validated : validateTlsHandshakeWithReplayWindow env.hmac request.handshake
      (decodeUserSecrets request.config request.preferredUserHint)
      request.config.access.ignoreTimeSkew request.config.access.replayWindowSecs
      (env.epoch + request.now) with
  | none =>
    rw [validated] at authentic
    cases authentic
  | some =>
    simp only [validated] at authentic
    split at authentic
    · cases authentic
    · split_ifs at authentic
      cases authentic
      simp only [validateTlsHandshakeWithReplayWindow, validateTlsHandshakeAtTimeWithBootCap,
        bind, Option.bind_eq_some_iff] at validated
      obtain ⟨now, clock, ⟨_, _⟩, fields, ⟨user, timestamp⟩, matched, built⟩ :=
        validated
      cases built
      obtain ⟨secret, member, embedded, accepted⟩ := firstMatch_spec matched
      exact ⟨digestAndSessionId_digest fields, now, timestamp, secret,
        decodeUserSecrets_configured member, clock, embedded, accepted⟩

theorem authenticate_vouched {shared : SharedState}
    (authentic : (authenticate env shared request).2 = some who) :
    Vouched env request who := by
  unfold authenticate at authentic
  cases configured : request.config.runtimeUserAuth with
  | none =>
    rw [configured] at authentic
    exact authenticateBySecrets_vouched authentic
  | some =>
    rw [configured] at authentic
    exact authenticateBySnapshot_vouched configured authentic

end Telemt.Handshake
