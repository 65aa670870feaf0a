import Telemt.Handshake.Completeness

namespace Telemt.Handshake
open Foundation ClientHello

/-! # A hello is accepted once -/

inductive Event
  | call (request : Request)
  | cleanup (now : Instant)

def Event.times : Event → List Instant
  | .call request => [request.now, request.addNow]
  | .cleanup now => [now]

variable (env : Env) (proxy : Proxy)

def stepEvent : Event → Proxy × Option HandshakeResult
  | .call request =>
    let handled := handleTlsHandshake env proxy request
    (handled.1, some handled.2)
  | .cleanup now => ({ proxy with replay := proxy.replay.runPeriodicCleanup now }, none)

variable (events : List Event)

def runEvents : Proxy :=
  events.foldl (fun proxy event => (stepEvent env proxy event).1) proxy

theorem runEvents_cons (event : Event) (rest : List Event) :
    runEvents env proxy (event :: rest) = runEvents env (stepEvent env proxy event).1 rest := rfl

def HandshakeResult.isSuccess : HandshakeResult → Bool
  | .success _ => true
  | _ => false

def accepts (hello : Bytes) (proxy : Proxy) : Event → Bool
  | .call request =>
    request.handshake == hello && (handleTlsHandshake env proxy request).2.isSuccess
  | .cleanup _ => false

def acceptances (env : Env) (hello : Bytes) : Proxy → List Event → Nat
  | _, [] => 0
  | proxy, event :: rest =>
    (if accepts env hello proxy event then 1 else 0) +
      acceptances env hello (stepEvent env proxy event).1 rest

def Sequential : Prop := (events.flatMap Event.times).Pairwise (· ≤ ·)

theorem sequential_cons {event : Event} {rest : List Event} :
    Sequential (event :: rest) ↔ event.times.Pairwise (· ≤ ·) ∧ Sequential rest ∧
      ∀ time ∈ event.times, ∀ later ∈ rest.flatMap Event.times, time ≤ later := by
  rw [Sequential, List.flatMap_cons, List.pairwise_append]
  rfl

instance : Decidable (Sequential events) :=
  inferInstanceAs (Decidable (List.Pairwise _ _))

def Configured (w : Nat) : Event → Prop
  | .call request => request.config.access.ignoreTimeSkew = false ∧
      request.config.access.replayWindowSecs = w
  | .cleanup _ => True

-- The timestamp hidden in the hello, read with any secret of the configuration it is presented to.
def Stamped (hello : Bytes) (timestamp : Nat) : Event → Prop
  | .call request => request.handshake = hello →
      ∀ secret ∈ configuredSecrets request.config, ∀ hidden,
        embeddedTimestamp env.hmac (slice hello tlsDigestPos tlsDigestLen) hello secret =
          some hidden → hidden = timestamp
  | .cleanup _ => True

def startProxy (shared : SharedState) (capacity w : Nat) : Proxy :=
  ⟨shared, .new capacity (Duration.fromSecs w)⟩

theorem startProxy_tlsWindow (shared : SharedState) (capacity w : Nat) :
    (startProxy shared capacity w).replay.tlsWindow =
      max (Duration.fromSecs w) minTlsReplayWindow := rfl

def digestHalf (hello : Bytes) : ReplayKey :=
  (slice hello tlsDigestPos tlsDigestLen).take tlsDigestHalfLen

-- What an event does to the cache: one digest is looked up, or looked up and inserted.
inductive ReplayMove (env : Env) (before : ReplayChecker) : Event → ReplayChecker → Prop
  | untouched (request : Request) : ReplayMove env before (.call request) before
  | checked (request : Request) (key : ReplayKey) :
      ReplayMove env before (.call request)
        (before.checkTlsDigest env.shardHash key request.now).2
  | added (request : Request) (key : ReplayKey) :
      ReplayMove env before (.call request)
        ((before.checkTlsDigest env.shardHash key request.now).2.addTlsDigest env.shardHash key
          request.addNow)
  | cleaned (now : Instant) :
      ReplayMove env before (.cleanup now) (before.runPeriodicCleanup now)

theorem stepEvent_move (proxy : Proxy) (event : Event) :
    ReplayMove env proxy.replay event (stepEvent env proxy event).1.replay := by
  cases event with
  | cleanup now => exact .cleaned now
  | call request =>
    show ReplayMove env proxy.replay (.call request) (handleTlsHandshake env proxy request).1.replay
    have effect := handleTlsHandshake_effect env proxy request
    generalize (handleTlsHandshake env proxy request).1.replay = after at effect ⊢
    generalize (handleTlsHandshake env proxy request).2 = result at effect
    cases effect with
    | rejected result => exact .untouched request
    | replayed who => exact .checked request _
    | recorded => exact .added request _

namespace ReplayMove
variable {env : Env} {before after : ReplayChecker} {event : Event}

section
variable (move : ReplayMove env before event after)
include move

theorem tlsWindow_eq : after.tlsWindow = before.tlsWindow := by
  cases move <;> rfl

theorem additions_le : before.additions ≤ after.additions := by
  cases move with
  | untouched request | checked request key | cleaned now => exact Nat.le_refl _
  | added => exact Nat.le_succ _

theorem filled {capacity : Nat} (filled : before.Filled capacity) : after.Filled capacity := by
  cases move with
  | untouched request => exact filled
  | checked request key => exact filled.checkTlsDigest key request.now
  | added request key => exact (filled.checkTlsDigest key request.now).addTlsDigest key _
  | cleaned now => exact filled.runPeriodicCleanup now

theorem remembers {key : ReplayKey} {since : Instant} {capacity : Nat}
    (remembers : before.Remembers env.shardHash key since)
    (fresh : ∀ time ∈ event.times, time ≤ since + before.tlsWindow)
    (filled : before.Filled capacity) (roomy : before.additions < capacity) :
    after.Remembers env.shardHash key since := by
  cases move with
  | untouched request => exact remembers
  | checked request data => exact remembers.checkTlsDigest (fresh _ List.mem_cons_self) data
  | added request data =>
    have second := fresh request.addNow (List.mem_cons_of_mem _ (List.mem_singleton_self _))
    have checked : (before.checkTlsDigest env.shardHash data request.now).2.Filled capacity :=
      filled.checkTlsDigest data request.now
    refine (remembers.checkTlsDigest (fresh _ List.mem_cons_self) data).addTlsDigest
      second (.inr ?_)
    rw [checked.capacity_eq]
    exact (checked.queue_le _).trans_lt roomy
  | cleaned now => exact remembers.runPeriodicCleanup (fresh now (List.mem_singleton_self _))

end

end ReplayMove

theorem runEvents_additions_le (env : Env) (proxy : Proxy) (events : List Event) :
    proxy.replay.additions ≤ (runEvents env proxy events).replay.additions := by
  induction events generalizing proxy with
  | nil => exact Nat.le_refl _
  | cons event _ ih => exact (stepEvent_move env proxy event).additions_le.trans (ih _)

structure AcceptedAt (env : Env) (hello : Bytes) (timestamp : Nat) (proxy after : Proxy)
    (request : Request) : Prop where
  notEarly : ((timestamp : Int) - 120) * 1000000000 ≤ env.epoch + request.now
  notLate : env.epoch + request.now < ((timestamp : Int) + 121) * 1000000000
  missed : (proxy.replay.checkTlsDigest env.shardHash (digestHalf hello) request.now).1 = false
  recorded : after.replay =
    (proxy.replay.checkTlsDigest env.shardHash (digestHalf hello) request.now).2.addTlsDigest
      env.shardHash (digestHalf hello) request.addNow

variable {now : Int} {timestamp : Nat}

theorem timestampAccepted_skew {cap : Nat} (late : cap ≤ timestamp)
    (accepted : timestampAccepted false now cap timestamp) :
    -120 ≤ now - timestamp ∧ now - timestamp ≤ 120 := by
  have notBoot : ¬(0 < cap ∧ timestamp < cap) := fun boot => Nat.not_lt.mpr late boot.2
  rw [timestampAccepted, if_neg Bool.false_ne_true, if_neg notBoot] at accepted
  exact of_decide_eq_true accepted

theorem systemTimeToUnixSecs_eq {unixNow : Int} (clock : systemTimeToUnixSecs unixNow = some now) :
    now = unixNow / 1000000000 := by
  unfold systemTimeToUnixSecs at clock
  split_ifs at clock
  exact (Option.some.inj clock).symm

theorem accepts_spec {env : Env} {hello : Bytes} {w : Nat} {proxy : Proxy} {request : Request}
    (configured : Configured w (.call request))
    (stamped : Stamped env hello timestamp (.call request))
    (late : bootTimeCapSecs false w ≤ timestamp)
    (accepted : accepts env hello proxy (.call request) = true) :
    AcceptedAt env hello timestamp proxy (stepEvent env proxy (.call request)).1 request := by
  obtain ⟨ignore, window⟩ := configured
  obtain ⟨presented, success⟩ : request.handshake = hello ∧
      (handleTlsHandshake env proxy request).2.isSuccess = true := by
    simpa [accepts] using accepted
  have effect := handleTlsHandshake_effect env proxy request
  show AcceptedAt env hello timestamp proxy (handleTlsHandshake env proxy request).1 request
  generalize (handleTlsHandshake env proxy request).1 = after at effect ⊢
  generalize (handleTlsHandshake env proxy request).2 = result at effect success
  obtain ⟨_, _⟩ := after
  cases effect with
  | rejected result refused =>
    cases result with
    | success user => exact absurd rfl (refused user)
    | badClient | error reason => cases success
  | replayed who => cases success
  | recorded _ who _ authentic missed =>
    obtain ⟨digest, _, hidden, secret, member, clock, embedded, inWindow⟩ :=
      authenticate_vouched authentic
    have half : who.digest.take tlsDigestHalfLen = digestHalf hello := by
      rw [digest, presented]
      rfl
    rw [digest, presented] at embedded
    have same : hidden = timestamp := stamped presented secret member hidden embedded
    rw [ignore, window, same] at inWindow
    rw [ignore, tlsNow, if_neg Bool.false_ne_true] at clock
    have seconds := systemTimeToUnixSecs_eq clock
    obtain ⟨_, _⟩ := timestampAccepted_skew late inWindow
    rw [half] at missed ⊢
    refine ⟨?_, ?_, missed, rfl⟩
    · omega
    · omega

section
variable {env : Env} {hello : Bytes} {timestamp w capacity : Nat} {proxy : Proxy}
  {events : List Event} (wide : Duration.fromSecs 241 ≤ proxy.replay.tlsWindow)
  (sequential : Sequential events) (configured : ∀ event ∈ events, Configured w event)
  (stamped : ∀ event ∈ events, Stamped env hello timestamp event)
  (late : bootTimeCapSecs false w ≤ timestamp) (filled : proxy.replay.Filled capacity)
  (few : (runEvents env proxy events).replay.additions < capacity)
include wide sequential configured stamped late filled few

-- Either the digest is still cached, or the whole rest of the run is past its time in the cache.
theorem acceptances_eq_zero {since : Instant}
    (arrived : ((timestamp : Int) - 120) * 1000000000 ≤ env.epoch + since)
    (covered : proxy.replay.Remembers env.shardHash (digestHalf hello) since ∨
      ∀ time ∈ events.flatMap Event.times, since + proxy.replay.tlsWindow < time) :
    acceptances env hello proxy events = 0 := by
  induction events generalizing proxy with
  | nil => rfl
  | cons event rest ih =>
    have move := stepEvent_move env proxy event
    have roomy : proxy.replay.additions < capacity :=
      (runEvents_additions_le env proxy (event :: rest)).trans_lt few
    have ordered := sequential_cons.mp sequential
    have refused : accepts env hello proxy event = false := by
      apply Bool.eq_false_iff.mpr
      intro accepted
      cases event with
      | cleanup now => cases accepted
      | call request =>
        have admission := accepts_spec (configured _ List.mem_cons_self)
          (stamped _ List.mem_cons_self) late accepted
        have inTime : request.now ≤ since + proxy.replay.tlsWindow := by
          have notLate := admission.notLate
          have width : (241000000000 : Int) ≤ ((proxy.replay.tlsWindow : Nat) : Int) :=
            Int.ofNat_le.mpr wide
          show @LE.le Int _ request.now (since + ((proxy.replay.tlsWindow : Nat) : Int))
          omega
        rcases covered with remembers | expired
        · have found := remembers.found inTime
          rw [admission.missed] at found
          cases found
        · exact absurd inTime (not_le_of_gt (expired _ List.mem_cons_self))
    have next : (stepEvent env proxy event).1.replay.Remembers env.shardHash (digestHalf hello)
          since ∨ ∀ time ∈ rest.flatMap Event.times,
            since + (stepEvent env proxy event).1.replay.tlsWindow < time := by
      rw [move.tlsWindow_eq]
      rcases covered with remembers | expired
      · by_cases fresh : ∀ time ∈ event.times, time ≤ since + proxy.replay.tlsWindow
        · exact .inl (move.remembers remembers fresh filled roomy)
        · refine .inr fun time member => ?_
          obtain ⟨passed, inEvent, beyond⟩ : ∃ passed ∈ event.times,
              since + proxy.replay.tlsWindow < passed := by
            simpa only [not_forall, not_le, exists_prop] using fresh
          exact beyond.trans_le (ordered.2.2 passed inEvent time member)
      · exact .inr fun time member => expired time (List.mem_append_right _ member)
    rw [acceptances, refused, if_neg Bool.false_ne_true, Nat.zero_add]
    refine ih ?_ ordered.2.1 ?_ ?_ (move.filled filled) few next
    · rw [move.tlsWindow_eq]
      exact wide
    · exact fun later member => configured later (List.mem_cons_of_mem _ member)
    · exact fun later member => stamped later (List.mem_cons_of_mem _ member)

theorem acceptances_le_one : acceptances env hello proxy events ≤ 1 := by
  induction events generalizing proxy with
  | nil => exact Nat.zero_le 1
  | cons event _ ih =>
    have move := stepEvent_move env proxy event
    have ordered := sequential_cons.mp sequential
    have wide' : Duration.fromSecs 241 ≤ (stepEvent env proxy event).1.replay.tlsWindow := by
      rw [move.tlsWindow_eq]
      exact wide
    have configured' := fun later member => configured later (List.mem_cons_of_mem event member)
    have stamped' := fun later member => stamped later (List.mem_cons_of_mem event member)
    cases accepted : accepts env hello proxy event with
    | false =>
      rw [acceptances, accepted, if_neg Bool.false_ne_true, Nat.zero_add]
      exact ih wide' ordered.2.1 configured' stamped' (move.filled filled) few
    | true =>
      cases event with
      | cleanup now => cases accepted
      | call request =>
        have admission := accepts_spec (configured _ List.mem_cons_self)
          (stamped _ List.mem_cons_self) late accepted
        have remembers : (stepEvent env proxy (.call request)).1.replay.Remembers
            env.shardHash (digestHalf hello) request.addNow := by
          rw [admission.recorded]
          exact (ReplayChecker.checkTlsDigest_forgets admission.missed).addTlsDigest _
        have order : request.now ≤ request.addNow :=
          (List.pairwise_cons.mp ordered.1).1 _ (List.mem_singleton_self _)
        have arrived : ((timestamp : Int) - 120) * 1000000000 ≤ env.epoch + request.addNow :=
          admission.notEarly.trans (Int.add_le_add_left order env.epoch)
        rw [acceptances, accepted, if_pos rfl, acceptances_eq_zero wide' ordered.2.1 configured'
          stamped' late (move.filled filled) few arrived (.inl remembers)]

end

def lateSnapshot : UserAuthSnapshot where
  entries := [⟨lateUser, List.replicate 16 255⟩]

def lateRequest (w : Nat) (now : Instant) : Request where
  handshake := hello
  peer := ⟨.ofOctets 10 0 0 1, 443⟩
  config := {
    access := { replayWindowSecs := w }
    censorship := { tlsDomain := domain }
    runtimeUserAuth := some lateSnapshot }
  now := now
  addNow := now
  throttled := false
  overload := false
  written := true

theorem lateRequest_early (w : Nat) (now : Instant) : (lateRequest w now).rejectedEarly = none := by
  have fixed : (lateRequest 0 0).rejectedEarly = none := by decide +kernel
  exact fixed

theorem lateRequest_embedded {secret : Bytes} {hidden : Nat}
    (embedded : embeddedTimestamp lateEnv.hmac (slice hello tlsDigestPos tlsDigestLen) hello secret =
      some hidden) : hidden = 1000 := by
  by_cases last : secret = List.replicate 16 255
  · have fixed : embeddedTimestamp lateEnv.hmac (slice hello tlsDigestPos tlsDigestLen) hello
        (List.replicate 16 255) = some 1000 := by decide +kernel
    rw [last, fixed] at embedded
    exact (Option.some.inj embedded).symm
  · have other : lateHmac secret (zeroedDigest hello) = ⟨⟨List.replicate 32 0⟩, rfl⟩ := if_neg last
    simp only [embeddedTimestamp, computeTlsHmacZeroedDigest, lateEnv, other] at embedded
    split_ifs at embedded with agrees
    exact absurd agrees (by decide +kernel)

theorem timestampAccepted_of_skew (early : -120 ≤ now - timestamp) (late : now - timestamp ≤ 120)
    (cap : Nat) : timestampAccepted false now cap timestamp := by
  rw [timestampAccepted, if_neg Bool.false_ne_true]
  by_cases boot : 0 < cap ∧ timestamp < cap
  · rw [if_pos boot]
  · rw [if_neg boot]
    exact decide_eq_true ⟨early, late⟩

theorem lateRequest_authenticated (shared : SharedState) (w : Nat) (early : 880000000000 ≤ now)
    (late : now < 1121000000000) :
    ∃ who, (authenticate lateEnv shared (lateRequest w now)).2 = some who := by
  have clock : tlsNow false (0 + now) = some ((0 + now) / 1000000000) := by
    rw [tlsNow, if_neg Bool.false_ne_true, systemTimeToUnixSecs, if_pos]
    omega
  let parsed : ParsedTlsAuthMaterial :=
    ⟨slice hello tlsDigestPos tlsDigestLen, [], (0 + now) / 1000000000, false,
      bootTimeCapSecs false w⟩
  have material : parsedMaterial lateEnv (lateRequest w now) = some parsed := by
    show parseTlsAuthMaterial hello false w (0 + now) = some parsed
    show (tlsNow false (0 + now)).bind _ = _
    rw [clock]
    rfl
  have embedded : embeddedTimestamp lateEnv.hmac (slice hello tlsDigestPos tlsDigestLen) hello
      (List.replicate 16 255) = some 1000 := by decide +kernel
  have accepted : timestampAccepted false ((0 + now) / 1000000000) (bootTimeCapSecs false w) 1000 :=
    timestampAccepted_of_skew (by omega) (by omega) _
  have validated : (validator lateEnv (lateRequest w now) parsed
      ⟨lateUser, List.replicate 16 255⟩).isSome :=
    validateTlsSecretCandidate_isSome embedded accepted
  have reached : ReachedWithinBudget lateSnapshot (validator lateEnv (lateRequest w now) parsed)
      (hintsFor lateEnv shared lateSnapshot (lateRequest w now)) := by
    rw [ReachedWithinBudget, checksSpent_eq_zero]
    · exact Nat.one_pos
    · intro userId member
      have missed := List.all_eq_true.mp List.all_takeWhile userId member
      cases userId with
      | zero =>
        have first : authenticates lateSnapshot (validator lateEnv (lateRequest w now) parsed) 0 :=
          validated
        rw [first] at missed
        cases missed
      | succ userId => exact Nat.succ_le_succ (Nat.zero_le userId)
  have found := (searchUser_isSome_iff lateSnapshot (validator lateEnv (lateRequest w now) parsed)
    (hintsFor lateEnv shared lateSnapshot (lateRequest w now))).mpr
      ⟨⟨_, List.mem_singleton_self _, validated⟩, reached⟩
  apply Option.isSome_iff_exists.mp
  show (authenticateBySnapshot lateEnv shared lateSnapshot (lateRequest w now)).2.isSome
  rw [authenticateBySnapshot_snd material, Option.isSome_map]
  exact found

theorem lateRequest_accepted {proxy : Proxy} {w : Nat} {now : Int} (early : 880000000000 ≤ now)
    (late : now < 1121000000000)
    (missed : (proxy.replay.checkTlsDigest lateEnv.shardHash (digestHalf hello) now).1 = false) :
    accepts lateEnv hello proxy (.call (lateRequest w now)) = true ∧
      (stepEvent lateEnv proxy (.call (lateRequest w now))).1.replay =
        (proxy.replay.checkTlsDigest lateEnv.shardHash (digestHalf hello) now).2.addTlsDigest
          lateEnv.shardHash (digestHalf hello) now := by
  obtain ⟨who, authentic⟩ := lateRequest_authenticated proxy.shared w early late
  have half : who.digest.take tlsDigestHalfLen = digestHalf hello :=
    congrArg (List.take tlsDigestHalfLen) (authenticate_vouched authentic).digest
  obtain ⟨success, replay⟩ := handleTlsHandshake_accepts (lateRequest_early w now) authentic rfl
    (by rw [half]; exact missed) rfl
  rw [half] at replay
  have presented : (lateRequest w now).handshake = hello := rfl
  constructor
  · rw [accepts, success, presented, beq_self_eq_true]
    rfl
  · dsimp only [stepEvent]
    exact replay

def twoPresentations (w : Nat) (first second : Instant) : List Event :=
  [.call (lateRequest w first), .call (lateRequest w second)]

theorem twoPresentations_sequential (w : Nat) {first second : Int} (order : first ≤ second) :
    Sequential (twoPresentations w first second) := by
  show List.Pairwise _ [first, first, second, second]
  simp [order]

theorem twoPresentations_configured (w : Nat) (first second : Instant) :
    ∀ event ∈ twoPresentations w first second, Configured w event := by
  intro event member
  rcases List.mem_cons.mp member with rfl | member
  · exact ⟨rfl, rfl⟩
  · rw [List.mem_singleton.mp member]
    exact ⟨rfl, rfl⟩

theorem twoPresentations_stamped (w : Nat) (first second : Instant) :
    ∀ event ∈ twoPresentations w first second, Stamped lateEnv hello 1000 event := by
  intro event member
  rcases List.mem_cons.mp member with rfl | member
  · exact fun _ _ _ _ embedded => lateRequest_embedded embedded
  · rw [List.mem_singleton.mp member]
    exact fun _ _ _ _ embedded => lateRequest_embedded embedded

theorem twoPresentations_accepted {w : Nat} (narrow : w ≤ 240) :
    acceptances lateEnv hello (startProxy {} 65536 w)
        (twoPresentations w 880000000000 1120999999999) = 2 ∧
      (runEvents lateEnv (startProxy {} 65536 w)
        (twoPresentations w 880000000000 1120999999999)).replay.additions = 2 := by
  have fresh : ((startProxy {} 65536 w).replay.checkTlsDigest lateEnv.shardHash (digestHalf hello)
      880000000000).1 = false :=
    (ReplayChecker.forgets_new _ _ _).missed _
  obtain ⟨first, recorded⟩ := @lateRequest_accepted (startProxy {} 65536 w) w 880000000000
    (by decide) (by decide) fresh
  generalize stepped : (stepEvent lateEnv (startProxy {} 65536 w)
    (.call (lateRequest w 880000000000))).1 = proxy at recorded
  have stamped : proxy.replay.StampedBy 880000000000 := by
    rw [recorded]
    exact ((ReplayChecker.stampedBy_new _ _ _).checkTlsDigest _ _).addTlsDigest _
  have window : proxy.replay.tlsWindow ≤ Duration.fromSecs 240 := by
    rw [recorded, ReplayChecker.addTlsDigest_tlsWindow, ReplayChecker.checkTlsDigest_tlsWindow,
      startProxy_tlsWindow]
    exact Nat.max_le.mpr ⟨Nat.mul_le_mul_right _ narrow, by decide⟩
  have expired : 880000000000 < 1120999999999 - (proxy.replay.tlsWindow : Int) := by
    have width : ((proxy.replay.tlsWindow : Nat) : Int) ≤ 240000000000 := Int.ofNat_le.mpr window
    show @LT.lt Int _ 880000000000 (1120999999999 - ((proxy.replay.tlsWindow : Nat) : Int))
    omega
  have missed : (proxy.replay.checkTlsDigest lateEnv.shardHash (digestHalf hello)
      1120999999999).1 = false := stamped.missed expired _
  obtain ⟨second, recordedAgain⟩ := @lateRequest_accepted proxy w 1120999999999
    (by decide) (by decide) missed
  constructor
  · simp only [twoPresentations, acceptances, first, stepped, second, if_true]
  · rw [twoPresentations, runEvents_cons, stepped, runEvents_cons, runEvents, List.foldl_nil,
      recordedAgain, ReplayChecker.addTlsDigest_additions, ReplayChecker.checkTlsDigest_additions,
      recorded, ReplayChecker.addTlsDigest_additions, ReplayChecker.checkTlsDigest_additions]
    rfl

theorem hello_accepted_once_iff (w : Nat) :
    (∀ (env : Env) (shared : SharedState) (capacity : Nat) (hello : Bytes) (timestamp : Nat)
        (events : List Event), Sequential events →
      (∀ event ∈ events, Configured w event) →
      (∀ event ∈ events, Stamped env hello timestamp event) →
      bootTimeCapSecs false w ≤ timestamp →
      (runEvents env (startProxy shared capacity w) events).replay.additions <
        ReplayChecker.shardCapacity capacity →
      acceptances env hello (startProxy shared capacity w) events ≤ 1) ↔ 241 ≤ w := by
  constructor
  · intro once
    by_contra narrow
    obtain ⟨accepted, added⟩ := @twoPresentations_accepted w (by omega)
    have bound := once lateEnv {} 65536 hello 1000 (twoPresentations w 880000000000 1120999999999)
      (twoPresentations_sequential w (by decide)) (twoPresentations_configured w _ _)
      (twoPresentations_stamped w _ _) ((Nat.min_le_right _ _).trans (by decide))
      (by rw [added]; decide)
    rw [accepted] at bound
    exact absurd bound (by decide)
  · intro wide env shared capacity hello timestamp events sequential configured stamped late few
    refine acceptances_le_one ?_ sequential configured stamped late
      (ReplayChecker.filled_new capacity _) few
    exact (Nat.mul_le_mul_right _ wide).trans (Nat.le_max_left _ _)

theorem hello_accepted_once_five_minutes :
    acceptances lateEnv hello (startProxy {} 65536 300)
      (twoPresentations 300 880000000000 1120999999999) ≤ 1 := by
  have few : (runEvents lateEnv (startProxy {} 65536 300)
      (twoPresentations 300 880000000000 1120999999999)).replay.additions <
        ReplayChecker.shardCapacity 65536 := by decide +kernel
  exact (hello_accepted_once_iff 300).mpr (by decide) lateEnv {} 65536 hello 1000 _
    (twoPresentations_sequential 300 (by decide)) (twoPresentations_configured 300 _ _)
    (twoPresentations_stamped 300 _ _) (by decide) few

theorem hello_accepted_twice :
    acceptances lateEnv hello (startProxy {} 65536 120)
      (twoPresentations 120 880000000000 1001000000000) = 2 := by
  decide +kernel

end Telemt.Handshake
