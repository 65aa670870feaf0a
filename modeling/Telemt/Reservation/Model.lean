import Telemt.IpTracker.Model

namespace Telemt.Reservation
open Telemt.Foundation Telemt.IpTracker

/-!
# `UserConnectionReservation`

The per-user counters of `Stats`, the admission of a connection and its two ways out. Only the two
counters of `UserStats` that the admission reads are kept; an entry that maintenance has removed
reads as zero, as a missing one does.
-/

structure UserStats where
  currConnects : Nat := 0
  quotaUsed : Nat := 0

structure Stats where
  telemetryUserEnabled : Bool := true
  userStats : Dict String UserStats := ∅
  sessionDropFallbackTotal : Nat := 0

variable (stats : Stats)

def Stats.user (user : String) : UserStats :=
  (stats.userStats.lookup user).getD {}

def Stats.getUserCurrConnects (user : String) : Nat := (stats.user user).currConnects

def Stats.getUserQuotaUsed (user : String) : Nat := (stats.user user).quotaUsed

def Stats.setUser (user : String) (value : UserStats) : Stats :=
  { stats with userStats := stats.userStats.insert user value }

def Stats.loadUserQuotaState (user : String) (usedBytes : Nat) : Stats :=
  stats.setUser user { stats.user user with quotaUsed := usedBytes }

def Stats.tryAcquireUserCurrConnects (user : String) (limit : Option Nat) : Stats × Bool :=
  if !stats.telemetryUserEnabled then (stats, true)
  else
    let entry := stats.user user
    let stats := stats.setUser user entry
    if limit.any fun max => entry.currConnects ≥ max then (stats, false)
    else (stats.setUser user { entry with currConnects := entry.currConnects + 1 }, true)

def Stats.decrementUserCurrConnects (user : String) : Stats :=
  match stats.userStats.lookup user with
  | none => stats
  | some entry => stats.setUser user { entry with currConnects := entry.currConnects - 1 }

structure AccessConfig where
  userExpirations : Dict String Int := ∅
  userDataQuota : Dict String Nat := ∅
  userMaxTcpConns : Dict String Nat := ∅
  userMaxTcpConnsGlobalEach : Nat := 0

def AccessConfig.connectionLimit (config : AccessConfig) (user : String) : Option Nat :=
  ((config.userMaxTcpConns.lookup user).filter fun limit => 0 < limit).or
    (if 0 < config.userMaxTcpConnsGlobalEach then some config.userMaxTcpConnsGlobalEach else none)

inductive ProxyError
  | userExpired (user : String)
  | dataQuotaExceeded (user : String)
  | connectionLimitExceeded (user : String)

inductive SessionReservationState
  | active
  | released
  deriving DecidableEq, Repr

structure UserConnectionReservation where
  user : String
  ip : IpAddr
  tracksIp : Bool
  state : SessionReservationState := .active
  deriving DecidableEq

def UserConnectionReservation.markReleased (r : UserConnectionReservation) :
    Option UserConnectionReservation :=
  if r.state ≠ .active then none else some { r with state := .released }

structure Server where
  stats : Stats := {}
  ipTracker : UserIpTracker := {}

section Operations
variable (shardIdx : String → ShardIdx)

-- Everything `acquire` does before its first await; `utcNow` is the wall clock.
def beginAcquire (stats : Stats) (config : AccessConfig) (user : String) (utcNow : Int) :
    Stats × Except ProxyError Unit :=
  if (config.userExpirations.lookup user).any fun expiration => utcNow > expiration then
    (stats, .error (.userExpired user))
  else if (config.userDataQuota.lookup user).any fun quota => stats.getUserQuotaUsed user ≥ quota then
    (stats, .error (.dataQuotaExceeded user))
  else
    let (stats, acquired) := stats.tryAcquireUserCurrConnects user (config.connectionLimit user)
    if !acquired then (stats, .error (.connectionLimitExceeded user)) else (stats, .ok ())

-- What follows the answer of `check_and_add`.
def finishAcquire (stats : Stats) (user : String) (ip : IpAddr) :
    Except String Unit → Stats × Except ProxyError UserConnectionReservation
  | .ok () => (stats, .ok { user := user, ip := ip, tracksIp := true })
  | .error _ => (stats.decrementUserCurrConnects user, .error (.connectionLimitExceeded user))

def acquireUserConnectionReservation (s : Server) (config : AccessConfig) (user : String)
    (ip : IpAddr) (utcNow : Int) (clock : Clock) :
    Server × Except ProxyError UserConnectionReservation :=
  match beginAcquire s.stats config user utcNow with
  | (stats, .error e) => ({ s with stats := stats }, .error e)
  | (stats, .ok ()) =>
    let (ipTracker, answer) := checkAndAdd shardIdx s.ipTracker clock user ip
    let (stats, result) := finishAcquire stats user ip answer
    ({ stats := stats, ipTracker := ipTracker }, result)

def dropReservation (s : Server) (r : UserConnectionReservation) : Server :=
  match r.markReleased with
  | none => s
  | some r =>
    let stats := { s.stats with sessionDropFallbackTotal := s.stats.sessionDropFallbackTotal + 1 }
    { stats := stats.decrementUserCurrConnects r.user
      ipTracker :=
        if r.tracksIp then enqueueCleanup shardIdx s.ipTracker r.user r.ip else s.ipTracker }

def release (s : Server) (r : UserConnectionReservation) (clock : Clock) : Server :=
  match r.markReleased with
  | none => dropReservation shardIdx s r
  | some r =>
    let ipTracker :=
      if r.tracksIp then removeIp shardIdx s.ipTracker clock r.user r.ip else s.ipTracker
    -- The reservation goes out of scope here, and its state makes the drop do nothing.
    dropReservation shardIdx
      { stats := s.stats.decrementUserCurrConnects r.user, ipTracker := ipTracker } r

end Operations

variable (stats : Stats) (user : String)

@[simp] theorem Stats.user_setUser (user' : String) (value : UserStats) :
    (stats.setUser user value).user user' = if user' = user then value else stats.user user' := by
  unfold Stats.user Stats.setUser
  rw [Dict.lookup_insert_ite]
  split_ifs <;> rfl

theorem setUser_currConnects (value : UserStats) (user' : String) :
    (stats.setUser user value).getUserCurrConnects user' =
      if user' = user then value.currConnects else stats.getUserCurrConnects user' := by
  unfold Stats.getUserCurrConnects
  rw [Stats.user_setUser, apply_ite UserStats.currConnects]

theorem decrement_currConnects (user' : String) :
    (stats.decrementUserCurrConnects user).getUserCurrConnects user' =
      stats.getUserCurrConnects user' - if user' = user then 1 else 0 := by
  unfold Stats.decrementUserCurrConnects Stats.getUserCurrConnects
  cases found : stats.userStats.lookup user with
  | none =>
    by_cases same : user' = user
    · subst same
      simp [Stats.user, found]
    · simp [same]
  | some entry =>
    have current : stats.user user = entry := by simp [Stats.user, found]
    by_cases same : user' = user
    · subst same
      simp [current]
    · simp [same]

theorem decrement_telemetry :
    (stats.decrementUserCurrConnects user).telemetryUserEnabled = stats.telemetryUserEnabled := by
  unfold Stats.decrementUserCurrConnects
  cases stats.userStats.lookup user <;> rfl

/-- What an attempt to count a connection does: nothing without telemetry, and nothing at the limit. -/
inductive Counts (stats after : Stats) (user : String) (limit : Option Nat) : Bool → Prop
  | uncounted (off : stats.telemetryUserEnabled = false) (same : after = stats) :
    Counts stats after user limit true
  | refused
      (same : ∀ user', after.getUserCurrConnects user' = stats.getUserCurrConnects user') :
    Counts stats after user limit false
  | counted (on : stats.telemetryUserEnabled = true)
      (room : ∀ max, limit = some max → stats.getUserCurrConnects user < max)
      (counts : ∀ user', after.getUserCurrConnects user' =
        stats.getUserCurrConnects user' + if user' = user then 1 else 0) :
    Counts stats after user limit true

theorem tryAcquire_counts (limit : Option Nat) :
    let result := stats.tryAcquireUserCurrConnects user limit
    result.1.telemetryUserEnabled = stats.telemetryUserEnabled ∧
      Counts stats result.1 user limit result.2 := by
  dsimp only
  unfold Stats.tryAcquireUserCurrConnects
  cases enabled : stats.telemetryUserEnabled with
  | false => exact ⟨enabled, .uncounted enabled rfl⟩
  | true =>
    simp only [Bool.not_true, Bool.false_eq_true, if_false]
    split_ifs with full
    · refine ⟨enabled, .refused fun user' => ?_⟩
      rw [setUser_currConnects]
      exact ite_eq_right_iff.mpr fun same => same ▸ rfl
    · refine ⟨enabled, .counted enabled (fun max limited => ?_) fun user' => ?_⟩
      · rw [limited, Option.any_some, decide_eq_true_eq] at full
        exact Nat.lt_of_not_le full
      · rw [setUser_currConnects, setUser_currConnects]
        split_ifs with same
        · rw [same]
          rfl
        · rfl

theorem beginAcquire_counts (config : AccessConfig) (user : String) (utcNow : Int) :
    let result := beginAcquire stats config user utcNow
    result.1.telemetryUserEnabled = stats.telemetryUserEnabled ∧
      Counts stats result.1 user (config.connectionLimit user) result.2.isOk := by
  dsimp only
  unfold beginAcquire
  split_ifs
  · exact ⟨rfl, .refused fun _ => rfl⟩
  · exact ⟨rfl, .refused fun _ => rfl⟩
  · obtain ⟨telemetry, counts⟩ := tryAcquire_counts stats user (config.connectionLimit user)
    dsimp only
    cases acquired : (stats.tryAcquireUserCurrConnects user (config.connectionLimit user)).2
    all_goals
      rw [acquired] at counts
      exact ⟨telemetry, counts⟩

theorem acquire_cases {shardIdx : String → ShardIdx} (s : Server) (config : AccessConfig)
    (user : String) (ip : IpAddr) (utcNow : Int) (clock : Clock) :
    let result := acquireUserConnectionReservation shardIdx s config user ip utcNow clock
    let delta (change : Nat → Nat) := ∀ user', result.1.stats.getUserCurrConnects user' =
      if user' = user then change (s.stats.getUserCurrConnects user)
      else s.stats.getUserCurrConnects user'
    (∃ e, result.2 = .error e ∧ delta id) ∨
    (∃ e, result.2 = .error e ∧ s.stats.telemetryUserEnabled = false ∧
      (beginAcquire s.stats config user utcNow).2.isOk ∧
      (checkAndAdd shardIdx s.ipTracker clock user ip).2.isOk = false ∧ delta (· - 1)) ∨
    (result.2 = .ok { user := user, ip := ip, tracksIp := true } ∧
      s.stats.telemetryUserEnabled = false ∧ delta id) ∨
    (result.2 = .ok { user := user, ip := ip, tracksIp := true } ∧
      s.stats.telemetryUserEnabled = true ∧
      (∀ max, config.connectionLimit user = some max → s.stats.getUserCurrConnects user < max) ∧
      delta (· + 1)) := by
  intro result delta
  have unmoved (user' : String) : s.stats.getUserCurrConnects user' =
      if user' = user then s.stats.getUserCurrConnects user
      else s.stats.getUserCurrConnects user' :=
    (ite_eq_right_iff.mpr fun same => same ▸ rfl).symm
  obtain ⟨_, counts⟩ := beginAcquire_counts s.stats config user utcNow
  subst result delta
  unfold acquireUserConnectionReservation
  generalize beginAcquire s.stats config user utcNow = begun at counts ⊢
  obtain ⟨ipTracker, answer⟩ := checkAndAdd shardIdx s.ipTracker clock user ip
  obtain ⟨stats, outcome⟩ := begun
  cases outcome with
  | error e =>
    cases counts with
    | refused same => exact .inl ⟨e, rfl, fun user' => (same user').trans (unmoved user')⟩
  | ok =>
    cases counts with
    | uncounted off same =>
      subst same
      cases answer with
      | error reason =>
        refine .inr (.inl ⟨_, rfl, off, rfl, rfl, fun user' => ?_⟩)
        refine (decrement_currConnects s.stats user user').trans ?_
        split_ifs with here
        · rw [here]
        · rfl
      | ok => exact .inr (.inr (.inl ⟨rfl, off, unmoved⟩))
    | counted on room counts =>
      cases answer with
      | error =>
        refine .inl ⟨_, rfl, fun user' => ?_⟩
        refine (decrement_currConnects stats user user').trans ?_
        rw [counts, Nat.add_sub_cancel]
        exact unmoved user'
      | ok =>
        refine .inr (.inr (.inr ⟨rfl, on, room, fun user' => ?_⟩))
        refine (counts user').trans ?_
        split_ifs with here
        · rw [here]
        · rfl

section
variable {shardIdx : String → ShardIdx} {r : UserConnectionReservation} (active : r.state = .active)
  (s : Server)
include active

theorem dropReservation_currConnects (user : String) :
    (dropReservation shardIdx s r).stats.getUserCurrConnects user =
      s.stats.getUserCurrConnects user - if user = r.user then 1 else 0 := by
  simp only [dropReservation, UserConnectionReservation.markReleased, active, ne_eq,
    not_true_eq_false, if_false]
  exact decrement_currConnects _ r.user user

theorem release_currConnects (clock : Clock) (user : String) :
    (release shardIdx s r clock).stats.getUserCurrConnects user =
      s.stats.getUserCurrConnects user - if user = r.user then 1 else 0 := by
  simp only [release, dropReservation, UserConnectionReservation.markReleased, active, ne_eq,
    not_true_eq_false, if_false, reduceCtorEq, not_false_eq_true, if_true]
  exact decrement_currConnects _ r.user user

end

end Telemt.Reservation
