import Telemt.UserSessions.Model

namespace Telemt.UserSessions
open Foundation

/-! # What a completed disable leaves running -/

variable {υ : Type}

def Session.relays (session : Session υ) : Bool :=
  match session.phase with
  | .relaying _ => true
  | _ => false

namespace System
variable {s t : System υ} {user : υ}

def DisableCompleted (s : System υ) (user : υ) : Prop :=
  user ∈ s.shared.disabledUsers ∧ user ∉ s.cancels

def NoneLeftRelaying (s : System υ) : Prop :=
  ∀ session ∈ s.sessions, session.relays = true → s.DisableCompleted session.user →
    session.cancelled = true

theorem NoneLeftRelaying.of_sessions (none : s.NoneLeftRelaying)
    (sessions : ∀ session ∈ t.sessions, session.relays = true →
      ∃ old ∈ s.sessions, old.user = session.user ∧ old.relays = true ∧
        (old.cancelled = true → session.cancelled = true))
    (users : ∀ user, t.DisableCompleted user → s.DisableCompleted user) : t.NoneLeftRelaying := by
  intro session member relays completed
  obtain ⟨old, present, same, relayed, kept⟩ := sessions session member relays
  exact kept (none old present relayed (same ▸ users session.user completed))

theorem NoneLeftRelaying.of_users (none : s.NoneLeftRelaying) (sessions : t.sessions = s.sessions)
    (users : ∀ user, t.DisableCompleted user → s.DisableCompleted user) : t.NoneLeftRelaying := by
  refine none.of_sessions (fun session member relays => ?_) users
  rw [sessions] at member
  exact ⟨session, member, rfl, relays, id⟩

theorem NoneLeftRelaying.setPhase (none : s.NoneLeftRelaying) (i : Nat) (session : Session υ)
    {phase : SessionPhase} (idle : { session with phase := phase }.relays = false) :
    (s.setPhase i session phase).NoneLeftRelaying := by
  refine none.of_sessions (fun other member relays => ?_) fun _ => id
  rcases List.mem_or_eq_of_mem_set member with old | rfl
  · exact ⟨other, old, rfl, relays, id⟩
  · rw [idle] at relays
    cases relays

variable [DecidableEq υ]

variable {i : Nat} {session : Session υ}

theorem cancelUserSessions_origin
    (present : (s.cancelUserSessions user).sessions[i]? = some session) :
    ∃ old, s.sessions[i]? = some old ∧ session.user = old.user ∧ session.phase = old.phase ∧
      session.cancelled = (old.cancelled || decide (i ∈ s.shared.userTokens user)) := by
  rw [cancelUserSessions, List.getElem?_mapIdx, Option.map_eq_some_iff] at present
  obtain ⟨old, before, rfl⟩ := present
  refine ⟨old, before, ?_⟩
  split_ifs with reached
  · simp [reached]
  · simp [reached]

theorem step_opening {event : Event υ} (moved : s.step event = some t)
    (opening : event = .checkEnabled i ∨ ∃ granted, event = .acquire i granted) :
    ∃ session phase, { session with phase := phase }.relays = false ∧
      t = s.setPhase i session phase := by
  rcases opening with rfl | ⟨granted, rfl⟩
  all_goals
    obtain ⟨session, _, moved⟩ := Option.bind_eq_some_iff.mp moved
    split_ifs at moved <;> cases moved
    all_goals exact ⟨session, _, rfl, rfl⟩

instance (s : System υ) (user : υ) : Decidable (s.DisableCompleted user) :=
  inferInstanceAs (Decidable (_ ∧ _))

instance (s : System υ) : Decidable s.NoneLeftRelaying :=
  inferInstanceAs (Decidable (∀ session ∈ s.sessions, _ → _ → _))

/-- A session registers before the cancellation of a disable of its user, and the last outstanding
cancellation finds every session it has to reach in the table. -/
def Reaches (s : System υ) : Event υ → Prop
  | .register i _ => ∀ session ∈ s.sessions[i]?, ¬s.DisableCompleted session.user
  | .cancel user =>
    user ∈ s.shared.disabledUsers → user ∉ s.cancels.erase user →
      ∀ i < s.sessions.length, ∀ session ∈ s.sessions[i]?, session.user = user →
        session.relays = true → session.cancelled = false → i ∈ s.shared.userTokens user
  | _ => True

instance (s : System υ) : (event : Event υ) → Decidable (s.Reaches event)
  | .register i _ => inferInstanceAs (Decidable (∀ session ∈ s.sessions[i]?, _))
  | .cancel _ =>
    inferInstanceAs (Decidable (_ → _ → ∀ i < s.sessions.length, ∀ session ∈ s.sessions[i]?, _ → _))
  | .authenticate _ | .checkEnabled _ | .acquire .. | .finish _ | .enable _ | .disable _
  | .reload _ | .cancelDeleted _ => inferInstanceAs (Decidable True)

theorem mem_foldl_insert (users : List υ) (kept : Dict υ Unit) :
    user ∈ users.foldl (fun users user => users.insert user ()) kept ↔ user ∈ users ∨ user ∈ kept := by
  induction users generalizing kept with
  | nil => simp
  | cons _ _ ih =>
    rw [List.foldl_cons, ih, AList.mem_insert, List.mem_cons]
    tauto

theorem applyUserEnabledConfig_disabled (shared : ProxySharedState υ) (userEnabled : Dict υ Bool)
    (disabled : user ∈ (shared.applyUserEnabledConfig userEnabled).1.disabledUsers) :
    user ∈ shared.disabledUsers ∨ user ∈ (shared.applyUserEnabledConfig userEnabled).2 := by
  unfold ProxySharedState.applyUserEnabledConfig at disabled ⊢
  dsimp only at disabled ⊢
  by_cases before : user ∈ shared.disabledUsers
  · exact .inl before
  · refine .inr ?_
    rcases (mem_foldl_insert _ _).mp disabled with desired | kept
    · refine List.mem_filter.mpr ⟨desired, ?_⟩
      simp [ProxySharedState.isUserEnabled, before]
    · obtain ⟨found, lookup⟩ := Dict.mem_iff_lookup.mp kept
      rw [Dict.lookup_retain, Option.filter_eq_some_iff] at lookup
      exact absurd (Dict.mem_iff_lookup.mpr ⟨found, lookup.1⟩) before

theorem noneLeftRelaying_register (none : s.NoneLeftRelaying)
    (present : s.sessions[i]? = some session) (sessionId : UInt64) :
    NoneLeftRelaying { s with
        shared := s.shared.registerUserSession session.user sessionId i
        sessions := s.sessions.set i
          { session with phase := .relaying sessionId, cancelled := false } } ↔
      ¬s.DisableCompleted session.user := by
  constructor
  · intro after completed
    have registered : { session with phase := .relaying sessionId, cancelled := false } ∈
        s.sessions.set i { session with phase := .relaying sessionId, cancelled := false } :=
      List.mem_set (List.getElem?_eq_some_iff.mp present).1 _
    exact Bool.false_ne_true (after _ registered rfl completed)
  · intro early other member relays completed
    rcases List.mem_or_eq_of_mem_set member with old | rfl
    · exact none other old relays completed
    · exact absurd completed early

theorem noneLeftRelaying_cancel (none : s.NoneLeftRelaying) (user : υ) :
    NoneLeftRelaying { s.cancelUserSessions user with cancels := s.cancels.erase user } ↔
      s.Reaches (.cancel user) := by
  constructor
  · intro after disabled last i bound session present mine relays running
    subst mine
    by_contra missed
    have kept : session ∈ (s.cancelUserSessions session.user).sessions := by
      refine List.mem_of_getElem? (i := i) ?_
      rw [cancelUserSessions, List.getElem?_mapIdx, present, Option.map_some, if_neg missed]
    have reached := after session kept relays ⟨disabled, last⟩
    rw [running] at reached
    cases reached
  · intro reaches session member relays completed
    obtain ⟨i, present⟩ := List.getElem?_of_mem member
    obtain ⟨old, before, sameUser, samePhase, cancelled⟩ := cancelUserSessions_origin present
    have relayed : old.relays = true := by rwa [Session.relays, ← samePhase]
    obtain ⟨disabled, last⟩ := sameUser ▸ completed
    rw [cancelled]
    by_cases running : old.cancelled = true
    · rw [running, Bool.true_or]
    · by_cases mine : old.user = user
      · subst mine
        have reached := reaches disabled last i (List.getElem?_eq_some_iff.mp before).1 old before rfl
          relayed (Bool.eq_false_iff.mpr running)
        rw [decide_eq_true reached, Bool.or_true]
      · have others : old.user ∉ s.cancels := by
          intro outstanding
          exact last ((List.mem_erase_of_ne mine).mpr outstanding)
        exact absurd (none old (List.mem_of_getElem? before) relayed ⟨disabled, others⟩) running

theorem noneLeftRelaying_step (s : System υ) (event : Event υ) (t : System υ)
    (none : s.NoneLeftRelaying) (moved : s.step event = some t) :
    t.NoneLeftRelaying ↔ s.Reaches event := by
  cases event with
  | authenticate user =>
    cases moved
    refine iff_of_true (none.of_sessions (fun session member relays => ?_) fun _ => id) trivial
    rcases List.mem_append.mp member with old | new
    · exact ⟨session, old, rfl, relays, id⟩
    · cases List.mem_singleton.mp new
      cases relays
  | checkEnabled i | acquire i granted =>
    obtain ⟨session, _, idle, rfl⟩ := step_opening (i := i) moved (by simp)
    exact iff_of_true (none.setPhase i session idle) trivial
  | register i =>
    obtain ⟨session, present, moved⟩ := Option.bind_eq_some_iff.mp moved
    split_ifs at moved
    cases moved
    rw [noneLeftRelaying_register none present, Reaches, present]
    simp
  | finish i =>
    obtain ⟨session, _, moved⟩ := Option.bind_eq_some_iff.mp moved
    split at moved
    · cases moved
      exact iff_of_true (none.setPhase i session rfl) trivial
    · cases moved
  | enable user =>
    cases moved
    refine iff_of_true (none.of_users rfl fun other completed => ?_) trivial
    exact ⟨(AList.mem_erase.mp completed.1).2, completed.2⟩
  | disable user =>
    cases moved
    refine iff_of_true (none.of_users rfl fun other completed => ?_) trivial
    obtain ⟨disabled, done⟩ := completed
    rw [List.mem_cons, not_or] at done
    rcases (AList.mem_insert _).mp disabled with rfl | before
    · exact absurd rfl done.1
    · exact ⟨before, done.2⟩
  | reload userEnabled =>
    cases moved
    refine iff_of_true (none.of_users rfl fun other completed => ?_) trivial
    obtain ⟨disabled, done⟩ := completed
    rw [List.mem_append, not_or] at done
    rcases applyUserEnabledConfig_disabled s.shared userEnabled disabled with before | newly
    · exact ⟨before, done.2⟩
    · exact absurd newly done.1
  | cancel user =>
    unfold step at moved
    dsimp only at moved
    split_ifs at moved
    cases moved
    exact noneLeftRelaying_cancel none user
  | cancelDeleted =>
    cases moved
    refine iff_of_true (none.of_sessions (fun session member relays => ?_) fun _ => id) trivial
    obtain ⟨i, present⟩ := List.getElem?_of_mem member
    obtain ⟨old, before, sameUser, samePhase, cancelled⟩ := cancelUserSessions_origin present
    refine ⟨old, List.mem_of_getElem? before, sameUser.symm, ?_, ?_⟩
    · rwa [Session.relays, ← samePhase]
    · intro stopped
      rw [cancelled, stopped, Bool.true_or]

end System

theorem disable_ends_sessions_iff [DecidableEq υ] (s t : System υ) (events : List (Event υ))
    (settled : s.NoneLeftRelaying) (run : runFrom System.step s events = some t) :
    (∀ first rest u, events = first ++ rest → runFrom System.step s first = some u →
      u.NoneLeftRelaying) ↔ Guarded System.step System.Reaches s events :=
  (guarded_iff_reached System.noneLeftRelaying_step settled run).symm

def disableInTime : List (Event Nat) :=
  [.authenticate 0, .checkEnabled 0, .acquire 0 true, .register 0 11, .authenticate 0,
    .checkEnabled 1, .acquire 1 true, .disable 0, .register 1 12, .cancel 0, .authenticate 0,
    .checkEnabled 2]

theorem disable_in_time_ends_all :
    ∃ t, runFrom System.step ({} : System Nat) disableInTime = some t ∧ t.DisableCompleted 0 ∧
      t.NoneLeftRelaying := by
  have guarded : Guarded System.step System.Reaches ({} : System Nat) disableInTime := by
    decide +kernel
  have completed : ((runFrom System.step ({} : System Nat) disableInTime).map fun t =>
      decide (t.DisableCompleted 0)) = some true := by decide +kernel
  obtain ⟨t, run, done⟩ := Option.map_eq_some_iff.mp completed
  have always := (disable_ends_sessions_iff {} t disableInTime (fun _ => nofun) run).mpr guarded
  exact ⟨t, run, of_decide_eq_true done,
    always disableInTime [] t (List.append_nil _).symm run⟩

-- The session has passed the check and waits for its reservation while its user is disabled.
def disableDuringReservation : List (Event Nat) :=
  [.authenticate 0, .checkEnabled 0, .disable 0, .cancel 0, .acquire 0 true, .register 0 11]

theorem session_outlives_disable :
    ∃ t, runFrom System.step ({} : System Nat) disableDuringReservation = some t ∧
      t.DisableCompleted 0 ∧ t.sessions = [⟨0, .relaying 11, false⟩] ∧ ¬t.NoneLeftRelaying := by
  refine ⟨_, rfl, ?_, rfl, ?_⟩
  · decide +kernel
  · decide +kernel

end Telemt.UserSessions
