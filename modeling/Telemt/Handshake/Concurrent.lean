import Telemt.Foundation.Run
import Telemt.Handshake.Handle

namespace Telemt.Handshake
open Foundation

/-!
# Connections that present the same digest at the same time

The replay check and the insertion are two visits to the cache with an await between them.
-/

inductive Phase
  | authenticated
  | passed
  | recorded
  | succeeded
  | replayed
  | failed
  deriving DecidableEq, Repr

inductive Move (ι : Type)
  | check (conn : ι) (now : Instant)
  | add (conn : ι) (now : Instant)
  | succeed (conn : ι)
  | fail (conn : ι)
  | cleanup (now : Instant)

structure Crowd (ι : Type) where
  replay : ReplayChecker
  phase : ι → Phase

section
variable {ι : Type} [DecidableEq ι] (hash : ReplayKey → Nat) (key : ReplayKey)

def Crowd.enter (crowd : Crowd ι) (conn : ι) (phase : Phase) : Crowd ι :=
  { crowd with phase := Function.update crowd.phase conn phase }

def crowdStep (crowd : Crowd ι) : Move ι → Option (Crowd ι)
  | .check conn now =>
    if crowd.phase conn = .authenticated then
      let (found, replay) := crowd.replay.checkTlsDigest hash key now
      some ({ crowd with replay := replay }.enter conn (if found then .replayed else .passed))
    else none
  | .add conn now =>
    if crowd.phase conn = .passed then
      some ({ crowd with replay := crowd.replay.addTlsDigest hash key now }.enter conn .recorded)
    else none
  | .succeed conn =>
    if crowd.phase conn = .recorded then some (crowd.enter conn .succeeded) else none
  | .fail conn =>
    if crowd.phase conn = .recorded then some (crowd.enter conn .failed) else none
  | .cleanup now => some { crowd with replay := crowd.replay.runPeriodicCleanup now }

end

variable {ι : Type}

-- Nobody looks the digest up while another connection is between its lookup and its insertion.
def Serialised (crowd : Crowd ι) : Move ι → Prop
  | .check _ _ => ∀ conn, crowd.phase conn ≠ .passed
  | _ => True

def WithinWindow (start : Instant) (window : Duration) : Move ι → Prop
  | .check _ now => start ≤ now ∧ now ≤ start + window
  | .add _ now => start ≤ now ∧ now ≤ start + window
  | .cleanup now => start ≤ now ∧ now ≤ start + window
  | .succeed _ => True
  | .fail _ => True

instance [Fintype ι] (crowd : Crowd ι) (move : Move ι) : Decidable (Serialised crowd move) := by
  unfold Serialised
  split <;> infer_instance

instance (start : Instant) (window : Duration) (move : Move ι) :
    Decidable (WithinWindow start window move) := by
  unfold WithinWindow
  split <;> infer_instance

namespace Phase

def isPastCheck : Phase → Bool
  | .passed => true
  | .recorded => true
  | .succeeded => true
  | .failed => true
  | .authenticated => false
  | .replayed => false

end Phase

section
variable {ι : Type} {hash : ReplayKey → Nat} {key : ReplayKey} {start : Instant}
  {window : Duration}

structure Exclusive (hash : ReplayKey → Nat) (key : ReplayKey) (start : Instant)
    (window : Duration) (crowd : Crowd ι) : Prop where
  window_eq : crowd.replay.tlsWindow = window
  unique : ∀ i j, (crowd.phase i).isPastCheck → (crowd.phase j).isPastCheck → i = j
  forgets : ∀ i, crowd.phase i = .passed → crowd.replay.Forgets hash key
  remembers : ∀ i, (crowd.phase i).isPastCheck → crowd.phase i ≠ .passed →
    ∃ since, start ≤ since ∧ crowd.replay.Remembers hash key since

theorem exclusive_start (replay : ReplayChecker) :
    Exclusive hash key start replay.tlsWindow (⟨replay, fun _ => .authenticated⟩ : Crowd ι) where
  window_eq := rfl
  unique := fun _ _ past => by cases past
  forgets := fun _ passed => by cases passed
  remembers := fun _ past => by cases past

variable {crowd : Crowd ι} {now : Instant}

theorem Exclusive.cleanup (exclusive : Exclusive hash key start window crowd)
    (late : now ≤ start + window) :
    Exclusive hash key start window
      { crowd with replay := crowd.replay.runPeriodicCleanup now } := by
  refine ⟨exclusive.window_eq, exclusive.unique, ?_, ?_⟩
  · intro i passed
    exact (exclusive.forgets i passed).runPeriodicCleanup now
  · intro i past notPassed
    obtain ⟨since, began, remembers⟩ := exclusive.remembers i past notPassed
    refine ⟨since, began, remembers.runPeriodicCleanup ?_⟩
    rw [exclusive.window_eq]
    exact late.trans (Int.add_le_add_right began _)

variable [DecidableEq ι]

variable {next : Crowd ι} {conn : ι}

theorem crowdStep_check (moved : crowdStep hash key crowd (.check conn now) = some next) :
    crowd.phase conn = .authenticated ∧
      next.replay = (crowd.replay.checkTlsDigest hash key now).2 ∧
      next.phase = Function.update crowd.phase conn
        (if (crowd.replay.checkTlsDigest hash key now).1 then .replayed else .passed) := by
  rw [crowdStep] at moved
  split_ifs at moved with ready
  cases moved
  exact ⟨ready, rfl, rfl⟩

section
variable (exclusive : Exclusive hash key start window crowd)
include exclusive

theorem Exclusive.check (serialised : ∀ i, crowd.phase i ≠ .passed) (late : now ≤ start + window)
    (moved : crowdStep hash key crowd (.check conn now) = some next) :
    Exclusive hash key start window next := by
  obtain ⟨_, replay, phase⟩ := crowdStep_check moved
  have fresh {since : Instant} (began : start ≤ since) :
      now ≤ since + crowd.replay.tlsWindow := by
    rw [exclusive.window_eq]
    exact late.trans (Int.add_le_add_right began _)
  cases found : (crowd.replay.checkTlsDigest hash key now).1 with
  | true =>
    have same (i : ι) (past : (next.phase i).isPastCheck) : next.phase i = crowd.phase i := by
      rw [phase, found, if_pos rfl, Function.update_apply] at past ⊢
      split_ifs at past ⊢
      · cases past
      · rfl
    refine ⟨?_, ?_, ?_, ?_⟩
    · rw [replay]
      exact exclusive.window_eq
    · intro i j pastI pastJ
      exact exclusive.unique i j (same i pastI ▸ pastI) (same j pastJ ▸ pastJ)
    · intro i passed
      have past : (next.phase i).isPastCheck := by rw [passed]; rfl
      exact absurd ((same i past).symm.trans passed) (serialised i)
    · intro i past notPassed
      have unmoved := same i past
      rw [unmoved] at past notPassed
      obtain ⟨since, began, remembers⟩ := exclusive.remembers i past notPassed
      exact ⟨since, began, replay ▸ remembers.checkTlsDigest (fresh began) key⟩
  | false =>
    -- A miss means that nobody is past the check: whoever is has left the digest behind.
    have none (i : ι) : (crowd.phase i).isPastCheck = false := by
      apply Bool.eq_false_iff.mpr
      intro past
      obtain ⟨_, began, remembers⟩ := exclusive.remembers i past (serialised i)
      have known := remembers.found (fresh began)
      rw [found] at known
      cases known
    have only (i : ι) (past : (next.phase i).isPastCheck) : i = conn := by
      by_contra other
      rw [phase, Function.update_of_ne other, none i] at past
      cases past
    refine ⟨?_, ?_, ?_, ?_⟩
    · rw [replay]
      exact exclusive.window_eq
    · intro i j pastI pastJ
      exact (only i pastI).trans (only j pastJ).symm
    · intro i _
      rw [replay]
      exact ReplayChecker.checkTlsDigest_forgets found
    · intro i past notPassed
      rw [only i past, phase, found, Function.update_self] at notPassed
      exact absurd rfl notPassed

theorem Exclusive.add (began : start ≤ now)
    (moved : crowdStep hash key crowd (.add conn now) = some next) :
    Exclusive hash key start window next := by
  rw [crowdStep] at moved
  split_ifs at moved with ready
  cases moved
  have past : (crowd.phase conn).isPastCheck := by rw [ready]; rfl
  have only (i : ι) (pastI : (Function.update crowd.phase conn .recorded i).isPastCheck) :
      i = conn := by
    by_contra other
    rw [Function.update_of_ne other] at pastI
    exact other (exclusive.unique i conn pastI past)
  refine ⟨exclusive.window_eq, ?_, ?_, ?_⟩
  · intro i j pastI pastJ
    exact (only i pastI).trans (only j pastJ).symm
  · intro i passed
    change Function.update crowd.phase conn .recorded i = .passed at passed
    have here := only i (by rw [passed]; rfl)
    rw [here, Function.update_self] at passed
    cases passed
  · intro i _ _
    exact ⟨now, began, (exclusive.forgets conn ready).addTlsDigest now⟩

theorem Exclusive.leave (ready : crowd.phase conn = .recorded) {phase : Phase}
    (settled : phase ≠ .passed) : Exclusive hash key start window (crowd.enter conn phase) := by
  have before (i : ι) (pastI : ((crowd.enter conn phase).phase i).isPastCheck) :
      (crowd.phase i).isPastCheck := by
    by_cases here : i = conn
    · rw [here, ready]
      rfl
    · exact (Function.update_of_ne here phase crowd.phase) ▸ pastI
  refine ⟨exclusive.window_eq, ?_, ?_, ?_⟩
  · intro i j pastI pastJ
    exact exclusive.unique i j (before i pastI) (before j pastJ)
  · intro i passed
    change Function.update crowd.phase conn phase i = .passed at passed
    by_cases here : i = conn
    · rw [here, Function.update_self] at passed
      exact absurd passed settled
    · rw [Function.update_of_ne here] at passed
      exact exclusive.forgets i passed
  · intro i pastI notPassed
    change Function.update crowd.phase conn phase i ≠ .passed at notPassed
    by_cases here : i = conn
    · refine exclusive.remembers conn (by rw [ready]; rfl) (by rw [ready]; nofun)
    · rw [Function.update_of_ne here] at notPassed
      exact exclusive.remembers i (before i pastI) notPassed

end

theorem Exclusive.step {move : Move ι} (exclusive : Exclusive hash key start window crowd)
    (allowed : Serialised crowd move ∧ WithinWindow start window move)
    (moved : crowdStep hash key crowd move = some next) :
    Exclusive hash key start window next := by
  obtain ⟨serialised, timely⟩ := allowed
  cases move with
  | check conn now => exact exclusive.check serialised timely.2 moved
  | add conn now => exact exclusive.add timely.1 moved
  | succeed conn | fail conn =>
    rw [crowdStep] at moved
    split_ifs at moved with ready
    cases moved
    exact exclusive.leave ready nofun
  | cleanup =>
    cases moved
    exact exclusive.cleanup timely.2

theorem single_success_when_serialised (replay : ReplayChecker) (labels : List (Move ι))
    (final : Crowd ι)
    (serialised : Guarded (crowdStep hash key) Serialised
      ⟨replay, fun _ => .authenticated⟩ labels)
    (timely : ∀ move ∈ labels, WithinWindow start replay.tlsWindow move)
    (run : runFrom (crowdStep hash key) ⟨replay, fun _ => .authenticated⟩ labels = some final) :
    ∀ i j, final.phase i = .succeeded → final.phase j = .succeeded → i = j := by
  have allowed := serialised.and (guarded_of_mem (fun move member _ => timely move member) _)
  have exclusive : Exclusive hash key start replay.tlsWindow final :=
    runFrom_invariant _ (fun _ _ _ allowed exclusive moved => exclusive.step allowed moved)
      allowed (exclusive_start replay) run
  intro i j succeededI succeededJ
  exact exclusive.unique i j (by rw [succeededI]; rfl) (by rw [succeededJ]; rfl)

end

/-- A handshake that nobody interrupts either ends before the lookup, with the cache untouched, or is
a run of the machine above with one connection. -/
theorem handle_alone (env : Env) (proxy : Proxy) (request : Request) :
    let handled := handleTlsHandshake env proxy request
    (handled.1.replay = proxy.replay ∧ ∀ user, handled.2 ≠ .success user) ∨
      ∃ who labels final, (authenticate env proxy.shared request).2 = some who ∧
        runFrom (crowdStep env.shardHash (who.digest.take tlsDigestHalfLen))
          ⟨proxy.replay, fun _ : Unit => .authenticated⟩ labels = some final ∧
        final.replay = handled.1.replay ∧
        (final.phase () = .succeeded ↔ handled.2 = .success who.user) := by
  unfold handleTlsHandshake
  split
  · rename_i early
    exact .inl ⟨rfl, rejectedEarly_refused early⟩
  split
  · exact .inl ⟨rfl, nofun⟩
  rename_i who authentic
  split
  · exact .inl ⟨rfl, nofun⟩
  rw [authentic]
  dsimp only
  cases checked : proxy.replay.checkTlsDigest env.shardHash (who.digest.take tlsDigestHalfLen)
      request.now with
  | mk found replay =>
    cases found with
    | true =>
      refine .inr ⟨who, [.check () request.now], ⟨replay, Function.const Unit .replayed⟩, rfl, ?_, rfl,
        by simp⟩
      simp [runFrom, crowdStep, checked, Crowd.enter, Function.update_eq_const_of_subsingleton]
    | false =>
      refine .inr ⟨who, [.check () request.now, .add () request.addNow,
        if request.written then .succeed () else .fail ()],
        ⟨replay.addTlsDigest env.shardHash (who.digest.take tlsDigestHalfLen) request.addNow,
          Function.const Unit (if request.written then .succeeded else .failed)⟩, rfl, ?_, ?_, ?_⟩
      · cases request.written <;>
          simp [runFrom, crowdStep, checked, Crowd.enter,
            Function.update_eq_const_of_subsingleton]
      · cases request.written <;> rfl
      · cases request.written <;> simp

def tlsKey : ReplayKey := List.replicate 16 1

def freshReplay : ReplayChecker := .new 65536 (Duration.fromSecs 1800)

def turnByTurn : List (Move (Fin 2)) := [.check 0 5, .add 0 6, .check 1 7, .succeed 0]

theorem turn_by_turn_single_success :
    ∃ final, runFrom (crowdStep List.length tlsKey) ⟨freshReplay, fun _ => .authenticated⟩
        turnByTurn = some final ∧
      final.phase 0 = .succeeded ∧
      ∀ i j, final.phase i = .succeeded → final.phase j = .succeeded → i = j := by
  have serialised : Guarded (crowdStep List.length tlsKey) Serialised
      ⟨freshReplay, fun _ => .authenticated⟩ turnByTurn := by decide +kernel
  have timely : ∀ move ∈ turnByTurn, WithinWindow 0 freshReplay.tlsWindow move := by
    decide +kernel
  have first : (runFrom (crowdStep List.length tlsKey) ⟨freshReplay, fun _ => .authenticated⟩
      turnByTurn).map (fun final => final.phase 0) = some .succeeded := by decide +kernel
  obtain ⟨final, run, succeeded⟩ := Option.map_eq_some_iff.mp first
  exact ⟨final, run, succeeded,
    single_success_when_serialised freshReplay turnByTurn final serialised timely run⟩

theorem interleaved_checks_both_succeed :
    ∃ final, runFrom (crowdStep List.length tlsKey) ⟨freshReplay, fun _ => .authenticated⟩
        ([.check 0 5, .check 1 5, .add 0 6, .add 1 6, .succeed 0, .succeed 1] :
          List (Move (Fin 2))) = some final ∧
      final.phase 0 = .succeeded ∧ final.phase 1 = .succeeded := by
  refine ⟨_, rfl, ?_, ?_⟩
  · decide
  · decide

end Telemt.Handshake
