import Telemt.Foundation.Dict
import Telemt.Foundation.Run

namespace Telemt.Relay
open Foundation

/-! # Idle sessions that give way under pressure -/

structure RelayIdleCandidateMeta where
  markOrderSeq : Nat
  markPressureSeq : Nat
  deriving DecidableEq, Repr

-- `ordered` lists a set in ascending order; `relayIdleMarkSeq` stands next to the registry.
structure RelayIdleCandidateRegistry where
  byConnId : Dict Nat RelayIdleCandidateMeta := ∅
  ordered : List (Nat × Nat) := []
  pressureEventSeq : Nat := 0
  pressureConsumedSeq : Nat := 0
  relayIdleMarkSeq : Nat := 0

/-- Where a session is between two steps; the comment says which step comes next. -/
inductive IdlePhase
  | resting
  -- load of `pressure_consumed_seq`
  | sawPressure (latest : Nat)
  -- lock section that looks for the oldest candidate
  | sawConsumed (latest consumed : Nat)
  -- lookup of the session's own mark
  | sawOldest (latest consumed : Nat)
  -- compare-exchange of `pressure_consumed_seq`
  | claims (latest consumed : Nat)
  -- removal from `by_conn_id`
  | evicts
  -- lock section that removes the mark
  | forgets (markOrderSeq : Nat)
  -- increment of `relay_idle_mark_seq`
  | marks
  -- load of `pressure_event_seq`
  | ordersMark (markOrderSeq : Nat)
  -- insertion into `by_conn_id`
  | entersMark (candidateMeta : RelayIdleCandidateMeta)
  -- lock section that inserts the mark
  | queuesMark (markOrderSeq : Nat)
  -- lock section that removes the mark
  | clears (markOrderSeq : Nat)
  deriving DecidableEq, Repr

def insertOrdered (entry : Nat × Nat) : List (Nat × Nat) → List (Nat × Nat)
  | [] => [entry]
  | first :: rest =>
    if entry = first then first :: rest
    else if entry.1 < first.1 ∨ entry.1 = first.1 ∧ entry.2 < first.2 then entry :: first :: rest
    else first :: insertOrdered entry rest

/-- The oldest mark that is still valid, and the marks that are left. -/
def oldestCandidate (byConnId : Dict Nat RelayIdleCandidateMeta) :
    List (Nat × Nat) → Option Nat × List (Nat × Nat)
  | [] => (none, [])
  | (markOrderSeq, candidateConnId) :: rest =>
    match byConnId.lookup candidateConnId with
    | none => oldestCandidate byConnId rest
    | some candidateMeta =>
      if candidateMeta.markOrderSeq ≠ markOrderSeq then oldestCandidate byConnId rest
      else (some candidateConnId, (markOrderSeq, candidateConnId) :: rest)

namespace RelayIdleCandidateRegistry

def exchangeConsumed (r : RelayIdleCandidateRegistry) (expected new : Nat) :
    Bool × RelayIdleCandidateRegistry :=
  if r.pressureConsumedSeq = expected then (true, { r with pressureConsumedSeq := new })
  else (false, r)

/-- The next step of a session that is in the middle of a call; the last component says that
`maybe_evict_idle_candidate_on_pressure_in` returns true. -/
def advance (r : RelayIdleCandidateRegistry) (connId : Nat) :
    IdlePhase → RelayIdleCandidateRegistry × IdlePhase × Bool
  | .resting => (r, .resting, false)
  | .sawPressure latest =>
    if latest = r.pressureConsumedSeq then (r, .resting, false)
    else (r, .sawConsumed latest r.pressureConsumedSeq, false)
  | .sawConsumed latest consumed =>
    match oldestCandidate r.byConnId r.ordered with
    | (none, ordered) =>
      (({ r with ordered := ordered }.exchangeConsumed consumed latest).2, .resting, false)
    | (some oldest, ordered) =>
      ({ r with ordered := ordered },
        if oldest ≠ connId then .resting else .sawOldest latest consumed, false)
  | .sawOldest latest consumed =>
    match r.byConnId.lookup connId with
    | none => (r, .resting, false)
    | some candidateMeta =>
      if latest = candidateMeta.markPressureSeq then (r, .resting, false)
      else (r, .claims latest consumed, false)
  | .claims latest consumed =>
    let (claimed, r) := r.exchangeConsumed consumed latest
    (r, if claimed then .evicts else .resting, false)
  | .evicts =>
    match r.byConnId.lookup connId with
    | none => (r, .resting, true)
    | some candidateMeta =>
      ({ r with byConnId := r.byConnId.erase connId }, .forgets candidateMeta.markOrderSeq, false)
  | .forgets markOrderSeq =>
    ({ r with ordered := r.ordered.erase (markOrderSeq, connId) }, .resting, true)
  | .marks =>
    ({ r with relayIdleMarkSeq := (r.relayIdleMarkSeq + 1) % 2 ^ 64 },
      .ordersMark (min (r.relayIdleMarkSeq + 1) (2 ^ 64 - 1)), false)
  | .ordersMark markOrderSeq => (r, .entersMark ⟨markOrderSeq, r.pressureEventSeq⟩, false)
  | .entersMark candidateMeta =>
    match r.byConnId.lookup connId with
    | some _ => (r, .resting, false)
    | none =>
      ({ r with byConnId := r.byConnId.insert connId candidateMeta },
        .queuesMark candidateMeta.markOrderSeq, false)
  | .queuesMark markOrderSeq =>
    ({ r with ordered := insertOrdered (markOrderSeq, connId) r.ordered }, .resting, false)
  | .clears markOrderSeq =>
    ({ r with ordered := r.ordered.erase (markOrderSeq, connId) }, .resting, false)

end RelayIdleCandidateRegistry

inductive IdleAction (ι : Type)
  | notePressureEvent
  | openSession (session : ι)
  | markIdle (session : ι)
  | clearIdle (session : ι)
  | maybeEvict (session : ι)
  | advance (session : ι)

/-- `noted` counts the pressure events and `evicted` the calls that have returned true. -/
structure IdleSessions (ι : Type) where
  registry : RelayIdleCandidateRegistry
  seenPressureSeq : ι → Nat
  phase : ι → IdlePhase
  noted : Nat
  evicted : Nat

namespace IdleSessions
variable {ι : Type}

def start : IdleSessions ι where
  registry := {}
  seenPressureSeq := fun _ => 0
  phase := fun _ => .resting
  noted := 0
  evicted := 0

variable [DecidableEq ι]

def enter (s : IdleSessions ι) (session : ι) (phase : IdlePhase) : IdleSessions ι :=
  { s with phase := Function.update s.phase session phase }

variable (connId : ι → Nat)

/-- The first step of a call is taken by the action that starts it. -/
def step (s : IdleSessions ι) : IdleAction ι → Option (IdleSessions ι)
  | .notePressureEvent =>
    some { s with
      registry := { s.registry with
        pressureEventSeq := (s.registry.pressureEventSeq + 1) % 2 ^ 64 }
      noted := s.noted + 1 }
  | .openSession session =>
    if s.phase session = .resting then
      some { s with
        seenPressureSeq :=
          Function.update s.seenPressureSeq session s.registry.pressureEventSeq }
    else none
  | .markIdle session =>
    if s.phase session = .resting then
      some (if connId session ∈ s.registry.byConnId then s else s.enter session .marks)
    else none
  | .clearIdle session =>
    if s.phase session = .resting then
      match s.registry.byConnId.lookup (connId session) with
      | none => some s
      | some candidateMeta =>
        some ({ s with registry := { s.registry with
            byConnId := s.registry.byConnId.erase (connId session) } }.enter session
          (.clears candidateMeta.markOrderSeq))
    else none
  | .maybeEvict session =>
    if s.phase session = .resting then
      let latest := s.registry.pressureEventSeq
      if latest = s.seenPressureSeq session then some s
      else
        some ({ s with seenPressureSeq := Function.update s.seenPressureSeq session latest }.enter
          session (.sawPressure latest))
    else none
  | .advance session =>
    if s.phase session = .resting then none
    else
      let (registry, phase, evicts) := s.registry.advance (connId session) (s.phase session)
      some ({ s with
        registry := registry
        evicted := if evicts then s.evicted + 1 else s.evicted }.enter session phase)

def Forward (s : IdleSessions ι) (action : IdleAction ι) : Prop :=
  ∀ t ∈ s.step connId action,
    s.registry.pressureConsumedSeq ≤ t.registry.pressureConsumedSeq

instance (s : IdleSessions ι) (action : IdleAction ι) : Decidable (s.Forward connId action) :=
  inferInstanceAs (Decidable (∀ t ∈ s.step connId action, _ ≤ _))

end IdleSessions

namespace IdlePhase

def Sees (noted : Nat) : IdlePhase → Prop
  | .sawPressure latest => latest ≤ noted
  | .sawConsumed latest consumed => latest ≤ noted ∧ latest ≠ consumed
  | .sawOldest latest consumed => latest ≤ noted ∧ latest ≠ consumed
  | .claims latest consumed => latest ≤ noted ∧ latest ≠ consumed
  | _ => True

def owes : IdlePhase → Nat
  | .evicts => 1
  | .forgets _ => 1
  | _ => 0

theorem Sees.mono {noted later : Nat} (more : noted ≤ later) {phase : IdlePhase}
    (sees : phase.Sees noted) : phase.Sees later := by
  cases phase with
  | sawPressure latest => exact sees.trans more
  | sawConsumed latest consumed | sawOldest latest consumed
  | claims => exact ⟨sees.1.trans more, sees.2⟩
  | _ => trivial

end IdlePhase

structure Advanced (noted : Nat) (r : RelayIdleCandidateRegistry) (phase : IdlePhase)
    (next : RelayIdleCandidateRegistry × IdlePhase × Bool) : Prop where
  events : next.1.pressureEventSeq = r.pressureEventSeq
  sees : next.2.1.Sees noted
  spent : next.1.pressureConsumedSeq = r.pressureConsumedSeq ∧
      next.2.1.owes + next.2.2.toNat = phase.owes ∨
    next.1.pressureConsumedSeq ≠ r.pressureConsumedSeq ∧ next.1.pressureConsumedSeq ≤ noted ∧
      phase.owes = 0 ∧ next.2.1.owes ≤ 1 ∧ next.2.2 = false

namespace RelayIdleCandidateRegistry
variable {noted : Nat} {r : RelayIdleCandidateRegistry}

theorem advanced_exchangeConsumed {latest consumed : Nat} {phase : IdlePhase} (free : phase.owes = 0)
    (fresh : latest ≤ noted) (different : latest ≠ consumed) (won lost : IdlePhase)
    (seesWon : won.Sees noted) (seesLost : lost.Sees noted) (owesWon : won.owes ≤ 1)
    (owesLost : lost.owes = 0) :
    Advanced noted r phase ((r.exchangeConsumed consumed latest).2,
      if (r.exchangeConsumed consumed latest).1 then won else lost, false) := by
  unfold exchangeConsumed
  by_cases same : r.pressureConsumedSeq = consumed
  · simp only [if_pos same]
    exact ⟨rfl, seesWon, .inr ⟨same ▸ different, fresh, free, owesWon, rfl⟩⟩
  · simp only [if_neg same]
    exact ⟨rfl, seesLost, .inl ⟨rfl, by rw [free]; exact owesLost⟩⟩

theorem advanced_advance {phase : IdlePhase} (sees : phase.Sees noted) (connId : Nat) :
    Advanced noted r phase (r.advance connId phase) := by
  cases phase with
  | resting | forgets markOrderSeq | marks | ordersMark markOrderSeq | queuesMark markOrderSeq
  | clears => exact ⟨rfl, trivial, .inl ⟨rfl, rfl⟩⟩
  | sawPressure latest =>
    rw [advance]
    by_cases spent : latest = r.pressureConsumedSeq
    · rw [if_pos spent]
      exact ⟨rfl, trivial, .inl ⟨rfl, rfl⟩⟩
    · rw [if_neg spent]
      exact ⟨rfl, ⟨sees, spent⟩, .inl ⟨rfl, rfl⟩⟩
  | sawConsumed latest consumed =>
    rw [advance]
    obtain ⟨oldest, ordered⟩ := oldestCandidate r.byConnId r.ordered
    cases oldest with
    | none =>
      have exchanged := @advanced_exchangeConsumed noted { r with ordered := ordered } latest consumed
        (.sawConsumed latest consumed) rfl sees.1 sees.2 .resting .resting trivial trivial
        (Nat.zero_le 1) rfl
      rw [ite_self] at exchanged
      exact ⟨exchanged.events, exchanged.sees, exchanged.spent⟩
    | some oldest =>
      by_cases own : oldest = connId
      · simp only [own, ne_eq, not_true_eq_false, if_false]
        exact ⟨rfl, sees, .inl ⟨rfl, rfl⟩⟩
      · simp only [ne_eq, own, not_false_eq_true, if_true]
        exact ⟨rfl, trivial, .inl ⟨rfl, rfl⟩⟩
  | sawOldest latest consumed =>
    rw [advance]
    cases r.byConnId.lookup connId with
    | none => exact ⟨rfl, trivial, .inl ⟨rfl, rfl⟩⟩
    | some candidateMeta =>
      dsimp only
      split
      · exact ⟨rfl, trivial, .inl ⟨rfl, rfl⟩⟩
      · exact ⟨rfl, sees, .inl ⟨rfl, rfl⟩⟩
  | claims =>
    exact advanced_exchangeConsumed rfl sees.1 sees.2 .evicts .resting trivial trivial
      (Nat.le_refl 1) rfl
  | evicts | entersMark candidateMeta =>
    rw [advance]
    cases r.byConnId.lookup connId with
    | none | some candidateMeta => exact ⟨rfl, trivial, .inl ⟨rfl, rfl⟩⟩

end RelayIdleCandidateRegistry

namespace IdleSessions
variable {ι : Type}

def Owed (phase : ι → IdlePhase) (owed : Finset ι) : Prop :=
  ∀ session, session ∈ owed ↔ (phase session).owes = 1

structure Budgeted (s : IdleSessions ι) : Prop where
  sees : ∀ session, (s.phase session).Sees s.noted
  events : s.registry.pressureEventSeq ≤ s.noted
  consumed : s.registry.pressureConsumedSeq ≤ s.noted
  spent : ∃ owed, Owed s.phase owed ∧ s.evicted + owed.card ≤ s.registry.pressureConsumedSeq

theorem budgeted_start : (start : IdleSessions ι).Budgeted where
  sees := fun _ => trivial
  events := Nat.le_refl 0
  consumed := Nat.le_refl 0
  spent := ⟨∅, fun session => by simp [start, IdlePhase.owes], Nat.le_refl 0⟩

variable [DecidableEq ι] {connId : ι → Nat} {s t : IdleSessions ι}

theorem owed_update {phase : ι → IdlePhase} {owed : Finset ι} (all : Owed phase owed) (session : ι)
    {next : IdlePhase} (atMost : next.owes ≤ 1) (before : (phase session).owes ≤ 1) :
    ∃ owed', Owed (Function.update phase session next) owed' ∧
      owed'.card + (phase session).owes = owed.card + next.owes := by
  have moved (owed' : Finset ι)
      (mem : ∀ other, other ∈ owed' ↔ if other = session then next.owes = 1 else other ∈ owed) :
      Owed (Function.update phase session next) owed' := by
    intro other
    rw [mem]
    by_cases same : other = session
    · rw [if_pos same, same, Function.update_self]
    · rw [if_neg same, Function.update_of_ne same, all other]
  have free (absent : session ∉ owed) : (phase session).owes = 0 := by
    have not := mt (all session).mpr absent
    omega
  by_cases after : next.owes = 1
  · refine ⟨insert session owed, moved _ fun other => by simp [after, or_iff_not_imp_left], ?_⟩
    by_cases already : session ∈ owed
    · rw [Finset.insert_eq_of_mem already, (all session).mp already, after]
    · rw [Finset.card_insert_of_notMem already, after, free already]
  · refine ⟨owed.erase session, moved _ fun other => by simp [after], ?_⟩
    have none : next.owes = 0 := by omega
    by_cases already : session ∈ owed
    · have some_ := Finset.card_pos.mpr ⟨session, already⟩
      rw [Finset.card_erase_of_mem already, (all session).mp already, none]
      omega
    · rw [Finset.erase_eq_of_notMem already, free already, none]

theorem owes_le_one (phase : IdlePhase) : phase.owes ≤ 1 := by
  unfold IdlePhase.owes
  split <;> omega

theorem sees_update {noted : Nat} {phase : ι → IdlePhase} (sees : ∀ other, (phase other).Sees noted)
    (session : ι) {next : IdlePhase} (seesNext : next.Sees noted) (other : ι) :
    (Function.update phase session next other).Sees noted := by
  by_cases same : other = session
  · subst same
    rw [Function.update_self]
    exact seesNext
  · rw [Function.update_of_ne same]
    exact sees other

theorem Budgeted.enter (budgeted : s.Budgeted) (session : ι) {next : IdlePhase}
    (seesNext : next.Sees s.noted) (free : next.owes = 0) : (s.enter session next).Budgeted where
  sees := sees_update budgeted.sees session seesNext
  events := budgeted.events
  consumed := budgeted.consumed
  spent := by
    obtain ⟨owed, all, _⟩ := budgeted.spent
    obtain ⟨owed', all', card⟩ := @owed_update ι _ s.phase owed all session next (owes_le_one _)
      (owes_le_one _)
    refine ⟨owed', all', ?_⟩
    change s.evicted + owed'.card ≤ s.registry.pressureConsumedSeq
    omega

theorem Budgeted.advance (budgeted : s.Budgeted) (session : ι)
    {next : RelayIdleCandidateRegistry × IdlePhase × Bool}
    (advanced : Advanced s.noted s.registry (s.phase session) next)
    (forward : s.registry.pressureConsumedSeq ≤ next.1.pressureConsumedSeq) :
    ({ s with
      registry := next.1
      evicted := if next.2.2 then s.evicted + 1 else s.evicted }.enter session next.2.1).Budgeted where
  sees := sees_update budgeted.sees session advanced.sees
  events := advanced.events.le.trans budgeted.events
  consumed := by
    rcases advanced.spent with ⟨same, _⟩ | ⟨_, fresh, _⟩
    · exact same.le.trans budgeted.consumed
    · exact fresh
  spent := by
    obtain ⟨owed, all, _⟩ := budgeted.spent
    obtain ⟨owed', all', card⟩ := @owed_update ι _ s.phase owed all session next.2.1 (owes_le_one _)
      (owes_le_one _)
    refine ⟨owed', all', ?_⟩
    change (if next.2.2 then s.evicted + 1 else s.evicted) + owed'.card ≤ next.1.pressureConsumedSeq
    rcases advanced.spent with ⟨same, kept⟩ | ⟨different, _, free, atMost, quiet⟩
    · cases evicts : next.2.2 with
      | false =>
        rw [if_neg Bool.false_ne_true]
        omega
      | true =>
        rw [evicts, Bool.toNat_true] at kept
        rw [if_pos rfl]
        omega
    · rw [quiet, if_neg Bool.false_ne_true]
      omega

theorem Budgeted.step {action : IdleAction ι} (forward : s.Forward connId action)
    (budgeted : s.Budgeted) (stepped : s.step connId action = some t) : t.Budgeted := by
  have ahead := forward t stepped
  cases action with
  | notePressureEvent =>
    cases stepped
    have events := budgeted.events
    have wraps : (s.registry.pressureEventSeq + 1) % 2 ^ 64 ≤ s.registry.pressureEventSeq + 1 :=
      Nat.mod_le _ _
    exact ⟨fun session => (budgeted.sees session).mono (Nat.le_succ _), wraps.trans (Nat.succ_le_succ events),
      budgeted.consumed.trans (Nat.le_succ _), budgeted.spent⟩
  | openSession session =>
    obtain ⟨_, ⟨⟩⟩ := Option.ite_none_right_eq_some.mp stepped
    exact ⟨budgeted.sees, budgeted.events, budgeted.consumed, budgeted.spent⟩
  | markIdle session =>
    obtain ⟨_, same⟩ := Option.ite_none_right_eq_some.mp stepped
    cases same
    split
    · exact budgeted
    · exact budgeted.enter session trivial rfl
  | clearIdle session =>
    obtain ⟨_, same⟩ := Option.ite_none_right_eq_some.mp stepped
    cases found : s.registry.byConnId.lookup (connId session) with
    | none =>
      rw [found] at same
      cases same
      exact budgeted
    | some =>
      rw [found] at same
      cases same
      have erased : Budgeted { s with registry := { s.registry with
          byConnId := s.registry.byConnId.erase (connId session) } } :=
        ⟨budgeted.sees, budgeted.events, budgeted.consumed, budgeted.spent⟩
      exact erased.enter session trivial rfl
  | maybeEvict session =>
    obtain ⟨_, same⟩ := Option.ite_none_right_eq_some.mp stepped
    split at same
    · cases same
      exact budgeted
    · cases same
      have seen : Budgeted { s with
          seenPressureSeq :=
            Function.update s.seenPressureSeq session s.registry.pressureEventSeq } :=
        ⟨budgeted.sees, budgeted.events, budgeted.consumed, budgeted.spent⟩
      exact seen.enter session budgeted.events rfl
  | advance session =>
    obtain ⟨_, same⟩ := Option.ite_none_left_eq_some.mp stepped
    cases same
    exact budgeted.advance session
      (RelayIdleCandidateRegistry.advanced_advance (budgeted.sees session) (connId session)) ahead

end IdleSessions

theorem evictions_within_budget {ι : Type} [DecidableEq ι] (connId : ι → Nat)
    (actions : List (IdleAction ι)) (s : IdleSessions ι)
    (forward : Guarded (IdleSessions.step connId) (IdleSessions.Forward connId) .start actions)
    (run : runFrom (IdleSessions.step connId) .start actions = some s) : s.evicted ≤ s.noted := by
  have budgeted : s.Budgeted :=
    runFrom_invariant IdleSessions.Budgeted (fun _ _ _ forward budgeted stepped =>
      budgeted.step forward stepped) forward IdleSessions.budgeted_start run
  obtain ⟨_, _, _⟩ := budgeted.spent
  have consumed := budgeted.consumed
  omega

def marked (session : Fin 3) : List (IdleAction (Fin 3)) :=
  .markIdle session :: List.replicate 4 (.advance session)

def evictionGoesOn (session : Fin 3) : List (IdleAction (Fin 3)) :=
  List.replicate 6 (.advance session)

theorem one_event_evicts_one_session :
    ∃ s, runFrom (IdleSessions.step fun session : Fin 3 => session.val) .start
        (marked 0 ++ [.notePressureEvent, .maybeEvict 0] ++ evictionGoesOn 0) = some s ∧
      s.evicted = 1 ∧ s.evicted ≤ s.noted := by
  have evicted : (runFrom (IdleSessions.step fun session : Fin 3 => session.val) .start
      (marked 0 ++ [.notePressureEvent, .maybeEvict 0] ++ evictionGoesOn 0)).map
        IdleSessions.evicted = some 1 := by
    decide +kernel
  obtain ⟨s, run, once⟩ := Option.map_eq_some_iff.mp evicted
  refine ⟨s, run, once, ?_⟩
  exact evictions_within_budget (fun session : Fin 3 => session.val) _ s (by decide +kernel) run

/-- Session 1 reads the events before the second one is noted, and sets the spent events back after
session 0 has spent both. Session 2 spends the second one again. -/
theorem two_events_evict_three_sessions :
    (runFrom (IdleSessions.step fun session : Fin 3 => session.val) .start
        (marked 0 ++ marked 1 ++ marked 2 ++ [.notePressureEvent, .maybeEvict 1, .notePressureEvent] ++
          .maybeEvict 0 :: evictionGoesOn 0 ++ evictionGoesOn 1 ++
          .maybeEvict 2 :: evictionGoesOn 2)).map (fun s => (s.evicted, s.noted)) = some (3, 2) := by
  decide +kernel

end Telemt.Relay
