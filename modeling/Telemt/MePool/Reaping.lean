import Mathlib.Data.Prod.Lex
import Telemt.Foundation.RankedSearch
import Telemt.MePool.Bindings

namespace Telemt.MePool
open Foundation

/-!
# `reap_draining_writers`

The reaper counts the clients of every writer, then reads the list of writers, and then closes the
ones it has selected, one after the other.
-/

def healthDrainCloseBudgetPerCore : Nat := 16

def healthDrainCloseBudgetMin : Nat := 16

def healthDrainCloseBudgetMax : Nat := 256

def healthDrainCloseBudget (cpuCores : Nat) : Nat :=
  max healthDrainCloseBudgetMin
    (min (cpuCores * healthDrainCloseBudgetPerCore) healthDrainCloseBudgetMax)

structure ReapConfig where
  drainThreshold : Nat
  cpuCores : Nat
  createdAt : WriterId → Nat

inductive Ground
  | overThreshold
  | expired
  | empty
  deriving DecidableEq, Repr

def pastDeadline (now : Nat) (writer : MeWriter) : Bool :=
  writer.drainDeadlineEpochSecs ≠ 0 && decide (writer.drainDeadlineEpochSecs ≤ now)

section Select
variable (config : ReapConfig) (now : Nat) (boundClients : Dict WriterId Nat)
  (writers : Dict WriterId MeWriter)

def drainingWriters : List (WriterId × MeWriter) :=
  (writers.entries.filter fun entry => entry.2.draining).map fun entry => (entry.1, entry.2)

def countedEmpty (draining : WriterId × MeWriter) : Bool :=
  (boundClients.lookup draining.1).getD 0 = 0

def heldWriters : List (WriterId × MeWriter) :=
  (drainingWriters writers).filter fun draining => !countedEmpty boundClients draining

def overflow : Nat :=
  let held := (heldWriters boundClients writers).length
  if 0 < config.drainThreshold ∧ config.drainThreshold < held then held - config.drainThreshold
  else 0

def drainOrder (draining : WriterId × MeWriter) : ℕ ×ₗ ℕ ×ₗ ℕ :=
  toLex (draining.2.drainingStartedAtEpochSecs, toLex (config.createdAt draining.1, draining.1))

-- The oldest come first, but only when some of them have to go.
def orderedHeld : List (WriterId × MeWriter) :=
  let held := heldWriters boundClients writers
  if 0 < overflow config boundClients writers then sortByKey (drainOrder config) held else held

def selectClosing : List (WriterId × Ground) :=
  let held := orderedHeld config boundClients writers
  let excess := overflow config boundClients writers
  (held.take excess).map (fun draining => (draining.1, .overThreshold)) ++
    ((held.drop excess).filter fun draining => pastDeadline now draining.2).map
      (fun draining => (draining.1, .expired)) ++
    ((drainingWriters writers).filter (countedEmpty boundClients)).map
      (fun draining => (draining.1, .empty))

/-- The writer drains with clients, and so do at least as many younger ones as the threshold allows. -/
def OverThreshold (id : WriterId) : Prop :=
  0 < config.drainThreshold ∧ ∃ draining ∈ heldWriters boundClients writers, draining.1 = id ∧
    config.drainThreshold ≤ (heldWriters boundClients writers).countP fun other =>
      drainOrder config draining < drainOrder config other

end Select

/-- What the reaper has read when it selects. -/
structure Selection where
  now : Nat
  boundClients : Dict WriterId Nat
  writers : Dict WriterId MeWriter

inductive ReapPhase
  | idle
  | counted (now : Nat) (boundClients : Dict WriterId Nat)
  | closing (read : Selection) (pending : List (WriterId × Ground)) (closed : Finset WriterId)
      (closedTotal : Nat)

structure ReapState where
  pool : WriterPool
  phase : ReapPhase := .idle

inductive ReapEvent
  | readActivity (now : Nat)
  | readWriters
  | closeNext
  | bind (connId : ConnId) (writerId : WriterId) (info : ConnMeta) (now : Nat)
  | unregister (connId : ConnId) (now : Nat)
  | markDraining (writerId : WriterId) (timeoutSecs : Option Nat) (allowDrainFallback : Bool)
      (now : Nat)

namespace ReapState
variable (s : ReapState)

def setRegistry (registry : ConnRegistry) : ReapState :=
  { s with pool := { s.pool with registry := registry } }

def step (config : ReapConfig) (s : ReapState) : ReapEvent → Option ReapState
  | .readActivity now =>
    match s.phase with
    | .idle => some { s with phase := .counted now s.pool.registry.boundClientsByWriter }
    | _ => none
  | .readWriters =>
    match s.phase with
    | .counted now boundClients =>
      some { s with
        phase := .closing ⟨now, boundClients, s.pool.writers⟩
          (selectClosing config now boundClients s.pool.writers) ∅ 0 }
    | _ => none
  | .closeNext =>
    match s.phase with
    | .closing _ [] _ _ => some { s with phase := .idle }
    | .closing read (selected :: rest) closed closedTotal =>
      if healthDrainCloseBudget config.cpuCores ≤ closedTotal then some { s with phase := .idle }
      else if selected.1 ∈ closed then
        some { s with phase := .closing read rest closed closedTotal }
      else
        some
          { pool := s.pool.removeWriterAndCloseClients selected.1
            phase := .closing read rest (insert selected.1 closed) (closedTotal + 1) }
    | _ => none
  | .bind connId writerId info now =>
    some (s.setRegistry (s.pool.registry.bindWriter connId writerId info now).1)
  | .unregister connId now => some (s.setRegistry (s.pool.registry.unregister connId now).1)
  | .markDraining writerId timeoutSecs allowDrainFallback now =>
    some { s with
      pool := s.pool.markWriterDrainingWithTimeout writerId timeoutSecs allowDrainFallback now }

variable (writerId : WriterId)

def Unbound : Prop :=
  ∀ connId, s.pool.registry.writerForConn.lookup connId ≠ some writerId

def PastDeadline (now : Nat) (writerId : WriterId) : Prop :=
  ∃ writer, s.pool.writers.lookup writerId = some writer ∧ pastDeadline now writer = true

def SparesClients (config : ReapConfig) (s : ReapState) (event : ReapEvent) : Prop :=
  ∀ read selected rest closed closedTotal,
    event = .closeNext → s.phase = .closing read (selected :: rest) closed closedTotal →
    closedTotal < healthDrainCloseBudget config.cpuCores → selected.1 ∉ closed →
      OverThreshold config read.boundClients read.writers selected.1 ∨
        s.PastDeadline read.now selected.1 ∨ s.Unbound selected.1

def IsDraining : Prop :=
  ∃ writer, s.pool.writers.lookup writerId = some writer ∧ writer.draining = true

def DisturbedBy : ReapPhase → ReapEvent → Prop
  | .counted _ boundClients, .bind _ writerId _ _ =>
    (boundClients.lookup writerId).getD 0 = 0 ∧ s.IsDraining writerId
  | .counted _ boundClients, .markDraining writerId _ _ _ =>
    (boundClients.lookup writerId).getD 0 = 0 ∧ ¬ s.Unbound writerId
  | .closing _ pending _ _, .bind _ writerId _ _ => (writerId, .empty) ∈ pending
  | .closing _ pending _ _, .markDraining writerId _ _ _ => (writerId, .expired) ∈ pending
  | _, _ => False

instance : Decidable (s.Unbound writerId) :=
  decidable_of_iff (∀ entry ∈ s.pool.registry.writerForConn.entries, entry.2 ≠ writerId)
    ⟨fun elsewhere connId bound => elsewhere ⟨connId, writerId⟩ (AList.mem_lookup_iff.mp bound) rfl,
      fun unbound entry member bound =>
        unbound entry.1 (AList.mem_lookup_iff.mpr (bound ▸ member))⟩

instance : Decidable (s.IsDraining writerId) :=
  decidable_of_iff ((s.pool.writers.lookup writerId).any MeWriter.draining = true) (by
    rw [Option.any_eq_true]
    rfl)

instance (phase : ReapPhase) (event : ReapEvent) : Decidable (s.DisturbedBy phase event) := by
  unfold DisturbedBy
  split <;> infer_instance

/-- While a reap is under way, no connection is bound to a draining writer that it has counted as
empty, no writer that has got its first connection since the count starts draining, and no expired
writer is given a new deadline. -/
def Undisturbed (event : ReapEvent) : Prop := ¬ s.DisturbedBy s.phase event

instance (event : ReapEvent) : Decidable (s.Undisturbed event) :=
  inferInstanceAs (Decidable (¬ s.DisturbedBy s.phase event))

end ReapState

section Selected
variable {config : ReapConfig} {now : Nat} {boundClients : Dict WriterId Nat}
  {writers : Dict WriterId MeWriter} {id : WriterId}

theorem mem_drainingWriters {writer : MeWriter} :
    (id, writer) ∈ drainingWriters writers ↔
      writers.lookup id = some writer ∧ writer.draining = true := by
  unfold drainingWriters
  rw [Dict.mem_pairs, List.mem_filter, ← AList.mem_lookup_iff, Option.mem_def]

theorem orderedHeld_perm :
    (orderedHeld config boundClients writers).Perm (heldWriters boundClients writers) := by
  unfold orderedHeld
  split
  · exact sortByKey_perm _ _
  · exact .refl _

theorem empty_selected (selected : (id, .empty) ∈ selectClosing config now boundClients writers) :
    (boundClients.lookup id).getD 0 = 0 ∧
      ∃ writer, writers.lookup id = some writer ∧ writer.draining = true := by
  simp only [selectClosing, List.mem_append, List.mem_map, Prod.mk.injEq, reduceCtorEq, and_false,
    exists_false, false_or] at selected
  obtain ⟨⟨_, writer⟩, chosen, same, -⟩ := selected
  obtain ⟨member, counted⟩ := List.mem_filter.mp chosen
  cases same
  exact ⟨of_decide_eq_true counted, writer, mem_drainingWriters.mp member⟩

theorem expired_selected (selected : (id, .expired) ∈ selectClosing config now boundClients writers) :
    ∃ writer, writers.lookup id = some writer ∧ pastDeadline now writer = true := by
  simp only [selectClosing, List.mem_append, List.mem_map, Prod.mk.injEq, reduceCtorEq, and_false,
    exists_false, false_or, or_false] at selected
  obtain ⟨⟨_, writer⟩, chosen, same, -⟩ := selected
  obtain ⟨later, expired⟩ := List.mem_filter.mp chosen
  have held := orderedHeld_perm.mem_iff.mp (List.mem_of_mem_drop later)
  have draining := mem_drainingWriters.mp (List.mem_of_mem_filter held)
  cases same
  exact ⟨writer, draining.1, expired⟩

theorem drainingWriters_distinct : ((drainingWriters writers).map Prod.fst).Nodup := by
  unfold drainingWriters
  rw [List.map_map]
  exact (List.Sublist.map _ List.filter_sublist).nodup writers.nodupKeys

theorem orderedHeld_pairwise (excess : 0 < overflow config boundClients writers) :
    (orderedHeld config boundClients writers).Pairwise fun older younger =>
      drainOrder config older < drainOrder config younger := by
  have distinct : ((orderedHeld config boundClients writers).map Prod.fst).Nodup := by
    refine (orderedHeld_perm.map Prod.fst).nodup_iff.mpr ?_
    exact (List.Sublist.map _ List.filter_sublist).nodup drainingWriters_distinct
  have sorted : (orderedHeld config boundClients writers).Pairwise fun older younger =>
      drainOrder config older ≤ drainOrder config younger := by
    unfold orderedHeld
    rw [if_pos excess]
    exact sortByKey_pairwise _ _
  refine (sorted.and (List.pairwise_map.mp distinct)).imp ?_
  rintro older younger ⟨before, apart⟩
  refine before.lt_of_ne fun same => apart ?_
  simp only [drainOrder, toLex_inj, Prod.mk.injEq] at same
  exact same.2.2

theorem over_selected
    (selected : (id, .overThreshold) ∈ selectClosing config now boundClients writers) :
    OverThreshold config boundClients writers id := by
  simp only [selectClosing, List.mem_append, List.mem_map, Prod.mk.injEq, reduceCtorEq, and_false,
    exists_false, or_false] at selected
  obtain ⟨draining, early, same, -⟩ := selected
  have excess : 0 < overflow config boundClients writers :=
    Nat.pos_of_ne_zero fun none => by simp [none] at early
  have cut : 0 < config.drainThreshold ∧ config.drainThreshold =
      (orderedHeld config boundClients writers).length - overflow config boundClients writers := by
    rw [orderedHeld_perm.length_eq]
    unfold overflow at excess ⊢
    dsimp only at excess ⊢
    split_ifs at excess ⊢ <;> omega
  refine ⟨cut.1, draining, orderedHeld_perm.mem_iff.mp (List.mem_of_mem_take early), same, ?_⟩
  have younger := orderedHeld_pairwise excess
  rw [← List.take_append_drop (overflow config boundClients writers)
    (orderedHeld config boundClients writers), List.pairwise_append] at younger
  rw [cut.2, ← List.length_drop, ← orderedHeld_perm.countP_eq]
  refine le_trans (List.countP_eq_length.mpr ?_).ge (List.drop_sublist _ _).countP_le
  intro other later
  exact decide_eq_true (younger.2.2 draining early other later)

theorem selectClosing_distinct :
    ((selectClosing config now boundClients writers).map Prod.fst).Nodup := by
  have together : (orderedHeld config boundClients writers ++
      (drainingWriters writers).filter (countedEmpty boundClients)).Perm (drainingWriters writers) := by
    refine (orderedHeld_perm.append_right _).trans (List.perm_append_comm.trans ?_)
    exact List.filter_append_perm (countedEmpty boundClients) (drainingWriters writers)
  have selected : ((selectClosing config now boundClients writers).map Prod.fst).Sublist
      ((orderedHeld config boundClients writers ++
        (drainingWriters writers).filter (countedEmpty boundClients)).map Prod.fst) := by
    simp only [selectClosing, List.map_append, List.map_map, Function.comp_def]
    refine List.Sublist.append_right ?_ _
    rw [← List.map_append]
    apply List.Sublist.map
    conv_rhs => rw [← List.take_append_drop (overflow config boundClients writers)
      (orderedHeld config boundClients writers)]
    exact List.Sublist.append_left List.filter_sublist _
  exact selected.nodup ((together.map Prod.fst).nodup_iff.mpr drainingWriters_distinct)

end Selected

namespace ReapState

section Effects
variable {s : ReapState} {id : WriterId}

theorem unbound_of_view {t : ReapState} (unbound : s.Unbound id)
    (writers : ∀ connId, t.pool.registry.view.writer connId = some id →
      s.pool.registry.view.writer connId = some id) : t.Unbound id :=
  fun connId bound => unbound connId (writers connId bound)

theorem Unbound.bind (unbound : s.Unbound id) {writerId : WriterId} (different : id ≠ writerId)
    (connId : ConnId) (info : ConnMeta) (now : Nat) :
    (s.setRegistry (s.pool.registry.bindWriter connId writerId info now).1).Unbound id := by
  apply unbound_of_view unbound
  intro other bound
  dsimp only [setRegistry] at bound
  rw [ConnRegistry.view_bindWriter] at bound
  split at bound
  · rw [BindingView.writer_bind, Function.update_apply] at bound
    split at bound
    · exact absurd (Option.some.inj bound).symm different
    · exact bound
  · exact bound

theorem Unbound.unregister (unbound : s.Unbound id) (connId : ConnId) (now : Nat) :
    (s.setRegistry (s.pool.registry.unregister connId now).1).Unbound id := by
  apply unbound_of_view unbound
  intro other bound
  dsimp only [setRegistry] at bound
  rw [ConnRegistry.view_unregister, BindingView.writer_unbind, Function.update_apply] at bound
  split at bound
  · cases bound
  · exact bound

theorem registry_removed (p : WriterPool) (writerId : WriterId) :
    (p.removeWriterAndCloseClients writerId).registry = (p.registry.writerLost writerId).1 := by
  rw [WriterPool.removeWriterAndCloseClients_eq]
  rfl

theorem registry_marked (p : WriterPool) (writerId : WriterId) (timeoutSecs : Option Nat)
    (allowDrainFallback : Bool) (now : Nat) :
    (p.markWriterDrainingWithTimeout writerId timeoutSecs allowDrainFallback now).registry =
      p.registry := by
  unfold WriterPool.markWriterDrainingWithTimeout
  split
  · rfl
  · rfl

theorem Unbound.removed (unbound : s.Unbound id) (writerId : WriterId) (phase : ReapPhase) :
    (ReapState.mk (s.pool.removeWriterAndCloseClients writerId) phase).Unbound id := by
  apply unbound_of_view unbound
  intro other bound
  rw [registry_removed, ConnRegistry.view_writerLost] at bound
  dsimp only [BindingView.lose] at bound
  split at bound
  · cases bound
  · exact bound

end Effects

def PhaseKept (config : ReapConfig) (s : ReapState) : ReapPhase → Prop
  | .idle => True
  | .counted _ boundClients =>
    ∀ id, (boundClients.lookup id).getD 0 = 0 → s.IsDraining id → s.Unbound id
  | .closing read pending _ _ =>
    (pending.map Prod.fst).Nodup ∧
      (∀ id, (id, .overThreshold) ∈ pending →
        OverThreshold config read.boundClients read.writers id) ∧
      (∀ id, (id, .empty) ∈ pending → s.Unbound id) ∧
      ∀ id, (id, .expired) ∈ pending → s.PastDeadline read.now id

structure Kept (config : ReapConfig) (s : ReapState) : Prop where
  registry : s.pool.registry.Exact
  phase : s.PhaseKept config s.phase

section Steps
variable {config : ReapConfig} {s t : ReapState}

theorem Kept.readActivity (kept : s.Kept config) (now : Nat) :
    ({ s with phase := .counted now s.pool.registry.boundClientsByWriter } : ReapState).Kept config := by
  refine ⟨kept.registry, ?_⟩
  intro id zero _
  exact (BindingView.Exact.unbound_iff kept.registry).mp zero

variable {now : Nat}

theorem Kept.readWriters (kept : s.Kept config) {boundClients : Dict WriterId Nat}
    (at_ : s.phase = .counted now boundClients) :
    ({ s with
      phase := .closing ⟨now, boundClients, s.pool.writers⟩
        (selectClosing config now boundClients s.pool.writers) ∅ 0 } : ReapState).Kept config := by
  have phase := kept.phase
  rw [at_] at phase
  refine ⟨kept.registry, selectClosing_distinct, fun id selected => over_selected selected, ?_, ?_⟩
  · intro id selected
    obtain ⟨zero, draining⟩ := empty_selected selected
    exact phase id zero draining
  · intro id selected
    exact expired_selected selected

section
variable (kept : s.Kept config) {selected : WriterId × Ground} {rest : List (WriterId × Ground)}
  {read : Selection} {closed : Finset WriterId} {closedTotal : Nat}
  (at_ : s.phase = .closing read (selected :: rest) closed closedTotal)
include kept at_

theorem Kept.closeNext (closed' : Finset WriterId) (closedTotal' : Nat) :
    (ReapState.mk (s.pool.removeWriterAndCloseClients selected.1)
      (.closing read rest closed' closedTotal')).Kept config := by
  have phase := kept.phase
  rw [at_] at phase
  obtain ⟨distinct, older, empty, expired⟩ := phase
  rw [List.map_cons, List.nodup_cons] at distinct
  refine ⟨?_, distinct.2, fun id later => older id (List.mem_cons_of_mem _ later), ?_, ?_⟩
  · rw [registry_removed]
    exact kept.registry.writerLost selected.1
  · intro id later
    exact (empty id (List.mem_cons_of_mem _ later)).removed selected.1 _
  · intro id later
    obtain ⟨writer, found, past⟩ := expired id (List.mem_cons_of_mem _ later)
    have different : id ≠ selected.1 := by
      rintro rfl
      exact distinct.1 (List.mem_map.mpr ⟨_, later, rfl⟩)
    refine ⟨writer, ?_, past⟩
    rw [WriterPool.lookup_removeWriterAndCloseClients, if_neg different]
    exact found

theorem Kept.skip :
    ({ s with phase := .closing read rest closed closedTotal } : ReapState).Kept config := by
  have phase := kept.phase
  rw [at_] at phase
  obtain ⟨distinct, older, empty, expired⟩ := phase
  rw [List.map_cons, List.nodup_cons] at distinct
  exact ⟨kept.registry, distinct.2, fun id later => older id (List.mem_cons_of_mem _ later),
    fun id later => empty id (List.mem_cons_of_mem _ later),
    fun id later => expired id (List.mem_cons_of_mem _ later)⟩

end

section
variable (kept : s.Kept config)
include kept

theorem Kept.bind {connId : ConnId} {writerId : WriterId} {info : ConnMeta}
    (undisturbed : s.Undisturbed (.bind connId writerId info now)) :
    (s.setRegistry (s.pool.registry.bindWriter connId writerId info now).1).Kept config := by
  refine ⟨kept.registry.bindWriter connId writerId info now, ?_⟩
  have phase := kept.phase
  unfold Undisturbed at undisturbed
  show PhaseKept config _ s.phase
  cases at_ : s.phase with
  | idle => trivial
  | counted =>
    rw [at_] at phase undisturbed
    intro id zero draining
    have different : id ≠ writerId := by
      rintro rfl
      exact undisturbed ⟨zero, draining⟩
    exact (phase id zero draining).bind different connId info now
  | closing =>
    rw [at_] at phase undisturbed
    obtain ⟨distinct, older, empty, expired⟩ := phase
    refine ⟨distinct, older, ?_, expired⟩
    intro id selected
    have different : id ≠ writerId := by
      rintro rfl
      exact undisturbed selected
    exact (empty id selected).bind different connId info now

theorem Kept.unregister (connId : ConnId) (now : Nat) :
    (s.setRegistry (s.pool.registry.unregister connId now).1).Kept config := by
  refine ⟨kept.registry.unregister connId now, ?_⟩
  have phase := kept.phase
  show PhaseKept config _ s.phase
  cases at_ : s.phase with
  | idle => trivial
  | counted =>
    rw [at_] at phase
    exact fun id zero draining => (phase id zero draining).unregister connId now
  | closing =>
    rw [at_] at phase
    obtain ⟨distinct, older, empty, expired⟩ := phase
    exact ⟨distinct, older, fun id selected => (empty id selected).unregister connId now, expired⟩

theorem Kept.markDraining {writerId : WriterId} {timeoutSecs : Option Nat}
    {allowDrainFallback : Bool}
    (undisturbed : s.Undisturbed (.markDraining writerId timeoutSecs allowDrainFallback now)) :
    ({ s with
      pool := s.pool.markWriterDrainingWithTimeout writerId timeoutSecs allowDrainFallback now } :
        ReapState).Kept config := by
  have registry := registry_marked s.pool writerId timeoutSecs allowDrainFallback now
  have writers := fun id => WriterPool.lookup_markWriterDrainingWithTimeout s.pool writerId id
    timeoutSecs allowDrainFallback now
  generalize s.pool.markWriterDrainingWithTimeout writerId timeoutSecs allowDrainFallback now = p
    at registry writers ⊢
  have still (id : WriterId) (unbound : s.Unbound id) : ReapState.Unbound ⟨p, s.phase⟩ id := by
    intro connId
    rw [show (ReapState.mk p s.phase).pool.registry = s.pool.registry from registry]
    exact unbound connId
  refine ⟨?_, ?_⟩
  · rw [registry]
    exact kept.registry
  · have phase := kept.phase
    unfold Undisturbed at undisturbed
    cases at_ : s.phase with
    | idle => trivial
    | counted =>
      rw [at_] at phase undisturbed still
      rintro id zero ⟨writer, found, draining⟩
      apply still
      rw [show p.writers.lookup id = _ from writers id] at found
      by_cases same : id = writerId
      · subst same
        by_contra bound
        exact undisturbed ⟨zero, bound⟩
      · rw [if_neg same] at found
        exact phase id zero ⟨writer, found, draining⟩
    | closing =>
      rw [at_] at phase undisturbed still
      obtain ⟨distinct, older, empty, expired⟩ := phase
      refine ⟨distinct, older, fun id selected => still id (empty id selected), ?_⟩
      intro id selected
      obtain ⟨writer, found, past⟩ := expired id selected
      have different : id ≠ writerId := by
        rintro rfl
        exact undisturbed selected
      refine ⟨writer, ?_, past⟩
      rw [writers, if_neg different]
      exact found

theorem Kept.step {event : ReapEvent} (undisturbed : s.Undisturbed event)
    (moved : ReapState.step config s event = some t) : t.Kept config := by
  cases event with
  | readActivity now =>
    simp only [ReapState.step] at moved
    split at moved
    · cases moved
      exact kept.readActivity now
    · cases moved
  | readWriters =>
    simp only [ReapState.step] at moved
    split at moved
    · rename_i at_
      cases moved
      exact kept.readWriters at_
    · cases moved
  | closeNext =>
    simp only [ReapState.step] at moved
    split at moved
    · cases moved
      exact ⟨kept.registry, trivial⟩
    · rename_i at_
      split_ifs at moved
      · cases moved
        exact ⟨kept.registry, trivial⟩
      · cases moved
        exact kept.skip at_
      · cases moved
        exact kept.closeNext at_ _ _
    · cases moved
  | bind connId _ _ now =>
    cases moved
    exact kept.bind undisturbed
  | unregister connId now =>
    cases moved
    exact kept.unregister connId now
  | markDraining =>
    cases moved
    exact kept.markDraining undisturbed

theorem Kept.sparesClients (event : ReapEvent) : s.SparesClients config event := by
  intro read selected rest closed closedTotal _ at_ _ _
  have phase := kept.phase
  rw [at_] at phase
  obtain ⟨-, older, empty, expired⟩ := phase
  obtain ⟨id, ground⟩ := selected
  cases ground with
  | overThreshold => exact .inl (older id List.mem_cons_self)
  | expired => exact .inr (.inl (expired id List.mem_cons_self))
  | empty => exact .inr (.inr (empty id List.mem_cons_self))

end

end Steps

end ReapState

open ReapState

theorem undisturbed_reap_spares_clients (config : ReapConfig) (s : ReapState)
    (events : List ReapEvent) (fresh : s.phase = .idle) (exact_ : s.pool.registry.Exact)
    (undisturbed : Guarded (step config) Undisturbed s events) :
    Guarded (step config) (SparesClients config) s events := by
  have kept : s.Kept config := ⟨exact_, by rw [fresh]; trivial⟩
  clear fresh exact_
  induction events generalizing s with
  | nil => trivial
  | cons event _ ih =>
    refine ⟨kept.sparesClients event, ?_⟩
    intro t moved
    exact ih t (undisturbed.2 t moved) (kept.step undisturbed.1 moved)

/-! One writer, which has no connection yet. -/

def reapConfig : ReapConfig where
  drainThreshold := 0
  cpuCores := 1
  createdAt := id

def oneWriter : ReapState where
  pool :=
    { writers := (∅ : Dict WriterId MeWriter).insert 1 sharedWriter
      registry := (({} : ConnRegistry).register 7).registerWriter 1 0 }

theorem oneWriter_exact : oneWriter.pool.registry.Exact :=
  (ConnRegistry.exact_empty.register 7).registerWriter 1 0

theorem idle_writer_reaped :
    Guarded (step reapConfig) (SparesClients reapConfig) oneWriter
      [.markDraining 1 (some 300) false 100, .readActivity 101, .readWriters, .closeNext] :=
  undisturbed_reap_spares_clients reapConfig oneWriter _ rfl oneWriter_exact (by decide +kernel)

-- The connection is bound while the writer is not draining, and its deadline is 300 seconds away.
theorem fresh_client_cut :
    ∃ t u, runFrom (step reapConfig) oneWriter
        [.readActivity 100, .bind 7 1 ((requestOf 7).metaFor sharedWriter) 100,
          .markDraining 1 (some 300) false 100, .readWriters] = some t ∧
      step reapConfig t .closeNext = some u ∧
      (t.pool.writers.lookup 1).map MeWriter.drainDeadlineEpochSecs = some 400 ∧
      t.pool.registry.bindingOf 7 = (some 1, some ⟨1, (requestOf 7).metaFor sharedWriter⟩) ∧
      u.pool.writers.lookup 1 = none ∧ u.pool.registry.bindingOf 7 = (none, none) := by
  refine ⟨_, _, rfl, rfl, ?_⟩
  decide +kernel

end Telemt.MePool
