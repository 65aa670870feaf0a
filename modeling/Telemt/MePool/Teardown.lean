import Telemt.MePool.Send

namespace Telemt.MePool
open Foundation

/-! # What a send does to the writers of others -/

namespace ConnRegistry

def bindingOf (r : ConnRegistry) (connId : ConnId) : Option WriterId × Option HotConnBinding :=
  (r.writerForConn.lookup connId, r.hotBinding.lookup connId)

section Bindings
variable (r : ConnRegistry) (connId other : ConnId) (writerId : WriterId)

@[simp] theorem bindingOf_addActiveTargetDc (targetDc : Int) :
    (r.addActiveTargetDc targetDc).bindingOf other = r.bindingOf other := by
  unfold addActiveTargetDc
  split <;> rfl

@[simp] theorem bindingOf_dropActiveTargetDc (targetDc : Int) :
    (r.dropActiveTargetDc targetDc).bindingOf other = r.bindingOf other := by
  unfold dropActiveTargetDc
  split
  · rfl
  · split <;> rfl

@[simp] theorem bindingOf_dropMeta : (r.dropMeta connId).bindingOf other = r.bindingOf other := by
  unfold dropMeta
  split
  · rfl
  · exact bindingOf_dropActiveTargetDc _ _ _

@[simp] theorem bindingOf_detach (now : Nat) :
    (r.detach connId writerId now).bindingOf other = r.bindingOf other := by
  unfold detach
  split <;> rfl

end Bindings

section Others
variable {r : ConnRegistry} {connId other : ConnId} {writerId : WriterId}

section
variable (different : other ≠ connId)
include different

variable (info : ConnMeta)

theorem bindingOf_attach (now : Nat) :
    (r.attach connId writerId info now).bindingOf other = r.bindingOf other := by
  simp [attach, bindingOf, setWriterBoundCount, AList.lookup_insert_ne different]

theorem bindingOf_insertWriter :
    ({ r with writerForConn := r.writerForConn.insert connId writerId } : ConnRegistry).bindingOf
      other = r.bindingOf other := by
  simp [bindingOf, AList.lookup_insert_ne different]

theorem bindingOf_eraseWriter :
    ({ r with writerForConn := r.writerForConn.erase connId } : ConnRegistry).bindingOf other =
      r.bindingOf other := by
  simp [bindingOf, AList.lookup_erase_ne different]

theorem bindingOf_eraseHot :
    ({ r with hotBinding := r.hotBinding.erase connId } : ConnRegistry).bindingOf other =
      r.bindingOf other := by
  simp [bindingOf, AList.lookup_erase_ne different]

theorem bindingOf_commitBinding (now : Nat) :
    (r.commitBinding connId writerId info now).bindingOf other = r.bindingOf other := by
  unfold commitBinding
  rw [bindingOf_attach different, bindingOf_addActiveTargetDc]
  change (dropMeta _ connId).bindingOf other = _
  rw [bindingOf_dropMeta]
  split
  · exact bindingOf_insertWriter different
  · split_ifs
    · exact bindingOf_insertWriter different
    · rw [bindingOf_detach, bindingOf_insertWriter different]

theorem bindingOf_bindWriter (now : Nat) :
    (r.bindWriter connId writerId info now).1.bindingOf other = r.bindingOf other := by
  unfold bindWriter
  split
  · rfl
  · split
    · rfl
    · exact bindingOf_commitBinding different info now

end

theorem bindWriter_accepts_iff (info : ConnMeta) (now : Nat) :
    (r.bindWriter connId writerId info now).2 = true ↔ connId ∈ r.routing ∧ writerId ∈ r.writers := by
  unfold bindWriter
  split_ifs <;> simp_all

theorem bindWriter_of_refused (refused : ¬ (connId ∈ r.routing ∧ writerId ∈ r.writers))
    (info : ConnMeta) (now : Nat) : r.bindWriter connId writerId info now = (r, false) := by
  unfold bindWriter
  by_cases routed : connId ∈ r.routing
  · have absent : writerId ∉ r.writers := fun present => refused ⟨routed, present⟩
    rw [if_neg (not_not_intro routed), if_pos absent]
  · rw [if_pos routed]

section
variable (elsewhere : r.writerForConn.lookup other ≠ some writerId)
include elsewhere

theorem bindingOf_loseConn (connId : ConnId) :
    (loseConn writerId r connId).bindingOf other = r.bindingOf other := by
  unfold loseConn
  by_cases bound : r.writerForConn.lookup connId = some writerId
  · have different : other ≠ connId := by
      rintro rfl
      exact elsewhere bound
    rw [if_neg (not_not_intro bound)]
    dsimp only
    split_ifs
    · rw [bindingOf_eraseHot different, bindingOf_dropMeta, bindingOf_eraseWriter different]
    · rw [bindingOf_dropMeta, bindingOf_eraseWriter different]
  · rw [if_pos bound]

theorem bindingOf_loseConns (conns : List ConnId) :
    (conns.foldl (loseConn writerId) r).bindingOf other = r.bindingOf other := by
  induction conns generalizing r with
  | nil => rfl
  | cons connId _ ih =>
    have kept := bindingOf_loseConn elsewhere connId
    have same : (loseConn writerId r connId).writerForConn.lookup other =
        r.writerForConn.lookup other :=
      congrArg Prod.fst kept
    rw [List.foldl_cons, ih (same ▸ elsewhere), kept]

theorem bindingOf_writerLost : (r.writerLost writerId).1.bindingOf other = r.bindingOf other :=
  bindingOf_loseConns (r := { r with
    writers := r.writers.erase writerId
    lastMetaForWriter := r.lastMetaForWriter.erase writerId
    writerIdleSinceEpochSecs := r.writerIdleSinceEpochSecs.erase writerId
    boundClientsByWriter := r.boundClientsByWriter.erase writerId
    connsForWriter := r.connsForWriter.erase writerId }) elsewhere _

end

theorem writerForConn_dropMeta : (r.dropMeta connId).writerForConn = r.writerForConn := by
  unfold dropMeta
  split
  · rfl
  · unfold dropActiveTargetDc
    dsimp only
    split
    · rfl
    · split <;> rfl

-- A lost writer only takes bindings away.
theorem each_writerLost {kept : ConnId → WriterId → Prop} (each : Dict.Each kept r.writerForConn) :
    Dict.Each kept (r.writerLost writerId).1.writerForConn := by
  refine List.foldlRecOn (motive := fun r : ConnRegistry => Dict.Each kept r.writerForConn) _ _ each ?_
  intro r each connId _
  unfold loseConn
  dsimp only
  split_ifs
  · exact each
  all_goals
    change Dict.Each kept (dropMeta _ connId).writerForConn
    rw [writerForConn_dropMeta]
    exact each.erase connId

end Others

end ConnRegistry

structure Harmless (connId : ConnId) (closed : Finset WriterId) (p q : WriterPool) : Prop where
  writers : ∀ id ∈ p.writers, id ∉ q.writers → id ∈ closed
  bindings : ∀ other, other ≠ connId → q.registry.bindingOf other ≠ p.registry.bindingOf other →
    ∃ id ∈ closed, p.registry.writerForConn.lookup other = some id

theorem Harmless.refl (connId : ConnId) (closed : Finset WriterId) (p : WriterPool) :
    Harmless connId closed p p :=
  ⟨fun _ present absent => absurd present absent, fun _ _ changed => absurd rfl changed⟩

/-- The writer is neither in the pool nor bound to a connection other than `connId`. -/
def Gone (connId : ConnId) (p : WriterPool) (id : WriterId) : Prop :=
  id ∉ p.writers ∧ p.registry.writerForConn.Each fun other bound => other ≠ connId → bound ≠ id

def Removable (connId : ConnId) (closed : Finset WriterId) (p : WriterPool) (id : WriterId) : Prop :=
  id ∈ closed ∨ Gone connId p id

instance (connId : ConnId) (closed : Finset WriterId) (p : WriterPool) (id : WriterId) :
    Decidable (Removable connId closed p id) :=
  inferInstanceAs (Decidable (_ ∨ _ ∧ _))

section
variable {connId : ConnId} {closed : Finset WriterId} {p : WriterPool} {id : WriterId}

theorem harmless_dropWriter (removable : Removable connId closed p id) :
    Harmless connId closed p (p.dropWriter id) := by
  refine ⟨?_, fun _ _ changed => absurd rfl changed⟩
  intro other present absent
  have same : other = id := by
    by_contra different
    exact absent (AList.mem_erase.mpr ⟨different, present⟩)
  subst same
  exact removable.resolve_right fun gone => gone.1 present

theorem harmless_loseWriter (removable : Removable connId closed p id) :
    Harmless connId closed p (p.loseWriter id) := by
  refine ⟨fun _ present absent => absurd present absent, ?_⟩
  intro other different changed
  have bound : p.registry.writerForConn.lookup other = some id := by
    by_contra elsewhere
    exact changed (ConnRegistry.bindingOf_writerLost elsewhere)
  exact ⟨id, removable.resolve_right fun gone => gone.2.lookup bound different rfl, bound⟩

namespace Removable
variable (removable : Removable connId closed p id)
include removable

theorem dropWriter (other : WriterId) : Removable connId closed (p.dropWriter other) id :=
  removable.imp_right fun gone => ⟨fun present => gone.1 (AList.mem_erase.mp present).2, gone.2⟩

theorem loseWriter (other : WriterId) : Removable connId closed (p.loseWriter other) id :=
  removable.imp_right fun gone => ⟨gone.1, ConnRegistry.each_writerLost gone.2⟩

theorem bindWriter (other : WriterId) (info : ConnMeta) (now : Nat) :
    Removable connId closed
      { p with registry := (p.registry.bindWriter connId other info now).1 } id := by
  refine removable.imp_right fun gone => ⟨gone.1, ?_⟩
  intro entry member different
  have kept : (p.registry.bindWriter connId other info now).1.bindingOf entry.1 = _ :=
    ConnRegistry.bindingOf_bindWriter different info now
  exact gone.2.lookup ((congrArg Prod.fst kept).symm.trans (AList.mem_lookup_iff.mpr member)) different

end Removable

end

theorem harmless_bindWriter (connId : ConnId) (closed : Finset WriterId) (p : WriterPool)
    (id : WriterId) (info : ConnMeta) (now : Nat) :
    Harmless connId closed p
      { p with registry := (p.registry.bindWriter connId id info now).1 } :=
  ⟨fun _ present absent => absurd present absent, fun _ different changed =>
    absurd (ConnRegistry.bindingOf_bindWriter different info now) changed⟩

-- The writers that the send path has decided to remove.
def SendPhase.condemned : SendPhase → List WriterId
  | .binding _ next => next.condemned
  | .dropping id next => id :: next.condemned
  | .losing id next => id :: next.condemned
  | _ => []

namespace SendState
variable {request : SendRequest} {s t : SendState} {event : SendEvent}

def CondemnedRemovable (request : SendRequest) (s : SendState) : Prop :=
  ∀ id ∈ s.phase.condemned, Removable request.connId s.closed s.pool id

instance (request : SendRequest) (s : SendState) : Decidable (s.CondemnedRemovable request) :=
  inferInstanceAs (Decidable (∀ id ∈ s.phase.condemned, _))

def KnownBinding (request : SendRequest) (s : SendState) : SendPhase → Prop
  | .binding candidate _ =>
    (request.connId ∈ s.pool.registry.routing ∧ candidate.1 ∈ s.pool.registry.writers) ∨
      Removable request.connId s.closed s.pool candidate.1
  | _ => True

-- A writer that is gone when its removal is decided stays gone until it is carried out.
def BindsKnown (request : SendRequest) (s : SendState) : SendEvent → Prop
  | .bind _ => s.KnownBinding request s.phase
  | .environment pool closed =>
    ({ s with pool := pool, closed := closed } : SendState).CondemnedRemovable request
  | _ => True

instance (request : SendRequest) (s : SendState) (phase : SendPhase) :
    Decidable (s.KnownBinding request phase) := by
  unfold KnownBinding
  split <;> infer_instance

instance (request : SendRequest) (s : SendState) (event : SendEvent) :
    Decidable (s.BindsKnown request event) := by
  unfold BindsKnown
  split <;> infer_instance

def StepHarmless (request : SendRequest) (s : SendState) (event : SendEvent) : Prop :=
  ∀ t, step request s event = some t →
    (∃ pool closed, event = .environment pool closed) ∨
      Harmless request.connId s.closed s.pool t.pool

/-- What a step can do: only the writers of closed channels are newly condemned, but for a refused
binding. -/
inductive StepCase (request : SendRequest) (s : SendState) : SendEvent → SendState → Prop
  | environment (pool : WriterPool) (closed : Finset WriterId) :
    StepCase request s (.environment pool closed) { s with pool := pool, closed := closed }
  | moves (event : SendEvent) (phase : SendPhase) (gone : ∀ id ∈ phase.condemned, id ∈ s.closed) :
    StepCase request s event (s.goto phase)
  | bind (candidate : Candidate) (next : SendPhase) (now : Nat) (here : s.phase = .binding candidate next) :
    StepCase request s (.bind now) (s.onBind request candidate next now)
  | drop (id : WriterId) (next : SendPhase) (here : s.phase = .dropping id next) :
    StepCase request s .dropWriter { s with pool := s.pool.dropWriter id, phase := .losing id next }
  | lose (id : WriterId) (next : SendPhase) (here : s.phase = .losing id next) :
    StepCase request s .loseWriter { s with pool := s.pool.loseWriter id, phase := next }

variable {candidate : Candidate}

theorem step_cases (moved : step request s event = some t) : StepCase request s event t := by
  unfold step at moved
  cases event with
  | environment pool closed =>
    dsimp only at moved
    split_ifs at moved
    cases moved
    exact .environment pool closed
  | trySend slot =>
    dsimp only at moved
    split at moved
    · split at moved
      · cases moved
        exact .moves _ _ nofun
      · split_ifs at moved with answers
        cases moved
        cases slot <;> exact .moves _ _ (by simp_all [SendPhase.condemned, slotAnswers])
    · cases moved
  | reserve reserved =>
    dsimp only at moved
    split at moved
    on_goal 3 => cases moved
    all_goals
      split_ifs at moved with answers
      cases moved
      cases reserved <;> exact .moves _ _ (by simp_all [SendPhase.condemned, reserveAnswers])
  | noWriter again =>
    dsimp only at moved
    split at moved
    · cases moved
      cases again <;> exact .moves _ _ nofun
    · cases moved
  | candidates =>
    dsimp only at moved
    split at moved
    · split_ifs at moved
      cases moved
      exact .moves _ _ nofun
    · cases moved
  | skip =>
    dsimp only at moved
    split at moved
    · cases moved
      exact .moves _ _ nofun
    · cases moved
  | tryReserve slot =>
    dsimp only at moved
    split at moved
    · split_ifs at moved with answers
      cases moved
      cases slot <;> exact .moves _ _ (by simp_all [SendPhase.condemned, slotAnswers])
    · cases moved
  | endRound accepts =>
    dsimp only at moved
    split at moved
    · cases moved
      exact .moves _ _ nofun
    · cases moved
      cases accepts <;> exact .moves _ _ nofun
    · cases moved
  | bind now =>
    dsimp only at moved
    split at moved
    · cases moved
      exact .bind _ _ now ‹_›
    · cases moved
  | dropWriter =>
    dsimp only at moved
    split at moved
    · cases moved
      exact .drop _ _ ‹_›
    · cases moved
  | loseWriter =>
    dsimp only at moved
    split at moved
    · cases moved
      exact .lose _ _ ‹_›
    · cases moved

theorem CondemnedRemovable.step (sound : s.CondemnedRemovable request)
    (known : s.BindsKnown request event) (moved : SendState.step request s event = some t) :
    t.CondemnedRemovable request := by
  intro id member
  cases step_cases moved with
  | environment pool => exact known id member
  | moves _ _ gone => exact .inl (gone id member)
  | bind candidate next now here =>
    by_cases bound : (s.pool.registry.bindWriter request.connId candidate.1
        (request.metaFor candidate.2) now).2 = true
    · simp [onBind, bound, SendPhase.condemned] at member
    · simp only [onBind, bound, SendPhase.condemned, if_false, List.mem_cons,
        Bool.false_eq_true] at member
      apply Removable.bindWriter
      rcases member with rfl | member
      · simp only [BindsKnown, KnownBinding, here] at known
        exact known.resolve_left fun accepted =>
          bound ((ConnRegistry.bindWriter_accepts_iff _ _).mpr accepted)
      · exact sound id (by rw [here]; exact member)
  | drop other next here => exact (sound id (by rw [here]; exact member)).dropWriter other
  | lose other _ here =>
    exact (sound id (by rw [here]; exact List.mem_cons_of_mem other member)).loseWriter other

theorem stepHarmless_of_sound (sound : s.CondemnedRemovable request) (event : SendEvent) :
    s.StepHarmless request event := by
  intro t moved
  cases step_cases moved with
  | environment pool closed => exact .inl ⟨pool, closed, rfl⟩
  | moves => exact .inr (Harmless.refl _ _ _)
  | bind _ next _ here => exact .inr (harmless_bindWriter _ _ _ _ _ _)
  | drop id next here =>
    exact .inr (harmless_dropWriter (sound id (by rw [here]; exact List.mem_cons_self)))
  | lose id _ here =>
    exact .inr (harmless_loseWriter (sound id (by rw [here]; exact List.mem_cons_self)))

theorem refused_binding_drops_writer {next : SendPhase} {now : Nat}
    (at_ : s.phase = .binding candidate next)
    (refused : request.connId ∉ s.pool.registry.routing ∨ candidate.1 ∉ s.pool.registry.writers)
    (live : candidate.1 ∈ s.pool.writers) (isOpen : candidate.1 ∉ s.closed) :
    ∃ t, SendState.step request s (.bind now) = some t ∧ ¬ t.StepHarmless request .dropWriter := by
  have unbound : (s.pool.registry.bindWriter request.connId candidate.1
      (request.metaFor candidate.2) now).2 = false := by
    rw [← Bool.not_eq_true, ConnRegistry.bindWriter_accepts_iff]
    tauto
  refine ⟨s.onBind request candidate next now, by simp [SendState.step, at_], ?_⟩
  intro harmless
  obtain ⟨pool, _, outside⟩ | effect := harmless
    { s.onBind request candidate next now with
      pool := (s.onBind request candidate next now).pool.dropWriter candidate.1
      phase := .losing candidate.1 next } (by simp [SendState.step, onBind, unbound])
  · cases outside
  · exact isOpen (effect.writers candidate.1 live (by simp [WriterPool.dropWriter]))

end SendState

open SendState

theorem send_spares_open_writers (request : SendRequest) (s : SendState) (events : List SendEvent)
    (fresh : s.phase = .lookUp) (known : Guarded (step request) (BindsKnown request) s events) :
    Guarded (step request) (StepHarmless request) s events := by
  have sound : s.CondemnedRemovable request := by
    intro id member
    simp [fresh, SendPhase.condemned] at member
  clear fresh
  induction events generalizing s with
  | nil => trivial
  | cons event _ ih =>
    refine ⟨stepHarmless_of_sound sound event, ?_⟩
    intro t moved
    exact ih t (known.2 t moved) (sound.step known.1 moved)

def sharedWriter : MeWriter where
  addr := ⟨.ofOctets 10 0 0 1, 8888⟩
  sourceIp := .ofOctets 10 0 0 9
  writerDc := 2
  generation := 1

def requestOf (connId : ConnId) : SendRequest where
  connId := connId
  targetDc := 2
  clientAddr := ⟨.ofOctets 198 51 100 7, 4000⟩
  ourAddr := ⟨.ofOctets 203 0 113 1, 443⟩
  protoFlags := 0

def sharedPool : SendState where
  pool :=
    { writers := (∅ : Dict WriterId MeWriter).insert 1 sharedWriter
      registry := ((({} : ConnRegistry).register 7).registerWriter 1 0).bindWriter 7 1
        ((requestOf 7).metaFor sharedWriter) 0 |>.1 }

def firstFrame : List SendEvent :=
  [.trySend .free, .candidates [(1, sharedWriter)], .tryReserve .free, .bind 1]

theorem registered_connection_spares_writers :
    let s : SendState :=
      { sharedPool with
        pool := { sharedPool.pool with registry := sharedPool.pool.registry.register 5 } }
    Guarded (step (requestOf 5)) (StepHarmless (requestOf 5)) s firstFrame :=
  send_spares_open_writers (requestOf 5) _ firstFrame rfl (by decide +kernel)

-- Connection 5 has been unregistered before its last frame is sent.
theorem late_frame_removes_shared_writer :
    5 ∉ sharedPool.pool.registry.routing ∧ sharedPool.closed = ∅ ∧
      1 ∈ sharedPool.pool.writers ∧
      (sharedPool.pool.registry.bindingOf 7).1 = some 1 ∧
      ∃ t, runFrom (step (requestOf 5)) sharedPool (firstFrame ++ [.dropWriter, .loseWriter]) =
          some t ∧
        t.closed = ∅ ∧ 1 ∉ t.pool.writers ∧ t.pool.registry.bindingOf 7 = (none, none) := by
  refine ⟨by decide +kernel, rfl, by decide +kernel, by decide +kernel, _, rfl, ?_⟩
  exact ⟨rfl, by decide +kernel, by decide +kernel⟩

end Telemt.MePool
