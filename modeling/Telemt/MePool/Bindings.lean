import Telemt.MePool.Teardown

namespace Telemt.MePool
open Foundation

/-! # Who is bound to whom -/

@[ext] structure BindingView where
  writer : ConnId → Option WriterId
  conns : WriterId → Finset ConnId
  count : WriterId → Nat

namespace BindingView
variable (v : BindingView) (connId : ConnId)

def point (writerId : Option WriterId) : BindingView :=
  { v with writer := Function.update v.writer connId writerId }

variable (writerId : WriterId)

def store (conns : Finset ConnId) : BindingView :=
  { v with
    conns := Function.update v.conns writerId conns
    count := Function.update v.count writerId conns.card }

def leave : BindingView :=
  v.store writerId ((v.conns writerId).erase connId)

def enter : BindingView :=
  v.store writerId (insert connId (v.conns writerId))

def bind : BindingView :=
  match v.writer connId with
  | none => (v.point connId (some writerId)).enter connId writerId
  | some previous =>
    if previous = writerId then (v.point connId (some writerId)).enter connId writerId
    else ((v.point connId (some writerId)).leave connId previous).enter connId writerId

def unbind : BindingView :=
  match v.writer connId with
  | none => v
  | some writerId => (v.point connId none).leave connId writerId

def lose : BindingView :=
  { v.store writerId ∅ with
    writer := fun connId =>
      if connId ∈ v.conns writerId ∧ v.writer connId = some writerId then none
      else v.writer connId }

structure Exact (v : BindingView) : Prop where
  conns : ∀ writerId connId, connId ∈ v.conns writerId ↔ v.writer connId = some writerId
  count : ∀ writerId, v.count writerId = (v.conns writerId).card

variable {v : BindingView}

theorem Exact.unbound_iff (exact_ : v.Exact) {writerId : WriterId} :
    v.count writerId = 0 ↔ ∀ connId, v.writer connId ≠ some writerId := by
  rw [exact_.count, Finset.card_eq_zero, Finset.eq_empty_iff_forall_notMem]
  simp only [exact_.conns]

theorem mem_store (at_ : WriterId) (conns : Finset ConnId) (writerId : WriterId) (connId : ConnId) :
    connId ∈ (v.store at_ conns).conns writerId ↔
      if writerId = at_ then connId ∈ conns else connId ∈ v.conns writerId := by
  by_cases same : writerId = at_
  · subst same
    simp [store]
  · simp [store, same]

theorem mem_enter (connId other : ConnId) (writerId at_ : WriterId) :
    other ∈ (v.enter connId writerId).conns at_ ↔
      (at_ = writerId ∧ other = connId) ∨ other ∈ v.conns at_ := by
  rw [enter, mem_store]
  split_ifs with same
  · rw [Finset.mem_insert, same, and_iff_right rfl]
  · simp [same]

theorem mem_leave (connId other : ConnId) (writerId at_ : WriterId) :
    other ∈ (v.leave connId writerId).conns at_ ↔
      ¬ (at_ = writerId ∧ other = connId) ∧ other ∈ v.conns at_ := by
  rw [leave, mem_store]
  split_ifs with same
  · rw [Finset.mem_erase, same, and_iff_right rfl]
  · simp [same]

theorem count_store (counted : ∀ writerId, v.count writerId = (v.conns writerId).card)
    (at_ : WriterId) (conns : Finset ConnId) (writerId : WriterId) :
    (v.store at_ conns).count writerId = ((v.store at_ conns).conns writerId).card := by
  by_cases same : writerId = at_
  · subst same
    simp [store]
  · simp [store, same, counted]

theorem writer_bind (connId : ConnId) (writerId : WriterId) :
    (v.bind connId writerId).writer = Function.update v.writer connId (some writerId) := by
  unfold BindingView.bind
  split
  · rfl
  · split_ifs <;> rfl

theorem mem_bind (exact_ : v.Exact) {connId other : ConnId} {writerId at_ : WriterId} :
    other ∈ (v.bind connId writerId).conns at_ ↔
      if other = connId then at_ = writerId else other ∈ v.conns at_ := by
  have here := exact_.conns at_ connId
  unfold BindingView.bind
  split
  · rw [mem_enter]
    grind [point]
  · rename_i previous bound
    by_cases same : previous = writerId
    · rw [if_pos same, mem_enter]
      grind [point]
    · rw [if_neg same, mem_enter, mem_leave]
      grind [point]

theorem Exact.bind (exact_ : v.Exact) (connId : ConnId) (writerId : WriterId) :
    (v.bind connId writerId).Exact := by
  constructor
  · intro at_ other
    rw [mem_bind exact_, writer_bind, Function.update_apply]
    split_ifs with same
    · rw [Option.some.injEq, eq_comm]
    · exact exact_.conns at_ other
  · unfold BindingView.bind
    split
    · exact count_store exact_.count _ _
    · split_ifs
      · exact count_store exact_.count _ _
      · exact count_store (count_store exact_.count _ _) _ _

theorem writer_unbind (connId : ConnId) :
    (v.unbind connId).writer = Function.update v.writer connId none := by
  unfold unbind
  split
  · rename_i unbound
    rw [← unbound, Function.update_eq_self]
  · rfl

theorem mem_unbind (exact_ : v.Exact) {connId other : ConnId} {at_ : WriterId} :
    other ∈ (v.unbind connId).conns at_ ↔ other ≠ connId ∧ other ∈ v.conns at_ := by
  have here := exact_.conns at_ connId
  unfold unbind
  split
  · grind
  · rw [mem_leave]
    grind [point]

theorem Exact.unbind (exact_ : v.Exact) (connId : ConnId) : (v.unbind connId).Exact := by
  constructor
  · intro at_ other
    rw [mem_unbind exact_, writer_unbind, Function.update_apply]
    split_ifs with same
    · simp [same]
    · rw [and_iff_right same]
      exact exact_.conns at_ other
  · unfold BindingView.unbind
    split
    · exact exact_.count
    · exact count_store exact_.count _ _

theorem Exact.lose (exact_ : v.Exact) (writerId : WriterId) : (v.lose writerId).Exact := by
  constructor
  · intro at_ other
    have there := exact_.conns at_ other
    show other ∈ (v.store writerId ∅).conns at_ ↔ (v.lose writerId).writer other = some at_
    rw [mem_store]
    simp only [BindingView.lose]
    grind
  · exact count_store exact_.count _ _

end BindingView

namespace ConnRegistry

def view (r : ConnRegistry) : BindingView where
  writer := fun connId => r.writerForConn.lookup connId
  conns := fun writerId => (r.connsForWriter.lookup writerId).getD ∅
  count := fun writerId => (r.boundClientsByWriter.lookup writerId).getD 0

section Views
variable (r : ConnRegistry) (connId : ConnId) (writerId : WriterId) (info : ConnMeta) (now : Nat)

theorem view_dropActiveTargetDc (targetDc : Int) : (r.dropActiveTargetDc targetDc).view = r.view := by
  unfold dropActiveTargetDc
  split
  · rfl
  · split <;> rfl

theorem view_addActiveTargetDc (targetDc : Int) : (r.addActiveTargetDc targetDc).view = r.view := by
  unfold addActiveTargetDc
  split <;> rfl

theorem view_dropMeta : (r.dropMeta connId).view = r.view := by
  unfold dropMeta
  split
  · rfl
  · exact view_dropActiveTargetDc _ _

theorem view_point :
    ({ r with writerForConn := r.writerForConn.insert connId writerId } : ConnRegistry).view =
      r.view.point connId (some writerId) := by
  apply BindingView.ext
  · funext other
    show (r.writerForConn.insert connId writerId).lookup other =
      Function.update r.view.writer connId (some writerId) other
    rw [Dict.lookup_insert_ite, Function.update_apply]
    rfl
  · rfl
  · rfl

theorem view_unpoint :
    ({ r with writerForConn := r.writerForConn.erase connId } : ConnRegistry).view =
      r.view.point connId none := by
  apply BindingView.ext
  · funext other
    show (r.writerForConn.erase connId).lookup other =
      Function.update r.view.writer connId none other
    rw [Dict.lookup_erase_ite, Function.update_apply]
    rfl
  · rfl
  · rfl

theorem view_store (conns : Finset ConnId) :
    ({ r with connsForWriter := r.connsForWriter.insert writerId conns }.setWriterBoundCount writerId
      conns.card now).view = r.view.store writerId conns := by
  apply BindingView.ext
  · rfl
  · exact Dict.lookup_insert_getD r.connsForWriter writerId conns ∅
  · exact Dict.lookup_insert_getD r.boundClientsByWriter writerId conns.card 0

theorem view_detach : (r.detach connId writerId now).view = r.view.leave connId writerId := by
  unfold detach
  split
  · rename_i absent
    have nobody : r.view.conns writerId = ∅ := by
      show (r.connsForWriter.lookup writerId).getD ∅ = ∅
      rw [absent]
      rfl
    rw [BindingView.leave, nobody, Finset.erase_empty]
    apply BindingView.ext
    · rfl
    · exact (Function.update_eq_self_iff.mpr nobody.symm).symm
    · exact Dict.lookup_insert_getD r.boundClientsByWriter writerId 0 0
  · rename_i conns found
    have conns_eq : r.view.conns writerId = conns := by
      show (r.connsForWriter.lookup writerId).getD ∅ = conns
      rw [found]
      rfl
    rw [BindingView.leave, conns_eq]
    exact view_store r writerId now (conns.erase connId)

theorem view_attach : (r.attach connId writerId info now).view = r.view.enter connId writerId :=
  view_store { r with lastMetaForWriter := r.lastMetaForWriter.insert writerId info } writerId now _

theorem view_commitBinding :
    (r.commitBinding connId writerId info now).view = r.view.bind connId writerId := by
  unfold commitBinding BindingView.bind
  rw [view_attach, view_addActiveTargetDc]
  change ((dropMeta _ connId).view).enter connId writerId = _
  rw [view_dropMeta]
  show _ = match r.writerForConn.lookup connId with
    | none => _
    | some previous => _
  cases r.writerForConn.lookup connId with
  | none => rw [view_point]
  | some =>
    dsimp only
    split_ifs
    · rw [view_point]
    · rw [view_detach, view_point]

theorem view_unregister : (r.unregister connId now).1.view = r.view.unbind connId := by
  have kept : ({ r with
      routing := r.routing.erase connId
      hotBinding := r.hotBinding.erase connId }.dropMeta connId).view = r.view := view_dropMeta _ _
  unfold unregister BindingView.unbind
  dsimp only
  generalize { r with
    routing := r.routing.erase connId
    hotBinding := r.hotBinding.erase connId }.dropMeta connId = gone at kept ⊢
  rw [← kept]
  show _ = match gone.writerForConn.lookup connId with
    | none => _
    | some writerId => _
  cases gone.writerForConn.lookup connId with
  | none => rfl
  | some =>
    rw [view_detach, view_unpoint]

theorem view_loseConn :
    (loseConn writerId r connId).view =
      if r.view.writer connId = some writerId then r.view.point connId none else r.view := by
  have bound : r.view.writer connId = r.writerForConn.lookup connId := rfl
  unfold loseConn
  rw [bound]
  by_cases here : r.writerForConn.lookup connId = some writerId
  · rw [if_neg (not_not_intro here), if_pos here]
    dsimp only
    have dropped := (view_dropMeta { r with writerForConn := r.writerForConn.erase connId }
      connId).trans (view_unpoint r connId)
    split
    · exact dropped
    · exact dropped
  · rw [if_pos here, if_neg here]

theorem view_loseConns (conns : List ConnId) :
    (conns.foldl (loseConn writerId) r).view =
      { r.view with
        writer := fun connId =>
          if connId ∈ conns ∧ r.view.writer connId = some writerId then none
          else r.view.writer connId } := by
  induction conns generalizing r with
  | nil => simp
  | cons connId _ ih =>
    rw [List.foldl_cons, ih, view_loseConn]
    split_ifs with here
    · apply BindingView.ext
      · funext other
        by_cases same : other = connId
        · simp [BindingView.point, same, here]
        · simp [BindingView.point, same]
      · rfl
      · rfl
    · apply BindingView.ext
      · funext other
        by_cases same : other = connId
        · simp [same, here]
        · simp [same]
      · rfl
      · rfl

theorem view_writerLost : (r.writerLost writerId).1.view = r.view.lose writerId := by
  unfold writerLost
  rw [view_loseConns]
  apply BindingView.ext
  · funext other
    simp only [connsOf, Finset.mem_sort]
    rfl
  · exact Dict.lookup_erase_getD r.connsForWriter writerId ∅
  · exact Dict.lookup_erase_getD r.boundClientsByWriter writerId 0

theorem view_registerWriter : (r.registerWriter writerId now).view = r.view := by
  apply BindingView.ext
  · rfl
  · refine (Dict.lookup_insert_getD r.connsForWriter writerId _ ∅).trans ?_
    exact Function.update_eq_self _ _
  · refine (Dict.lookup_insert_getD r.boundClientsByWriter writerId _ 0).trans ?_
    exact Function.update_eq_self _ _

theorem view_bindWriter :
    (r.bindWriter connId writerId info now).1.view =
      if connId ∈ r.routing ∧ writerId ∈ r.writers then r.view.bind connId writerId else r.view := by
  by_cases known : connId ∈ r.routing ∧ writerId ∈ r.writers
  · rw [if_pos known, bindWriter, if_neg (not_not_intro known.1), if_neg (not_not_intro known.2)]
    exact view_commitBinding r connId writerId info now
  · rw [if_neg known, bindWriter_of_refused known]

end Views

def Exact (r : ConnRegistry) : Prop := r.view.Exact

section Exact
variable {r : ConnRegistry} (exact_ : r.Exact)
include exact_

variable (connId : ConnId)

theorem Exact.register : (r.register connId).Exact := exact_

variable (writerId : WriterId)

theorem Exact.registerWriter (now : Nat) : (r.registerWriter writerId now).Exact := by
  rw [ConnRegistry.Exact, view_registerWriter]
  exact exact_

theorem Exact.bindWriter (info : ConnMeta) (now : Nat) :
    (r.bindWriter connId writerId info now).1.Exact := by
  rw [ConnRegistry.Exact, view_bindWriter]
  split
  · exact BindingView.Exact.bind exact_ connId writerId
  · exact exact_

theorem Exact.unregister (now : Nat) : (r.unregister connId now).1.Exact := by
  rw [ConnRegistry.Exact, view_unregister]
  exact BindingView.Exact.unbind exact_ connId

theorem Exact.writerLost : (r.writerLost writerId).1.Exact := by
  rw [ConnRegistry.Exact, view_writerLost]
  exact BindingView.Exact.lose exact_ writerId

end Exact

theorem exact_empty : ({} : ConnRegistry).Exact := by
  refine ⟨?_, ?_⟩
  · intro writerId connId
    simp [view]
  · intro writerId
    simp [view]

end ConnRegistry

end Telemt.MePool
