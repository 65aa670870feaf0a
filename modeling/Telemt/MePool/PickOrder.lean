import Telemt.Foundation.Rotation
import Telemt.MePool.Selection
import Telemt.MePool.Teardown

namespace Telemt.MePool
open Foundation

/-! # Who is bound in the sorted pick mode -/

namespace ConnRegistry
variable (r : ConnRegistry)

def roster : Finset ConnId × Finset WriterId := (r.routing, r.writers)

theorem roster_dropMeta (connId : ConnId) : (r.dropMeta connId).roster = r.roster := by
  unfold dropMeta dropActiveTargetDc
  dsimp only
  split
  · rfl
  · split
    · rfl
    · split <;> rfl

variable (writerId : WriterId)

theorem roster_loseConn (r : ConnRegistry) (connId : ConnId) :
    (loseConn writerId r connId).roster = r.roster := by
  unfold loseConn
  split
  · rfl
  · dsimp only
    have dropped := roster_dropMeta { r with writerForConn := r.writerForConn.erase connId } connId
    split
    · exact dropped
    · exact dropped

theorem roster_loseConns (r : ConnRegistry) (conns : List ConnId) :
    (conns.foldl (loseConn writerId) r).roster = r.roster := by
  induction conns generalizing r with
  | nil => rfl
  | cons _ _ ih => rw [List.foldl_cons, ih, roster_loseConn]

theorem roster_writerLost :
    (r.writerLost writerId).1.roster = (r.routing, r.writers.erase writerId) :=
  roster_loseConns _ _ _

end ConnRegistry

section Offers
variable (policy : SelectionPolicy) (request : SendRequest) (nowEpochSecs : Nat)

def able (registry : ConnRegistry) (candidate : Candidate) : Bool :=
  policy.writerAcceptsNewBinding nowEpochSecs candidate.2 &&
    (request.connId ∈ registry.routing && candidate.1 ∈ registry.writers)

variable {policy request nowEpochSecs} {p : WriterPool} {slots : WriterId → Slot}

theorem able_removed {candidate : Candidate}
    (refused : ¬ (request.connId ∈ p.registry.routing ∧ candidate.1 ∈ p.registry.writers)) :
    able policy request nowEpochSecs (p.removeWriterAndCloseClients candidate.1).registry =
      able policy request nowEpochSecs p.registry := by
  have roster : (p.removeWriterAndCloseClients candidate.1).registry.roster =
      (p.registry.routing, p.registry.writers.erase candidate.1) := by
    rw [WriterPool.removeWriterAndCloseClients_eq]
    exact ConnRegistry.roster_writerLost _ _
  have routing := congrArg Prod.fst roster
  have writers := congrArg Prod.snd roster
  dsimp only [ConnRegistry.roster] at routing writers
  funext other
  unfold able
  rw [routing, writers]
  by_cases routed : request.connId ∈ p.registry.routing
  · have absent : candidate.1 ∉ p.registry.writers := fun present => refused ⟨routed, present⟩
    rw [Finset.erase_eq_of_notMem absent]
  · simp [routed]

theorem offer_of_free {candidates : List Candidate}
    (free : ∀ candidate ∈ candidates, slots candidate.1 = .free) :
    (offer policy request slots nowEpochSecs p candidates none).2 =
      (candidates.find? (able policy request nowEpochSecs p.registry)).elim .again .bound := by
  induction candidates generalizing p with
  | nil => rfl
  | cons candidate _ ih =>
    have later := fun other member => free other (List.mem_cons_of_mem candidate member)
    rw [offer]
    by_cases accepts : policy.writerAcceptsNewBinding nowEpochSecs candidate.2 = true
    · rw [if_neg (by simp [accepts]), free candidate List.mem_cons_self]
      dsimp only
      by_cases known : request.connId ∈ p.registry.routing ∧ candidate.1 ∈ p.registry.writers
      · have bound := (ConnRegistry.bindWriter_accepts_iff (request.metaFor candidate.2)
          nowEpochSecs).mpr known
        rw [if_pos bound, List.find?_cons_of_pos (by simp [able, accepts, known])]
        rfl
      · rw [ConnRegistry.bindWriter_of_refused known]
        rw [if_neg Bool.false_ne_true, ih later, able_removed known,
          List.find?_cons_of_neg]
        simpa [able, accepts] using known
    · rw [if_pos (by simp [accepts]), ih later, List.find?_cons_of_neg]
      simp [able, accepts]

theorem offer_bound_iff {candidates : List Candidate} {picked : Candidate}
    (free : ∀ candidate ∈ candidates, slots candidate.1 = .free) :
    (offer policy request slots nowEpochSecs p candidates none).2 = .bound picked ↔
      candidates.find? (able policy request nowEpochSecs p.registry) = some picked := by
  rw [offer_of_free free]
  cases candidates.find? (able policy request nowEpochSecs p.registry) with
  | none | some candidate => simp

end Offers

def RoundOutcome.phase : RoundOutcome → SendPhase
  | .bound _ => .returned true
  | .blocked candidate => .blockedOnFallback candidate
  | .again => .lookUp

section Runs
variable {policy : SelectionPolicy} {request : SendRequest} {nowEpochSecs : Nat}
  {closed : Finset WriterId}

def SendEvent.Own : SendEvent → Prop
  | .environment _ _ => False
  | _ => True

theorem reachable_removal (p : WriterPool) (writerId : WriterId) (next : SendPhase) :
    Reachable (SendState.step request) SendEvent.Own ⟨p, closed, .dropping writerId next⟩
      ⟨p.removeWriterAndCloseClients writerId, closed, next⟩ := by
  rw [WriterPool.removeWriterAndCloseClients_eq]
  exact .head ⟨.dropWriter, trivial, rfl⟩ (.single ⟨.loseWriter, trivial, rfl⟩)

theorem run_offer (full : WriterId → Bool) (p : WriterPool) (candidates : List Candidate)
    (fallback : Option Candidate) :
    let slots writerId := if writerId ∈ closed then .closed else if full writerId then .full else .free
    let result := offer policy request slots nowEpochSecs p candidates fallback
    ∃ events : List SendEvent, (∀ event ∈ events, event.Own) ∧
      runFrom (SendState.step request) ⟨p, closed, .offering candidates fallback⟩ events =
        some ⟨result.1, closed, result.2.phase⟩ := by
  intro slots
  apply Reachable.run
  have answers (writerId : WriterId) : slots writerId = .closed ↔ writerId ∈ closed := by
    dsimp only [slots]
    split_ifs with gone <;> simp [gone]
  clear_value slots
  induction candidates generalizing p fallback with
  | nil =>
    cases fallback with
    | none => exact .single ⟨.endRound true, trivial, rfl⟩
    | some candidate =>
      refine .single ⟨.endRound (policy.writerAcceptsNewBinding nowEpochSecs candidate.2), trivial, ?_⟩
      cases accepts : policy.writerAcceptsNewBinding nowEpochSecs candidate.2 with
      | false | true => simp [SendState.step, SendState.goto, offer, RoundOutcome.phase, accepts]
  | cons candidate rest ih =>
    rw [offer]
    by_cases accepts : policy.writerAcceptsNewBinding nowEpochSecs candidate.2 = true
    · rw [if_neg (by simp [accepts])]
      have reserve (slot : Slot) (here : slots candidate.1 = slot) :
          SendState.step request ⟨p, closed, .offering (candidate :: rest) fallback⟩
              (.tryReserve slot) =
            some (SendState.onOffer ⟨p, closed, .offering (candidate :: rest) fallback⟩ candidate
              rest fallback slot) := by
        have allowed : SendState.slotAnswers ⟨p, closed, .offering (candidate :: rest) fallback⟩
            candidate.1 slot := here ▸ answers candidate.1
        simp [SendState.step, allowed]
      cases here : slots candidate.1 with
      | free =>
        refine .head ⟨.tryReserve .free, trivial, reserve .free here⟩ ?_
        dsimp only
        cases bound : (p.registry.bindWriter request.connId candidate.1
            (request.metaFor candidate.2) nowEpochSecs).2 with
        | true =>
          refine .single ⟨.bind nowEpochSecs, trivial, ?_⟩
          simp [SendState.onOffer, SendState.goto, SendState.step, SendState.onBind, bound,
            RoundOutcome.phase]
        | false =>
          refine .head ⟨.bind nowEpochSecs, trivial, ?_⟩
            ((reachable_removal _ candidate.1 _).trans (ih _ fallback))
          simp [SendState.onOffer, SendState.goto, SendState.step, SendState.onBind, bound]
      | full =>
        exact .head ⟨.tryReserve .full, trivial, reserve .full here⟩
          (ih p (fallback.or (some candidate)))
      | closed =>
        exact .head ⟨.tryReserve .closed, trivial, reserve .closed here⟩
          ((reachable_removal p candidate.1 _).trans (ih _ fallback))
    · rw [if_pos (by simp [accepts])]
      exact .head ⟨.skip, trivial, rfl⟩ (ih p fallback)

end Runs

namespace PickView
variable (view : PickView)

def least (candidates : List Candidate) (candidate : Candidate) : Bool :=
  decide (∀ other ∈ candidates, view.preferenceKey candidate ≤ view.preferenceKey other)

section
variable (candidates : List Candidate)

theorem sortCandidates_perm : (view.sortCandidates candidates).Perm candidates := by
  unfold sortCandidates
  split
  · exact sortByKey_perm _ _
  · exact sortByKey_perm _ _

theorem sortCandidates_pairwise :
    (view.sortCandidates candidates).Pairwise fun a b =>
      view.preferenceKey a ≤ view.preferenceKey b := by
  unfold sortCandidates
  split
  · refine (sortByKey_pairwise view.deterministicKey candidates).imp ?_
    intro a b before
    exact Prod.Lex.monotone_fst _ _ before
  · refine (sortByKey_pairwise view.capacityKey candidates).imp ?_
    intro a b before
    exact Prod.Lex.monotone_fst _ _ before

theorem least_leads : Leads (view.least candidates) (view.sortCandidates candidates) := by
  refine (view.sortCandidates_pairwise candidates).imp ?_
  intro a b before
  simp only [least, decide_eq_true_eq]
  intro least other member
  exact before.trans (least other member)

theorem p2cOrdered_perm (start : Nat) : (view.p2cOrdered candidates start).Perm candidates := by
  unfold p2cOrdered
  refine ((sortByKey_perm _ _).append_right _).trans ?_
  rw [List.take_append_drop]
  exact List.rotate_perm candidates start

theorem orderedCandidates_perm (rr : Nat) :
    (view.orderedCandidates candidates rr).Perm candidates := by
  unfold orderedCandidates
  split
  · exact view.p2cOrdered_perm candidates _
  · exact (List.rotate_perm _ _).trans (view.sortCandidates_perm candidates)

end

end PickView

theorem sorted_pick_least_iff (view : PickView) (request : SendRequest) (slots : WriterId → Slot)
    (nowEpochSecs rr : Nat) (p : WriterPool) (candidates : List Candidate) (picked : Candidate)
    (sorted : view.policy.writerPickMode = .sortedRr)
    (free : ∀ candidate ∈ candidates, slots candidate.1 = .free)
    (bound : (offer view.policy request slots nowEpochSecs p
      (view.orderedCandidates candidates rr) none).2 = .bound picked) :
    let start := rr % candidates.length
    let able := able view.policy request nowEpochSecs p.registry
    ((∀ other ∈ candidates, view.preferenceKey picked ≤ view.preferenceKey other) ↔
        ((view.sortCandidates candidates).take start).countP able % candidates.countP able <
          candidates.countP fun candidate => able candidate && view.least candidates candidate) ∧
      ((∀ candidate ∈ candidates, able candidate = true) →
        ((∀ other ∈ candidates, view.preferenceKey picked ≤ view.preferenceKey other) ↔
          start < candidates.countP (view.least candidates))) := by
  intro start able
  have same := view.sortCandidates_perm candidates
  have order : view.orderedCandidates candidates rr = (view.sortCandidates candidates).rotate start := by
    unfold PickView.orderedCandidates
    rw [sorted]
  have found := (offer_bound_iff fun candidate member =>
    free candidate ((view.orderedCandidates_perm candidates rr).mem_iff.mp member)).mp bound
  rw [order] at found
  have nonempty : 0 < candidates.length := by
    have member := List.mem_of_find?_eq_some found
    rw [List.mem_rotate, same.mem_iff] at member
    exact List.length_pos_of_mem member
  have inside : start < (view.sortCandidates candidates).length := by
    rw [same.length_eq]
    exact Nat.mod_lt rr nonempty
  have first := first_hit_leads_iff (view.least_leads candidates) inside.le found
  rw [same.countP_eq able, same.countP_eq, PickView.least, decide_eq_true_iff] at first
  refine ⟨first, ?_⟩
  intro everybody
  -- Everybody counts, so the place among the able is the place in the list.
  have before : ((view.sortCandidates candidates).take start).countP able = start := by
    rw [List.countP_eq_length.mpr, List.length_take_of_le inside.le]
    intro candidate member
    exact everybody candidate (same.mem_iff.mp (List.mem_of_mem_take member))
  have whole : candidates.countP able = candidates.length := List.countP_eq_length.mpr everybody
  have leading : (candidates.countP fun candidate => able candidate && view.least candidates candidate) =
      candidates.countP (view.least candidates) := by
    apply List.countP_congr
    intro candidate member
    simp [everybody candidate member]
  rw [before, whole, leading, Nat.mod_eq_of_lt (Nat.mod_lt rr nonempty)] at first
  exact first

def healthyAndDegraded : PickView where
  policy := { writerPickMode := .sortedRr }
  currentGeneration := 1
  loads := fun id => { degraded := id = 2, capacity := 4096 }
  nowEpochSecs := 100

def twoCandidates : List Candidate := [(1, sharedWriter), (2, sharedWriter)]

def twoWriters : WriterPool where
  writers := ((∅ : Dict WriterId MeWriter).insert 1 sharedWriter).insert 2 sharedWriter
  registry := ((({} : ConnRegistry).register 5).registerWriter 1 0).registerWriter 2 0

theorem even_counter_picks_healthy :
    (offer healthyAndDegraded.policy (requestOf 5) (fun _ => .free) 100 twoWriters
        (healthyAndDegraded.orderedCandidates twoCandidates 6) none).2 =
      .bound (1, sharedWriter) ∧
      healthyAndDegraded.preferenceKey (1, sharedWriter) ≤
        healthyAndDegraded.preferenceKey (2, sharedWriter) := by
  refine ⟨by decide +kernel, ?_⟩
  have least := sorted_pick_least_iff healthyAndDegraded (requestOf 5) (fun _ => .free) 100 6
    twoWriters twoCandidates (1, sharedWriter) rfl (by decide) (by decide +kernel)
  exact least.1.mpr (by decide +kernel) (2, sharedWriter) (by decide)

theorem odd_counter_picks_degraded :
    (offer healthyAndDegraded.policy (requestOf 5) (fun _ => .free) 100 twoWriters
        (healthyAndDegraded.orderedCandidates twoCandidates 7) none).2 =
      .bound (2, sharedWriter) ∧
      healthyAndDegraded.preferenceKey (1, sharedWriter) <
        healthyAndDegraded.preferenceKey (2, sharedWriter) := by
  decide +kernel

end Telemt.MePool
