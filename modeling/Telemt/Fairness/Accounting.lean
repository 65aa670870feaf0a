import Telemt.Fairness.Books

namespace Telemt.Fairness
open Foundation

/-! # The counters of a scheduler are exact, and its limits hold -/

namespace WorkerFairnessState

structure Accounted (s : WorkerFairnessState) : Prop where
  total : s.totalQueuedBytes = Dict.tally (fun _ flow => queuedBytes flow.queue) s.flows
  bucketBytes : ∀ b < s.bucketQueuedBytes.length,
    s.bucketQueuedBytes.getD b 0 =
      Dict.tally (fun _ flow => if flow.fairness.bucketId = b then queuedBytes flow.queue else 0)
        s.flows
  pending : ∀ connId flow, s.flows.lookup connId = some flow →
    flow.fairness.pendingBytes = queuedBytes flow.queue
  bucketFlows : ∀ b < s.bucketActiveFlows.length,
    s.bucketActiveFlows.getD b 0 =
      Dict.tally (fun _ flow => if flow.fairness.bucketId = b then 1 else 0) s.flows
  buckets : s.bucketActiveFlows.length = s.bucketQueuedBytes.length
  nonempty : 0 < s.bucketQueuedBytes.length

def sumShelves (s : WorkerFairnessState) (weight : Shelf → Nat) : Nat :=
  Dict.tally (fun _ flow => weight flow.shelf) s.flows

end WorkerFairnessState

variable (weight : Shelf → Nat)

def weigh (entry : Option Shelf) : Nat := (entry.map weight).getD 0

@[simp] theorem weigh_none : weigh weight none = 0 := rfl

@[simp] theorem weigh_some (shelf : Shelf) : weigh weight (some shelf) = weight shelf := rfl

namespace Shelf

def bytes (shelf : Shelf) : Nat := queuedBytes shelf.queue

def bytesIn (b : Nat) (shelf : Shelf) : Nat := if shelf.bucketId = b then queuedBytes shelf.queue else 0

def countIn (b : Nat) (shelf : Shelf) : Nat := if shelf.bucketId = b then 1 else 0

end Shelf

namespace WorkerFairnessState
variable {s t : WorkerFairnessState} {connId : ConnId} {entry : Option Shelf}

theorem sumShelves_update
    (shelves : t.books.shelves = Function.update s.books.shelves connId entry) :
    t.sumShelves weight + weigh weight (s.books.shelves connId) =
      s.sumShelves weight + weigh weight entry := by
  have view (u : WorkerFairnessState) (other : ConnId) :
      (u.flows.lookup other).map (fun flow => weight flow.shelf) =
        (u.books.shelves other).map weight :=
    (Option.map_map weight FlowEntry.shelf (u.flows.lookup other)).symm
  have changed := @Dict.tally_update _ _ s.flows _ (fun _ flow => weight flow.shelf) t.flows connId
    fun other differs => by rw [view, view, shelves, Function.update_of_ne differs]
  rw [view, view, shelves, Function.update_self] at changed
  exact changed

end WorkerFairnessState

structure Books.Balances (a b : Books) (connId : ConnId) (entry : Option Shelf) : Prop where
  shelves : b.shelves = Function.update a.shelves connId entry
  total : b.totalQueuedBytes + weigh Shelf.bytes (a.shelves connId) =
    a.totalQueuedBytes + weigh Shelf.bytes entry
  bucketBytes : ∀ i < a.bucketQueuedBytes.length,
    b.bucketQueuedBytes.getD i 0 + weigh (Shelf.bytesIn i) (a.shelves connId) =
      a.bucketQueuedBytes.getD i 0 + weigh (Shelf.bytesIn i) entry
  bucketFlows : ∀ i < a.bucketActiveFlows.length,
    b.bucketActiveFlows.getD i 0 + weigh (Shelf.countIn i) (a.shelves connId) =
      a.bucketActiveFlows.getD i 0 + weigh (Shelf.countIn i) entry
  bytesLength : b.bucketQueuedBytes.length = a.bucketQueuedBytes.length
  flowsLength : b.bucketActiveFlows.length = a.bucketActiveFlows.length
  pending : ∀ shelf, entry = some shelf → shelf.pendingBytes = shelf.bytes

namespace WorkerFairnessState
variable {s t : WorkerFairnessState} {connId : ConnId} {entry : Option Shelf}

theorem Accounted.shelf (accounted : s.Accounted) {shelf : Shelf}
    (found : s.books.shelves connId = some shelf) : shelf.pendingBytes = shelf.bytes := by
  obtain ⟨flow, known, rfl⟩ := Option.map_eq_some_iff.mp found
  exact accounted.pending connId flow known

theorem eq_sumShelves {weight : Shelf → Nat} {before after : Nat}
    (shelves : t.books.shelves = Function.update s.books.shelves connId entry)
    (exact_ : before = s.sumShelves weight)
    (moved : after + weigh weight (s.books.shelves connId) = before + weigh weight entry) :
    after = t.sumShelves weight := by
  have changed := sumShelves_update weight shelves
  omega

theorem Accounted.move (accounted : s.Accounted)
    (balances : s.books.Balances t.books connId entry) : t.Accounted where
  total := eq_sumShelves balances.shelves accounted.total balances.total
  bucketBytes := by
    intro i inside
    have inside' : i < s.books.bucketQueuedBytes.length := balances.bytesLength ▸ inside
    exact eq_sumShelves balances.shelves (accounted.bucketBytes i inside')
      (balances.bucketBytes i inside')
  pending := by
    intro other flow known
    have found : t.books.shelves other = some flow.shelf := shelves_of_lookup known
    rw [balances.shelves] at found
    by_cases same : other = connId
    · subst same
      rw [Function.update_self] at found
      exact balances.pending flow.shelf found
    · rw [Function.update_of_ne same] at found
      exact accounted.shelf found
  bucketFlows := by
    intro i inside
    have inside' : i < s.books.bucketActiveFlows.length := balances.flowsLength ▸ inside
    exact eq_sumShelves balances.shelves (accounted.bucketFlows i inside')
      (balances.bucketFlows i inside')
  buckets := balances.flowsLength.trans (accounted.buckets.trans balances.bytesLength.symm)
  nonempty := Nat.lt_of_lt_of_eq accounted.nonempty balances.bytesLength.symm

theorem Accounted.bytesIn_le (accounted : s.Accounted) {i : Nat}
    (inside : i < s.bucketQueuedBytes.length) :
    s.bucketQueuedBytes.getD i 0 ≤ s.totalQueuedBytes := by
  rw [accounted.bucketBytes i inside, accounted.total]
  apply Dict.tally_mono
  intro _ flow
  split
  · exact Nat.le_refl _
  · exact Nat.zero_le _

variable {shelf : Shelf}

theorem le_sumShelves (weight : Shelf → Nat) (found : s.books.shelves connId = some shelf) :
    weight shelf ≤ s.sumShelves weight := by
  obtain ⟨flow, known, rfl⟩ := Option.map_eq_some_iff.mp found
  exact Dict.weight_le_tally (fun _ flow => weight flow.shelf) known

section
variable (accounted : s.Accounted) (found : s.books.shelves connId = some shelf)
  (inside : shelf.bucketId < s.bucketQueuedBytes.length)
include accounted found inside

theorem Accounted.bytes_le : shelf.bytes ≤ s.bucketQueuedBytes.getD shelf.bucketId 0 := by
  rw [accounted.bucketBytes _ inside]
  have weighed := le_sumShelves (Shelf.bytesIn shelf.bucketId) found
  rw [Shelf.bytesIn, if_pos rfl] at weighed
  exact weighed

theorem Accounted.one_le : 1 ≤ s.bucketActiveFlows.getD shelf.bucketId 0 := by
  rw [accounted.bucketFlows _ (accounted.buckets ▸ inside)]
  have weighed := le_sumShelves (Shelf.countIn shelf.bucketId) found
  rw [Shelf.countIn, if_pos rfl] at weighed
  exact weighed

end

theorem Accounted.flows_le (accounted : s.Accounted) {i : Nat}
    (inside : i < s.bucketActiveFlows.length) :
    s.bucketActiveFlows.getD i 0 ≤ Dict.size s.flows := by
  rw [accounted.bucketFlows i inside, Dict.size_eq_tally]
  apply Dict.tally_mono
  intro _ flow
  split <;> simp

end WorkerFairnessState

theorem saturatingAdd_eq {a b : Nat} (fits : a + b < 2 ^ 64) : saturatingAdd 64 a b = a + b :=
  Nat.min_eq_left (Nat.le_sub_one_of_lt fits)

theorem getD_modify {l : List Nat} {j : Nat} (inside : j < l.length) (i : Nat) (f : Nat → Nat) :
    (l.modify i f).getD j 0 = if i = j then f (l.getD j 0) else l.getD j 0 := by
  simp only [List.getD_eq_getElem?_getD, List.getElem?_modify, List.getElem?_eq_getElem inside]
  split <;> rfl

theorem getD_modify_add {l : List Nat} {j : Nat} (inside : j < l.length) {i : Nat} {f : Nat → Nat}
    (old new : Nat) (moved : i = j → f (l.getD j 0) + old = l.getD j 0 + new) :
    (l.modify i f).getD j 0 + (if i = j then old else 0) = l.getD j 0 + if i = j then new else 0 := by
  rw [getD_modify inside]
  split
  · exact moved ‹_›
  · rfl

namespace Books
variable {a : Books} {connId : ConnId} {shelf : Shelf} {frame : QueuedFrame}

theorem balances_opened (absent : a.shelves connId = none)
    (few : ∀ i < a.bucketActiveFlows.length, a.bucketActiveFlows.getD i 0 + 1 < 2 ^ 64) :
    a.Balances (a.opened connId) connId (some ⟨a.bucketFor connId, 0, []⟩) := by
  unfold opened
  rw [absent]
  refine ⟨rfl, by simp [absent, Shelf.bytes]; rfl, ?_, ?_, rfl, List.length_modify _ _ _, ?_⟩
  · intro i _
    simp [absent, Shelf.bytesIn]
    rfl
  · intro i inside
    have added := getD_modify_add (f := (saturatingAdd 64 · 1)) inside 0 1
      fun (_ : a.bucketFor connId = i) => saturatingAdd_eq (few i inside)
    rw [ite_self] at added
    rw [absent]
    exact added
  · rintro _ ⟨⟩
    rfl

theorem balances_credit (found : a.shelves connId = some shelf) {bytes : Nat}
    {queue : List QueuedFrame} (longer : queuedBytes queue = queuedBytes shelf.queue + bytes)
    (pending : shelf.pendingBytes = shelf.bytes)
    (fits : ∀ i < a.bucketQueuedBytes.length, a.bucketQueuedBytes.getD i 0 + bytes < 2 ^ 64)
    (total : a.totalQueuedBytes + bytes < 2 ^ 64) (flow : shelf.pendingBytes + bytes < 2 ^ 64) :
    a.Balances ((a.credit shelf.bucketId bytes).store connId
        { shelf with
          pendingBytes := saturatingAdd 64 shelf.pendingBytes bytes
          queue := queue })
      connId (some { shelf with
        pendingBytes := saturatingAdd 64 shelf.pendingBytes bytes
        queue := queue }) := by
  refine ⟨rfl, ?_, ?_, fun i _ => ?_, List.length_modify _ _ _, rfl, ?_⟩
  · have exact_ := saturatingAdd_eq total
    simp only [found, weigh_some, Shelf.bytes, longer, store, credit]
    omega
  · intro i inside
    have exact_ := saturatingAdd_eq (fits i inside)
    rw [found]
    exact getD_modify_add inside _ (queuedBytes queue) fun _ => by omega
  · rw [found]
    rfl
  · rintro _ ⟨⟩
    have exact_ := saturatingAdd_eq flow
    simp only [Shelf.bytes] at pending ⊢
    omega

theorem reclaimed_eq {queue : List QueuedFrame} (fits : queuedBytes queue < 2 ^ 64) :
    reclaimed queue = queuedBytes queue := by
  have summed (start : Nat) (enough : start + queuedBytes queue < 2 ^ 64) :
      queue.foldl (fun sum frame => saturatingAdd 64 sum frame.queuedBytes) start =
        start + queuedBytes queue := by
    clear fits
    induction queue generalizing start with
    | nil => rfl
    | cons _ _ ih =>
      rw [queuedBytes_cons] at enough
      rw [List.foldl_cons, saturatingAdd_eq (by omega), ih _ (by omega), queuedBytes_cons]
      omega
  have all := summed 0 (by omega)
  rw [Nat.zero_add] at all
  exact all

theorem balances_popped (found : a.shelves frame.connId = some shelf) {rest : List QueuedFrame}
    (queue : shelf.queue = frame :: rest) (pending : shelf.pendingBytes = shelf.bytes)
    (bucket : shelf.bytes ≤ a.bucketQueuedBytes.getD shelf.bucketId 0)
    (total : shelf.bytes ≤ a.totalQueuedBytes) :
    a.Balances (a.popped shelf frame rest) frame.connId (some { shelf with
      pendingBytes := shelf.pendingBytes - frame.queuedBytes, queue := rest }) := by
  have split : shelf.bytes = frame.queuedBytes + queuedBytes rest := by
    rw [Shelf.bytes, queue, queuedBytes_cons]
  refine ⟨rfl, ?_, ?_, fun i _ => ?_, List.length_modify _ _ _, rfl, ?_⟩
  · simp only [found, weigh_some, popped, store, debit, split]
    simp only [Shelf.bytes]
    omega
  · intro i inside
    rw [found]
    refine getD_modify_add inside shelf.bytes (queuedBytes rest) ?_
    rintro rfl
    omega
  · rw [found]
    rfl
  · rintro _ ⟨⟩
    simp only [Shelf.bytes] at *
    omega

theorem balances_removed (found : a.shelves connId = some shelf)
    (bucket : shelf.bytes ≤ a.bucketQueuedBytes.getD shelf.bucketId 0)
    (total : shelf.bytes ≤ a.totalQueuedBytes) (fits : shelf.bytes < 2 ^ 64)
    (counted : 1 ≤ a.bucketActiveFlows.getD shelf.bucketId 0) :
    a.Balances (a.removed connId) connId none := by
  have all : reclaimed shelf.queue = shelf.bytes := reclaimed_eq fits
  unfold removed
  rw [found]
  refine ⟨rfl, ?_, ?_, ?_, List.length_modify _ _ _, List.length_modify _ _ _, ?_⟩
  · simp only [found, weigh_some, weigh_none, debit, all]
    omega
  · intro i inside
    have freed := getD_modify_add (f := (· - reclaimed shelf.queue)) inside shelf.bytes 0
      fun (here : shelf.bucketId = i) => by
        subst here
        omega
    rw [ite_self] at freed
    rw [found]
    exact freed
  · intro i inside
    have freed := getD_modify_add (f := (· - 1)) inside 1 0 fun (here : shelf.bucketId = i) => by
      subst here
      omega
    rw [ite_self] at freed
    rw [found]
    exact freed
  · rintro _ ⟨⟩

theorem returned_popped (found : a.shelves frame.connId = some shelf) {rest : List QueuedFrame}
    (queue : shelf.queue = frame :: rest) (flow : frame.queuedBytes ≤ shelf.pendingBytes)
    (bucket : frame.queuedBytes ≤ a.bucketQueuedBytes.getD shelf.bucketId 0)
    (total : frame.queuedBytes ≤ a.totalQueuedBytes) (flowFits : shelf.pendingBytes < 2 ^ 64)
    (bucketFits : a.bucketQueuedBytes.getD shelf.bucketId 0 < 2 ^ 64)
    (totalFits : a.totalQueuedBytes < 2 ^ 64) :
    (a.popped shelf frame rest).returned frame = a := by
  have back {n : Nat} (more : frame.queuedBytes ≤ n) (fits : n < 2 ^ 64) :
      saturatingAdd 64 (n - frame.queuedBytes) frame.queuedBytes = n := by
    rw [saturatingAdd_eq (by omega)]
    omega
  have buckets : (a.bucketQueuedBytes.modify shelf.bucketId (· - frame.queuedBytes)).modify
      shelf.bucketId (fun queued => saturatingAdd 64 queued frame.queuedBytes) =
      a.bucketQueuedBytes := by
    apply List.ext_getElem?
    intro i
    simp only [List.getElem?_modify, Option.map_eq_map, Option.map_map]
    by_cases same : shelf.bucketId = i
    · subst same
      cases at_ : a.bucketQueuedBytes[shelf.bucketId]? with
      | none => rfl
      | some =>
        rw [List.getD_eq_getElem?_getD, at_] at bucket bucketFits
        simp only [if_true, Option.map_some, Function.comp_apply]
        exact congrArg some (back bucket bucketFits)
    · simp [same, Function.comp_def]
  have restored : a.shelves = Function.update a.shelves frame.connId (some shelf) := by
    rw [← found, Function.update_eq_self]
  unfold returned popped
  simp only [shelves_store, Function.update_self]
  unfold store credit debit
  simp only [Function.update_idem, back flow flowFits, back total totalFits, buckets, ← queue]
  rw [← restored]

end Books

namespace WorkerFairnessState

structure Kept (s : WorkerFairnessState) : Prop where
  sound : s.books.Sound
  accounted : s.Accounted
  flows : Dict.size s.flows ≤ s.books.maxActiveFlows
  total : s.books.totalQueuedBytes ≤ s.books.maxTotalQueuedBytes
  flow : ∀ connId shelf, s.books.shelves connId = some shelf →
    shelf.pendingBytes ≤ s.books.maxFlowQueuedBytes
  bucket : ∀ i < s.books.bucketQueuedBytes.length,
    s.books.bucketQueuedBytes.getD i 0 ≤ s.books.bucketCap
  flowsBound : s.books.maxActiveFlows < 2 ^ 64
  totalBound : s.books.maxTotalQueuedBytes < 2 ^ 64

variable {s t : WorkerFairnessState} {connId : ConnId} {entry : Option Shelf} {shelf : Shelf}
  {frame : QueuedFrame} {rest : List QueuedFrame}

theorem size_flows_update (shelves : t.books.shelves = Function.update s.books.shelves connId entry) :
    Dict.size t.flows + weigh (fun _ => 1) (s.books.shelves connId) =
      Dict.size s.flows + weigh (fun _ => 1) entry := by
  have changed := sumShelves_update (fun _ => 1) shelves
  rw [Dict.size_eq_tally, Dict.size_eq_tally]
  exact changed

section
variable (kept : s.Kept)
include kept

theorem Kept.move (balances : s.books.Balances t.books connId entry)
    (limits : t.books.limits = s.books.limits) (sound : t.books.Sound)
    (flows : Dict.size s.flows + weigh (fun _ => 1) entry ≤
      s.books.maxActiveFlows + weigh (fun _ => 1) (s.books.shelves connId))
    (total : t.books.totalQueuedBytes ≤ s.books.maxTotalQueuedBytes)
    (flow : ∀ shelf, entry = some shelf → shelf.pendingBytes ≤ s.books.maxFlowQueuedBytes)
    (bucket : ∀ i < s.books.bucketQueuedBytes.length,
      t.books.bucketQueuedBytes.getD i 0 ≤ s.books.bucketCap) : t.Kept := by
  obtain ⟨maxActive, maxTotal, maxFlow, cap⟩ := Books.limits_eq limits
  refine ⟨sound, kept.accounted.move balances, ?_, ?_, ?_, ?_, ?_, ?_⟩
  · have size := size_flows_update balances.shelves
    omega
  · rw [maxTotal]
    exact total
  · rw [maxFlow, balances.shelves]
    intro other shelf found
    by_cases same : other = connId
    · subst same
      rw [Function.update_self] at found
      exact flow shelf found
    · rw [Function.update_of_ne same] at found
      exact kept.flow other shelf found
  · rw [cap, balances.bytesLength]
    exact bucket
  · rw [maxActive]
    exact kept.flowsBound
  · rw [maxTotal]
    exact kept.totalBound

theorem Kept.same {drops : Nat} (same : t.books = { s.books with shedDrops := drops }) :
    t.Kept := by
  have shelves : t.books.shelves = s.books.shelves := by rw [same]
  have unmoved : t.books.shelves = Function.update s.books.shelves 0 (s.books.shelves 0) := by
    rw [shelves, Function.update_eq_self]
  have balances : s.books.Balances t.books 0 (s.books.shelves 0) := by
    rw [same] at unmoved ⊢
    exact ⟨unmoved, rfl, fun _ _ => rfl, fun _ _ => rfl, rfl, rfl,
      fun shelf found => kept.accounted.shelf found⟩
  have sound : t.books.Sound := kept.sound.amend unmoved balances.bytesLength (kept.sound 0)
  refine kept.move balances (by rw [same]; rfl) sound (Nat.add_le_add_right kept.flows _) ?_
    (kept.flow 0) ?_
  · rw [same]
    exact kept.total
  · rw [same]
    exact kept.bucket

theorem Kept.bucketId_lt (found : s.books.shelves connId = some shelf) :
    shelf.bucketId < s.books.bucketQueuedBytes.length := by
  have some_ : max s.books.bucketQueuedBytes.length 1 = s.books.bucketQueuedBytes.length :=
    Nat.max_eq_left kept.accounted.nonempty
  rw [(kept.sound connId shelf found).bucket, Books.bucketFor, some_]
  exact Nat.mod_lt _ kept.accounted.nonempty

theorem Kept.bytes_le (found : s.books.shelves connId = some shelf) :
    shelf.pendingBytes = shelf.bytes ∧
      shelf.bytes ≤ s.books.bucketQueuedBytes.getD shelf.bucketId 0 ∧
      s.books.bucketQueuedBytes.getD shelf.bucketId 0 ≤ s.books.totalQueuedBytes ∧
      s.books.totalQueuedBytes < 2 ^ 64 := by
  have inside := kept.bucketId_lt found
  exact ⟨kept.accounted.shelf found, kept.accounted.bytes_le found inside,
    kept.accounted.bytesIn_le inside, Nat.lt_of_le_of_lt kept.total kept.totalBound⟩

theorem Kept.opened (room : connId ∈ s.flows ∨ Dict.size s.flows < s.config.maxActiveFlows)
    (opened : t.books = s.books.opened connId) : t.Kept := by
  cases found : s.books.shelves connId with
  | some =>
    have known : s.books.opened connId = s.books := by simp [Books.opened, found]
    exact kept.same (opened.trans known)
  | none =>
    have unknown : connId ∉ s.flows := by
      rw [← AList.lookup_eq_none]
      exact Option.map_eq_none_iff.mp found
    have few : Dict.size s.flows < s.books.maxActiveFlows := room.resolve_left unknown
    have balances := Books.balances_opened found fun i inside => by
      have counted := kept.accounted.flows_le inside
      have bound := kept.flowsBound
      change s.bucketActiveFlows.getD i 0 + 1 < 2 ^ 64
      omega
    have sound := kept.sound.opened connId
    have limits := Books.limits_moves (.single (.opened (b := s.books) connId))
    rw [← opened] at balances sound limits
    refine kept.move balances limits sound ?_ ?_ ?_ ?_
    · rw [found]
      exact few
    · rw [opened, Books.totalQueuedBytes_opened]
      exact kept.total
    · rintro _ ⟨⟩
      exact Nat.zero_le _
    · rw [opened, Books.bucketQueuedBytes_opened]
      exact kept.bucket

theorem Kept.pushed (found : s.books.shelves frame.connId = some shelf)
    (total : s.books.totalQueuedBytes + frame.queuedBytes ≤ s.books.maxTotalQueuedBytes)
    (bucket : s.books.bucketQueuedBytes.getD (s.books.bucketFor frame.connId) 0 + frame.queuedBytes ≤
      s.books.bucketCap)
    (flow : shelf.pendingBytes + frame.queuedBytes ≤ s.books.maxFlowQueuedBytes)
    (pushed : t.books = s.books.pushed shelf frame) : t.Kept := by
  obtain ⟨pending, _, _, _⟩ := kept.bytes_le found
  have bound := kept.totalBound
  have own := (kept.sound frame.connId shelf found).bucket
  have parts (i : Nat) (inside : i < s.books.bucketQueuedBytes.length) :
      s.books.bucketQueuedBytes.getD i 0 ≤ s.books.totalQueuedBytes :=
    kept.accounted.bytesIn_le inside
  have longer : queuedBytes (shelf.queue ++ [frame]) = queuedBytes shelf.queue + frame.queuedBytes := by
    simp
  have balances : s.books.Balances (s.books.pushed shelf frame) frame.connId (some { shelf with
      pendingBytes := saturatingAdd 64 shelf.pendingBytes frame.queuedBytes
      queue := shelf.queue ++ [frame] }) := by
    unfold Books.pushed
    rw [← own]
    exact Books.balances_credit found longer pending
      (fun i inside => by have := parts i inside; omega) (by omega) (by omega)
  have sound := kept.sound.pushed found
  refine kept.move (pushed ▸ balances) (by rw [pushed]; rfl) (pushed ▸ sound) ?_ ?_ ?_ ?_
  · rw [found]
    exact Nat.add_le_add_right kept.flows 1
  · rw [pushed]
    exact (saturatingAdd_le 64 _ _).trans total
  · rintro _ ⟨⟩
    exact (saturatingAdd_le 64 _ _).trans flow
  · intro i inside
    rw [pushed]
    simp only [Books.pushed, Books.store, Books.credit]
    rw [getD_modify inside]
    split
    · rename_i here
      exact (saturatingAdd_le 64 _ _).trans (here ▸ bucket)
    · exact kept.bucket i inside

theorem Kept.popped (found : s.books.shelves frame.connId = some shelf)
    (queue : shelf.queue = frame :: rest) (popped : t.books = s.books.popped shelf frame rest) :
    t.Kept ∧ t.books.returned frame = s.books := by
  obtain ⟨pending, inShelf, inBucket, fits⟩ := kept.bytes_le found
  have front : frame.queuedBytes ≤ shelf.bytes := by
    rw [Shelf.bytes, queue, queuedBytes_cons]
    exact Nat.le_add_right _ _
  have balances := Books.balances_popped found queue pending inShelf (inShelf.trans inBucket)
  have sound := kept.sound.popped found queue
  constructor
  · refine kept.move (popped ▸ balances) (by rw [popped]; rfl) (popped ▸ sound) ?_ ?_ ?_ ?_
    · rw [found]
      exact Nat.add_le_add_right kept.flows 1
    · rw [popped]
      exact (Nat.sub_le _ _).trans kept.total
    · rintro _ ⟨⟩
      exact (Nat.sub_le _ _).trans (kept.flow frame.connId shelf found)
    · intro i inside
      rw [popped]
      simp only [Books.popped, Books.store, Books.debit]
      rw [getD_modify inside]
      have within := kept.bucket i inside
      split
      · exact (Nat.sub_le _ _).trans within
      · exact within
  · rw [popped]
    exact Books.returned_popped found queue (by omega) (by omega) (by omega) (by omega) (by omega) fits

theorem Kept.removed (removed : t.books = s.books.removed connId) : t.Kept := by
  cases found : s.books.shelves connId with
  | none =>
    have unknown : s.books.removed connId = s.books := by simp [Books.removed, found]
    exact kept.same (removed.trans unknown)
  | some shelf =>
    obtain ⟨_, inShelf, inBucket, _⟩ := kept.bytes_le found
    have counted : 1 ≤ s.books.bucketActiveFlows.getD shelf.bucketId 0 :=
      kept.accounted.one_le found (kept.bucketId_lt found)
    have balances := Books.balances_removed found inShelf (inShelf.trans inBucket) (by omega) counted
    have sound := kept.sound.removed connId
    have limits : (s.books.removed connId).limits = s.books.limits :=
      Books.limits_moves (.single (.removed connId))
    refine kept.move (removed ▸ balances) (removed ▸ limits) (removed ▸ sound) ?_ ?_ ?_ ?_
    · exact Nat.le_add_right_of_le kept.flows
    · have less := balances.total
      have before := kept.total
      rw [removed]
      rw [weigh_none] at less
      omega
    · rintro _ ⟨⟩
    · intro i inside
      have less := balances.bucketBytes i inside
      have before := kept.bucket i inside
      rw [removed]
      rw [weigh_none] at less
      omega

theorem Kept.enqueueData (connId : ConnId) (flags : UInt32) (data : Bytes) (now : Instant)
    (countable : s.config.maxTotalQueuedBytes < 2 ^ 64 - 1 ∨
      s.totalQueuedBytes + data.length < 2 ^ 64) :
    (s.enqueueData connId flags data now).1.Kept := by
  rcases books_enqueueData s connId flags data now with
    ⟨_, same | ⟨room, opened⟩⟩ | ⟨_, shelf, found, fits, pushed⟩
  · exact kept.same same
  · exact kept.opened room opened
  · -- The flow is opened first, in a state of its own.
    obtain ⟨opened, _⟩ := books_openFlow s connId (weightForFlags s.config flags)
    generalize (s.openFlow connId _ _).1 = m at opened
    have keptOpen : m.Kept := kept.opened fits.flows opened
    rw [← opened] at found pushed
    obtain ⟨pending, inShelf, inBucket, _⟩ := keptOpen.bytes_le found
    have sameTotal : m.books.totalQueuedBytes = s.books.totalQueuedBytes := by
      rw [opened, Books.totalQueuedBytes_opened]
    have sameBuckets : m.books.bucketQueuedBytes = s.books.bucketQueuedBytes := by
      rw [opened, Books.bucketQueuedBytes_opened]
    have limits : m.books.limits = s.books.limits := by
      rw [opened]
      exact Books.limits_moves (.single (.opened connId))
    obtain ⟨_, maxTotal, maxFlow, cap⟩ := Books.limits_eq limits
    have bound : s.books.totalQueuedBytes + data.length < 2 ^ 64 := by
      have total : min (s.books.totalQueuedBytes + data.length) (2 ^ 64 - 1) ≤ _ := fits.total
      rcases countable with below | small
      · omega
      · exact small
    have own := (keptOpen.sound connId shelf found).bucket
    rw [own, Books.bucketFor, sameBuckets] at inShelf inBucket
    rw [sameTotal] at inBucket
    have below {part : Nat} (le : part ≤ s.books.totalQueuedBytes) : part + data.length < 2 ^ 64 :=
      Nat.lt_of_le_of_lt (Nat.add_le_add_right le _) bound
    refine keptOpen.pushed found ?_ ?_ ?_ pushed
    · rw [sameTotal, maxTotal]
      exact (saturatingAdd_eq bound).symm.trans_le fits.total
    · rw [Books.bucketFor, sameBuckets, cap]
      exact (saturatingAdd_eq (below inBucket)).symm.trans_le fits.bucket
    · rw [maxFlow]
      have part := pending.trans_le (inShelf.trans inBucket)
      exact (saturatingAdd_eq (below part)).symm.trans_le fits.flow

end

end WorkerFairnessState

open WorkerFairnessState

structure Worker where
  fairness : WorkerFairnessState
  inFlight : Option DispatchCandidate := none

def SchedulerDecision.candidate? : SchedulerDecision → Option DispatchCandidate
  | .idle => none
  | .dispatch candidate => some candidate

namespace Worker

def start (config : WorkerFairnessConfig) (now : Instant) : Worker where
  fairness := .new config now

def whenIdle (w : Worker) (next : Worker) : Option Worker :=
  if w.inFlight = none then some next else none

-- Between a dispatch and the feedback on it the scheduler is left alone.
def step (w : Worker) : Call → Option Worker
  | .enqueueData connId flags data now =>
    w.whenIdle { fairness := (w.fairness.enqueueData connId flags data now).1 }
  | .nextDecision now =>
    w.whenIdle
      { fairness := (w.fairness.nextDecision now).1
        inFlight := (w.fairness.nextDecision now).2.candidate? }
  | .applyDispatchFeedback connId candidate feedback now =>
    if w.inFlight = some candidate ∧ connId = candidate.frame.connId then
      some { fairness := (w.fairness.applyDispatchFeedback connId candidate feedback now).1 }
    else none
  | .removeFlow connId => w.whenIdle { fairness := w.fairness.removeFlow connId }
  | .setBackpressureEnabled enabled now =>
    w.whenIdle { fairness := w.fairness.setBackpressureEnabled enabled now }

variable {w t : Worker}

theorem whenIdle_eq_some {next : Worker} :
    w.whenIdle next = some t ↔ w.inFlight = none ∧ next = t := by
  unfold whenIdle
  split <;> simp_all

/-- The byte counter does not reach the end of its range: its limit is below that, or what the worker
then holds is. -/
def Countable (w : Worker) : Call → Prop
  | .enqueueData _ _ data _ =>
    w.fairness.config.maxTotalQueuedBytes < 2 ^ 64 - 1 ∨
      w.fairness.totalQueuedBytes + data.length < 2 ^ 64
  | _ => True

structure Kept (w : Worker) : Prop where
  kept : w.fairness.Kept
  reserved : ∀ candidate, w.inFlight = some candidate →
    ∃ before : WorkerFairnessState, before.Kept ∧
      w.fairness.books.returned candidate.frame = before.books

theorem Kept.idle {s : WorkerFairnessState} (kept : s.Kept) : Kept { fairness := s } :=
  ⟨kept, nofun⟩

theorem Kept.nextDecision (kept : w.Kept) (now : Instant) :
    Kept { fairness := (w.fairness.nextDecision now).1
           inFlight := (w.fairness.nextDecision now).2.candidate? } := by
  have served := books_nextDecision kept.kept.sound now
  generalize w.fairness.nextDecision now = result at served
  obtain ⟨t, decision⟩ := result
  cases decision with
  | idle => exact Kept.idle (kept.kept.same served)
  | dispatch =>
    obtain ⟨_, _, found, queue, popped⟩ := served
    obtain ⟨keptPopped, back⟩ := kept.kept.popped found queue popped
    refine ⟨keptPopped, ?_⟩
    rintro _ ⟨⟩
    exact ⟨w.fairness, kept.kept, back⟩

theorem Kept.feedback (kept : w.Kept) {candidate : DispatchCandidate}
    (flying : w.inFlight = some candidate) (feedback : DispatchFeedback) (now : Instant) :
    (w.fairness.applyDispatchFeedback candidate.frame.connId candidate feedback now).1.Kept := by
  obtain ⟨before, keptBefore, back⟩ := kept.reserved candidate flying
  have settled := books_applyDispatchFeedback w.fairness candidate feedback now
  dsimp only at settled
  generalize kept_ : (if feedback = .queueFull then _ else _ : Books) = books at settled
  obtain ⟨u, keptState, same⟩ : ∃ u : WorkerFairnessState, u.Kept ∧ u.books = books := by
    subst kept_
    split
    · split
      · let dropped := { w.fairness with shedDrops := saturatingAdd 64 w.fairness.shedDrops 1 }
        exact ⟨dropped, kept.kept.same (t := dropped) rfl, rfl⟩
      · exact ⟨before, keptBefore, back.symm⟩
    · exact ⟨w.fairness, kept.kept, rfl⟩
  rw [← same] at settled
  split at settled
  · exact keptState.removed settled
  · exact keptState.same settled

theorem Kept.step {call : Call} (countable : w.Countable call) (kept : w.Kept)
    (stepped : w.step call = some t) : t.Kept := by
  cases call with
  | enqueueData connId flags data now =>
    obtain ⟨_, rfl⟩ := whenIdle_eq_some.mp stepped
    exact .idle (kept.kept.enqueueData connId flags data now countable)
  | nextDecision now =>
    obtain ⟨_, rfl⟩ := whenIdle_eq_some.mp stepped
    exact kept.nextDecision now
  | applyDispatchFeedback connId _ feedback now =>
    obtain ⟨⟨flying, rfl⟩, ⟨⟩⟩ := Option.ite_none_right_eq_some.mp stepped
    exact .idle (kept.feedback flying feedback now)
  | removeFlow connId =>
    obtain ⟨_, rfl⟩ := whenIdle_eq_some.mp stepped
    exact .idle (kept.kept.removed (books_removeFlow w.fairness connId))
  | setBackpressureEnabled enabled now =>
    obtain ⟨_, rfl⟩ := whenIdle_eq_some.mp stepped
    exact .idle (kept.kept.same (books_setBackpressureEnabled w.fairness now enabled))

theorem moves_step {call : Call} (sound : w.fairness.books.Sound) (stepped : w.step call = some t) :
    w.fairness.books.Moves t.fairness.books := by
  cases call with
  | enqueueData connId flags data now =>
    obtain ⟨_, rfl⟩ := whenIdle_eq_some.mp stepped
    exact moves_enqueueData w.fairness connId flags data now
  | nextDecision now =>
    obtain ⟨_, rfl⟩ := whenIdle_eq_some.mp stepped
    exact moves_nextDecision sound now
  | applyDispatchFeedback connId candidate feedback now =>
    obtain ⟨⟨_, rfl⟩, ⟨⟩⟩ := Option.ite_none_right_eq_some.mp stepped
    exact moves_applyDispatchFeedback w.fairness candidate feedback now
  | removeFlow connId =>
    obtain ⟨_, rfl⟩ := whenIdle_eq_some.mp stepped
    exact moves_removeFlow w.fairness connId
  | setBackpressureEnabled enabled now =>
    obtain ⟨_, rfl⟩ := whenIdle_eq_some.mp stepped
    exact books_setBackpressureEnabled w.fairness now enabled ▸ .refl

end Worker

namespace ReaderState

def Drains : Call → Prop
  | .nextDecision _ | .applyDispatchFeedback .. | .removeFlow _ => True
  | .enqueueData .. | .setBackpressureEnabled .. => False

theorem reachable_dispatched (r : ReaderState) (backpressureEnabled : Bool)
    (candidate : DispatchCandidate) (result : RouteResult) (now : Instant) :
    Reachable Worker.step Drains ⟨r.fairness, some candidate⟩
      ⟨(r.dispatched backpressureEnabled candidate result now).fairness, none⟩ := by
  let fed : Call :=
    .applyDispatchFeedback candidate.frame.connId candidate (routeFeedback result) now
  unfold dispatched
  dsimp only
  generalize (if result = .routed then _ else _) = streaks
  generalize (if isDataRouteQueueFull result then _ else streaks) = counted
  refine .head ⟨fed, trivial, if_pos ⟨rfl, rfl⟩⟩ ?_
  split_ifs
  · exact .single ⟨.removeFlow candidate.frame.connId, trivial, rfl⟩
  · exact .single ⟨.removeFlow candidate.frame.connId, trivial, rfl⟩
  · exact .refl

theorem run_drainFairnessScheduler (backpressureEnabled : Bool) (r : ReaderState)
    (rounds : List (Instant × RouteResult)) :
    ∃ calls : List Call, (∀ call ∈ calls, Drains call) ∧
      runFrom Worker.step { fairness := r.fairness } calls =
        some { fairness := (r.drainFairnessScheduler backpressureEnabled rounds).fairness } := by
  apply Reachable.run
  unfold drainFairnessScheduler
  generalize rounds.take fairnessDrainBudgetPerLoop = rounds
  induction rounds generalizing r with
  | nil => exact .refl
  | cons round _ ih =>
    obtain ⟨now, result⟩ := round
    have asks : Worker.step { fairness := r.fairness } (.nextDecision now) = some
        ⟨(r.fairness.nextDecision now).1, (r.fairness.nextDecision now).2.candidate?⟩ := rfl
    unfold drainRounds
    split
    · rename_i fairness asked
      rw [asked] at asks
      exact .single ⟨.nextDecision now, trivial, asks⟩
    · rename_i fairness candidate asked
      rw [asked] at asks
      exact .head ⟨.nextDecision now, trivial, asks⟩
        ((reachable_dispatched { r with fairness := fairness } backpressureEnabled candidate result
          now).trans (ih _))

end ReaderState

structure WorkerFairnessConfig.Representable (config : WorkerFairnessConfig) : Prop where
  maxActiveFlows : config.maxActiveFlows < 2 ^ 64
  maxTotalQueuedBytes : config.maxTotalQueuedBytes < 2 ^ 64

theorem getD_replicate_zero (n i : Nat) : (List.replicate n 0).getD i 0 = 0 := by
  rw [List.getD_eq_getElem?_getD, List.getElem?_replicate]
  split <;> rfl

theorem kept_new {config : WorkerFairnessConfig} (representable : config.Representable)
    (now : Instant) : (WorkerFairnessState.new config now).Kept where
  sound := by rintro connId shelf ⟨⟩
  accounted :=
    { total := rfl
      bucketBytes := fun b _ => getD_replicate_zero _ b
      pending := by rintro connId flow ⟨⟩
      bucketFlows := fun b _ => getD_replicate_zero _ b
      buckets := by simp [WorkerFairnessState.new]
      nonempty := by simp [WorkerFairnessState.new] }
  flows := Nat.zero_le _
  total := Nat.zero_le _
  flow := by rintro connId shelf ⟨⟩
  bucket := fun i _ => (getD_replicate_zero _ i).trans_le (Nat.zero_le _)
  flowsBound := representable.maxActiveFlows
  totalBound := representable.maxTotalQueuedBytes

theorem Worker.kept_run {config : WorkerFairnessConfig} (representable : config.Representable)
    {now : Instant} {calls : List Call}
    (countable : Guarded Worker.step Worker.Countable (Worker.start config now) calls) {w : Worker}
    (run : runFrom Worker.step (Worker.start config now) calls = some w) :
    w.Kept ∧ w.fairness.books.limits = (WorkerFairnessState.new config now).books.limits := by
  apply runFrom_invariant (fun w : Worker => w.Kept ∧ w.fairness.books.limits = _) _ countable
    ⟨.idle (kept_new representable now), rfl⟩ run
  intro w call t countable kept stepped
  exact ⟨kept.1.step countable stepped,
    (Books.limits_moves (moves_step kept.1.kept.sound stepped)).trans kept.2⟩

theorem Worker.countable_of_limit {w : Worker} (sound : w.fairness.books.Sound)
    (below : w.fairness.books.maxTotalQueuedBytes < 2 ^ 64 - 1) (calls : List Call) :
    Guarded Worker.step Worker.Countable w calls := by
  induction calls generalizing w with
  | nil => trivial
  | cons call _ ih =>
    constructor
    · cases call with
      | enqueueData => exact .inl below
      | nextDecision | applyDispatchFeedback | removeFlow | setBackpressureEnabled => trivial
    · intro t stepped
      have moves := moves_step sound stepped
      obtain ⟨_, maxTotal, _, _⟩ := Books.limits_eq (Books.limits_moves moves)
      exact ih (sound.moves moves) (maxTotal ▸ below)

theorem scheduler_accounting_exact (config : WorkerFairnessConfig)
    (representable : config.Representable) (now : Instant) (calls : List Call)
    (countable : Guarded Worker.step Worker.Countable (Worker.start config now) calls) (w : Worker)
    (run : runFrom Worker.step (Worker.start config now) calls = some w) :
    w.fairness.Accounted :=
  (Worker.kept_run representable countable run).1.kept.accounted

def refusedOnce : List Call :=
  [.enqueueData 1 0 [7, 8] 0, .enqueueData 65 0 [9] 0, .nextDecision 0,
    .applyDispatchFeedback 1 ⟨⟨1, 0, [7, 8], 0⟩, .normal, .healthy⟩ .queueFull 0]

theorem representable_default : WorkerFairnessConfig.Representable {} := ⟨by decide, by decide⟩

theorem countable_refusedOnce :
    Guarded Worker.step Worker.Countable (Worker.start {} 0) refusedOnce :=
  Worker.countable_of_limit (kept_new representable_default 0).sound (by decide) refusedOnce

theorem refused_frame_accounted :
    ∃ w, runFrom Worker.step (Worker.start {} 0) refusedOnce = some w ∧ w.fairness.Accounted := by
  obtain ⟨w, run⟩ := Option.isSome_iff_exists.mp
    (show (runFrom Worker.step (Worker.start {} 0) refusedOnce).isSome = true by decide +kernel)
  exact ⟨w, run, scheduler_accounting_exact {} representable_default 0 refusedOnce
    countable_refusedOnce w run⟩

theorem bucketCap_le (config : WorkerFairnessConfig) :
    bucketCap config ≤
      max (config.maxTotalQueuedBytes * max config.softBucketSharePct 1 / 100)
        config.maxFlowQueuedBytes :=
  max_le_max (Nat.div_le_div_right (Nat.min_le_left _ _)) (Nat.le_refl _)

theorem scheduler_caps_hold (config : WorkerFairnessConfig) (representable : config.Representable)
    (now : Instant) (calls : List Call)
    (countable : Guarded Worker.step Worker.Countable (Worker.start config now) calls) (w : Worker)
    (run : runFrom Worker.step (Worker.start config now) calls = some w) :
    Dict.tally (fun _ flow => queuedBytes flow.queue) w.fairness.flows ≤ config.maxTotalQueuedBytes ∧
      (∀ connId flow, w.fairness.flows.lookup connId = some flow →
        queuedBytes flow.queue ≤ config.maxFlowQueuedBytes) ∧
      (∀ b < w.fairness.bucketQueuedBytes.length,
        Dict.tally (fun _ flow => if flow.fairness.bucketId = b then queuedBytes flow.queue else 0)
            w.fairness.flows ≤
          max (config.maxTotalQueuedBytes * max config.softBucketSharePct 1 / 100)
            config.maxFlowQueuedBytes) ∧
      Dict.size w.fairness.flows ≤ config.maxActiveFlows := by
  obtain ⟨⟨kept, _⟩, limits⟩ := Worker.kept_run representable countable run
  obtain ⟨maxActive, maxTotal, maxFlow, cap⟩ := Books.limits_eq limits
  have accounted := kept.accounted
  refine ⟨?_, ?_, ?_, ?_⟩
  · rw [← accounted.total]
    exact kept.total.trans_eq maxTotal
  · intro connId flow known
    rw [← accounted.pending connId flow known]
    exact (kept.flow connId flow.shelf (shelves_of_lookup known)).trans_eq maxFlow
  · intro b inside
    rw [← accounted.bucketBytes b inside]
    exact (kept.bucket b inside).trans (cap.trans_le (bucketCap_le config))
  · exact kept.flows.trans_eq maxActive

theorem refused_frame_capped :
    ∃ w flow, runFrom Worker.step (Worker.start {} 0) refusedOnce = some w ∧
      w.fairness.flows.lookup 1 = some flow ∧
      Dict.tally (fun _ flow => queuedBytes flow.queue) w.fairness.flows ≤ 16 * 1024 * 1024 ∧
      queuedBytes flow.queue ≤ 512 * 1024 ∧
      Dict.tally (fun _ flow => if flow.fairness.bucketId = 1 then queuedBytes flow.queue else 0)
        w.fairness.flows ≤ 4 * 1024 * 1024 ∧
      Dict.size w.fairness.flows ≤ 4096 := by
  have reached : ((runFrom Worker.step (Worker.start {} 0) refusedOnce).map fun w =>
      ((w.fairness.flows.lookup 1).isSome, w.fairness.bucketQueuedBytes.length)) =
        some (true, 64) := by decide +kernel
  obtain ⟨w, run, held⟩ := Option.map_eq_some_iff.mp reached
  obtain ⟨known, _⟩ := Prod.mk.inj held
  obtain ⟨flow, known⟩ := Option.isSome_iff_exists.mp known
  obtain ⟨total, perFlow, perBucket, flows⟩ := scheduler_caps_hold {} representable_default 0
    refusedOnce countable_refusedOnce w run
  exact ⟨w, flow, run, known, total, perFlow 1 flow known, perBucket 1 (by omega), flows⟩

end Telemt.Fairness
