import Telemt.Replay.Model

namespace Telemt
open Foundation

/-! # How long the replay cache remembers a key -/

namespace ReplayShard

def Remembers (s : ReplayShard) (key : ReplayKey) (since : Instant) : Prop :=
  ∃ row ∈ s.queue, row.key = key ∧ since ≤ row.stamp ∧ s.cache.peek key = some row.seq

def Forgets (s : ReplayShard) (key : ReplayKey) : Prop := s.cache.peek key = none

variable {s : ReplayShard} {row : QueuedKey}

theorem evictQueueFront_cache {rest : List QueuedKey} (front : s.queue = row :: rest) :
    s.evictQueueFront.cache = dropRow s.cache row := by
  unfold evictQueueFront
  split
  · next empty =>
      rw [empty] at front
      cases front
  · next owner later found =>
      obtain ⟨rfl, rfl⟩ := List.cons.inj (found.symm.trans front)
      rfl

variable {key : ReplayKey} {since : Instant}

theorem Remembers.evictQueueFront (remembers : s.Remembers key since) {rest : List QueuedKey}
    (front : s.queue = row :: rest) (old : row.stamp < since) :
    s.evictQueueFront.Remembers key since := by
  obtain ⟨owner, member, keyed, recent, cached⟩ := remembers
  have ordered := s.ordered
  rw [front] at member ordered
  rcases List.mem_cons.mp member with rfl | member
  · exact absurd recent (not_le_of_gt old)
  · -- The front may carry the same key, but then with an older sequence number.
    have older : row.seq < owner.seq := (List.pairwise_cons.mp ordered).1 owner member
    refine ⟨owner, ?_, keyed, recent, ?_⟩
    · rw [evictQueueFront_queue, front]
      exact member
    · rw [evictQueueFront_cache front]
      exact peek_dropRow.mpr ⟨cached, fun same => older.ne same.2⟩

theorem Remembers.evictWhile {cutoff : Instant} (expired : cutoff ≤ since)
    (remembers : s.Remembers key since) (turns : Nat) :
    (s.evictWhile (frontBefore cutoff) turns).Remembers key since := by
  refine evictWhile_keeps (·.Remembers key since) (fun t stale remembers => ?_) turns remembers
  cases front : t.queue with
  | nil => simp [frontBefore, front] at stale
  | cons row =>
    have before : row.stamp < cutoff := by simpa [frontBefore, front] using stale
    exact remembers.evictQueueFront front (before.trans_le expired)

variable {now : Instant} {window : Duration}

theorem Remembers.cleanup (remembers : s.Remembers key since) (lasting : window ≠ 0)
    (fresh : now ≤ since + window) : (s.cleanup now window).Remembers key since := by
  have kept : now - window ≤ since := Int.sub_right_le_of_le_add fresh
  rw [ReplayShard.cleanup, if_neg lasting]
  exact remembers.evictWhile kept s.queue.length

theorem Forgets.evictWhile (forgets : s.Forgets key) (stale : ReplayShard → Bool) (turns : Nat) :
    (s.evictWhile stale turns).Forgets key := by
  refine evictWhile_keeps (·.Forgets key) (fun t _ forgets => ?_) turns forgets
  cases front : t.queue with
  | nil =>
    unfold ReplayShard.evictQueueFront
    split
    · exact forgets
    · next found => cases front.symm.trans found
  | cons =>
    apply Option.eq_none_iff_forall_ne_some.mpr
    intro seq found
    rw [evictQueueFront_cache front] at found
    rw [Forgets, (peek_dropRow.mp found).1] at forgets
    cases forgets

theorem Forgets.cleanup (forgets : s.Forgets key) (now : Instant) (window : Duration) :
    (s.cleanup now window).Forgets key := by
  unfold ReplayShard.cleanup
  split_ifs
  · rfl
  · exact forgets.evictWhile _ _

section
variable (s) (key) (now : Instant) (window : Duration)

theorem cleanup_shrunk : s.Shrunk (s.cleanup now window) := by
  unfold cleanup
  split_ifs
  · exact ⟨rfl, rfl, List.nil_suffix⟩
  · exact evictWhile_shrunk _ _ s

theorem check_shrunk : s.Shrunk (s.check key now window).2 := by
  unfold check
  split_ifs
  · exact ⟨rfl, rfl, List.suffix_rfl⟩
  · obtain ⟨capacity, seqCounter, queue⟩ := s.cleanup_shrunk now window
    exact ⟨capacity, seqCounter, queue⟩

theorem addOwned_cases :
    s.addOwned key now window = s ∨
      s.addOwned key now window = s.cleanup now window ∨
      s.addOwned key now window =
        (s.cleanup now window).makeRoom.push (makeRoom_roomy _) key now := by
  unfold addOwned
  dsimp only
  split_ifs
  · exact .inl rfl
  · exact .inr (.inl rfl)
  · exact .inr (.inr rfl)

theorem addOwned_capacity : (s.addOwned key now window).capacity = s.capacity := by
  rcases addOwned_cases s key now window with same | cleaned | pushed
  · rw [same]
  · rw [cleaned, (s.cleanup_shrunk now window).capacity]
  · rw [pushed]
    exact (makeRoom_shrunk _).capacity.trans (s.cleanup_shrunk now window).capacity

theorem addOwned_queue_length :
    (s.addOwned key now window).queue.length ≤ s.queue.length + 1 := by
  have shorter := (s.cleanup_shrunk now window).queue.length_le
  rcases addOwned_cases s key now window with same | cleaned | pushed
  · rw [same]
    exact Nat.le_succ _
  · rw [cleaned]
    exact shorter.trans (Nat.le_succ _)
  · have evicted := (s.cleanup now window).makeRoom_shrunk.queue.length_le
    rw [pushed]
    show (_ ++ [_]).length ≤ _
    rw [List.length_append]
    exact Nat.succ_le_succ (evicted.trans shorter)

end

theorem check_fst (lasting : window ≠ 0) (key : ReplayKey) (now : Instant) :
    (s.check key now window).1 = ((s.cleanup now window).cache.peek key).isSome := by
  rw [check, if_neg lasting]
  exact congrArg Option.isSome (Lru.get_fst _ key)

theorem Remembers.found (remembers : s.Remembers key since) (lasting : window ≠ 0)
    (fresh : now ≤ since + window) : (s.check key now window).1 = true := by
  obtain ⟨_, _, _, _, cached⟩ := remembers.cleanup lasting fresh
  rw [check_fst lasting, cached]
  rfl

theorem Remembers.check (remembers : s.Remembers key since) (lasting : window ≠ 0)
    (fresh : now ≤ since + window) (data : ReplayKey) :
    (s.check data now window).2.Remembers key since := by
  rw [ReplayShard.check, if_neg lasting]
  obtain ⟨row, member, keyed, recent, cached⟩ := remembers.cleanup lasting fresh
  exact ⟨row, member, keyed, recent, (Lru.peek_get _ data key).trans cached⟩

theorem check_forgets (lasting : window ≠ 0) (missed : (s.check key now window).1 = false) :
    (s.check key now window).2.Forgets key := by
  have absent : (s.cleanup now window).cache.peek key = none := by
    rw [check_fst lasting] at missed
    exact Option.isNone_iff_eq_none.mp (by simpa using missed)
  rw [check, if_neg lasting]
  exact (Lru.peek_get _ key key).trans absent

theorem push_remembers (s : ReplayShard) (roomy : s.queue.length < s.capacity) (key : ReplayKey)
    (now : Instant) : (s.push roomy key now).Remembers key now := by
  refine ⟨_, List.mem_append_right _ (List.mem_singleton_self _), rfl, le_rfl, ?_⟩
  show (s.cache.put key (s.seqCounter + 1)).peek key = _
  rw [Lru.peek_put (cache_roomy roomy), if_pos rfl]

theorem Forgets.addOwned (forgets : s.Forgets key) (lasting : window ≠ 0) (now : Instant) :
    (s.addOwned key now window).Remembers key now := by
  have absent : ((s.cleanup now window).cache.peek key).isSome = false :=
    congrArg Option.isSome (forgets.cleanup now window)
  rw [ReplayShard.addOwned, if_neg lasting]
  simp only [absent, Bool.false_eq_true, if_false]
  exact push_remembers _ _ key now

theorem makeRoom_of_roomy (roomy : s.queue.length < s.capacity) :
    s.makeRoom = s := by
  have notFull : s.full = false := decide_eq_false (not_le_of_gt roomy)
  unfold makeRoom
  cases s.queue.length with
  | zero => rfl
  | succ => rw [evictWhile, notFull, if_neg Bool.false_ne_true]

theorem Remembers.push (remembers : s.Remembers key since) (roomy : s.queue.length < s.capacity)
    {data : ReplayKey} (other : key ≠ data) (now : Instant) :
    (s.push roomy data now).Remembers key since := by
  obtain ⟨row, member, keyed, recent, cached⟩ := remembers
  refine ⟨row, List.mem_append_left _ member, keyed, recent, ?_⟩
  show (s.cache.put data (s.seqCounter + 1)).peek key = _
  rw [Lru.peek_put (cache_roomy roomy), if_neg other, cached]

theorem Remembers.addOwned (remembers : s.Remembers key since) (lasting : window ≠ 0)
    (fresh : now ≤ since + window) {data : ReplayKey}
    (fits : data = key ∨ s.queue.length < s.capacity) :
    (s.addOwned data now window).Remembers key since := by
  have cleaned := remembers.cleanup lasting fresh
  rw [ReplayShard.addOwned, if_neg lasting]
  dsimp only
  split_ifs with present
  · exact cleaned
  · have other : key ≠ data := by
      rintro rfl
      obtain ⟨_, _, _, _, cached⟩ := cleaned
      rw [cached] at present
      exact present rfl
    have roomy : (s.cleanup now window).queue.length < (s.cleanup now window).capacity := by
      rw [(s.cleanup_shrunk now window).capacity]
      exact (s.cleanup_shrunk now window).queue.length_le.trans_lt
        (fits.resolve_left (Ne.symm other))
    simp only [makeRoom_of_roomy roomy]
    exact cleaned.push roomy other now

theorem Forgets.missed (forgets : s.Forgets key) (now : Instant) (window : Duration) :
    (s.check key now window).1 = false := by
  by_cases lasting : window = 0
  · rw [ReplayShard.check, if_pos lasting]
  · rw [check_fst lasting, forgets.cleanup now window]
    rfl

theorem forgets_of_empty (empty : s.queue = []) (key : ReplayKey) :
    s.Forgets key := by
  apply Option.eq_none_iff_forall_ne_some.mpr
  intro seq found
  obtain ⟨_, member, _⟩ := s.backed key seq found
  rw [empty] at member
  cases member

theorem evictWhile_expired {cutoff : Instant} {turns : Nat}
    (expired : ∀ row ∈ s.queue, row.stamp < cutoff) (enough : s.queue.length ≤ turns) :
    (s.evictWhile (frontBefore cutoff) turns).queue = [] := by
  induction turns generalizing s with
  | zero => exact List.eq_nil_of_length_eq_zero (Nat.le_zero.mp enough)
  | succ _ ih =>
    cases front : s.queue with
    | nil => rw [evictWhile, frontBefore, front, if_neg Bool.false_ne_true, front]
    | cons row =>
      have old : frontBefore cutoff s = true := by
        rw [frontBefore, front]
        exact decide_eq_true (expired row (front ▸ List.mem_cons_self))
      rw [evictWhile, if_pos old]
      apply ih
      · intro later member
        rw [evictQueueFront_queue] at member
        exact expired later (List.mem_of_mem_tail member)
      · rw [evictQueueFront_queue, List.length_tail]
        omega

theorem check_missed_of_expired (expired : ∀ row ∈ s.queue, row.stamp < now - window)
    (key : ReplayKey) :
    (s.check key now window).1 = false := by
  by_cases lasting : window = 0
  · rw [check, if_pos lasting]
  · have empty : (s.cleanup now window).queue = [] := by
      rw [cleanup, if_neg lasting]
      exact evictWhile_expired expired (Nat.le_refl _)
    rw [check_fst lasting, forgets_of_empty empty key]
    rfl

theorem addOwned_stamp (member : row ∈ (s.addOwned key now window).queue) :
    row ∈ s.queue ∨ row.stamp = now := by
  rcases addOwned_cases s key now window with same | cleaned | pushed
  · exact .inl (same ▸ member)
  · rw [cleaned] at member
    exact .inl ((s.cleanup_shrunk now window).queue.subset member)
  · rw [pushed] at member
    rcases List.mem_append.mp member with old | last
    · have evicted := (s.cleanup now window).makeRoom_shrunk.queue.subset old
      exact .inl ((s.cleanup_shrunk now window).queue.subset evicted)
    · exact .inr (List.mem_singleton.mp last ▸ rfl)

end ReplayShard

namespace ReplayChecker
variable {hash : ReplayKey → Nat} {c : ReplayChecker} {key : ReplayKey} {since now : Instant}

def Remembers (hash : ReplayKey → Nat) (c : ReplayChecker) (key : ReplayKey) (since : Instant) :
    Prop :=
  (c.tlsShards (getShardIdx hash key)).Remembers key since

def Forgets (hash : ReplayKey → Nat) (c : ReplayChecker) (key : ReplayKey) : Prop :=
  (c.tlsShards (getShardIdx hash key)).Forgets key

section
variable (c) (data : ReplayKey) (now)

@[simp] theorem checkTlsDigest_tlsWindow :
    (c.checkTlsDigest hash data now).2.tlsWindow = c.tlsWindow := rfl

@[simp] theorem checkTlsDigest_additions :
    (c.checkTlsDigest hash data now).2.additions = c.additions := rfl

@[simp] theorem addTlsDigest_tlsWindow :
    (c.addTlsDigest hash data now).tlsWindow = c.tlsWindow := rfl

@[simp] theorem addTlsDigest_additions :
    (c.addTlsDigest hash data now).additions = c.additions + 1 := rfl

theorem checkTlsDigest_tlsShards :
    (c.checkTlsDigest hash data now).2.tlsShards =
      Function.update c.tlsShards (getShardIdx hash data)
        ((c.tlsShards (getShardIdx hash data)).check data now c.tlsWindow).2 := rfl

theorem addTlsDigest_tlsShards :
    (c.addTlsDigest hash data now).tlsShards =
      Function.update c.tlsShards (getShardIdx hash data)
        ((c.tlsShards (getShardIdx hash data)).addOwned data now c.tlsWindow) := rfl

end

section
variable (remembers : c.Remembers hash key since) (fresh : now ≤ since + c.tlsWindow)
include remembers fresh

theorem Remembers.found : (c.checkTlsDigest hash key now).1 = true :=
  ReplayShard.Remembers.found remembers c.tlsWindow_ne_zero fresh

theorem Remembers.checkTlsDigest (data : ReplayKey) :
    (c.checkTlsDigest hash data now).2.Remembers hash key since := by
  rw [Remembers, checkTlsDigest_tlsShards, Function.update_apply]
  split_ifs with same
  · rw [← same]
    exact ReplayShard.Remembers.check remembers c.tlsWindow_ne_zero fresh data
  · exact remembers

theorem Remembers.addTlsDigest {data : ReplayKey}
    (fits : data = key ∨ (c.tlsShards (getShardIdx hash data)).queue.length <
      (c.tlsShards (getShardIdx hash data)).capacity) :
    (c.addTlsDigest hash data now).Remembers hash key since := by
  rw [Remembers, addTlsDigest_tlsShards, Function.update_apply]
  split_ifs with same
  · rw [← same] at fits ⊢
    exact ReplayShard.Remembers.addOwned remembers c.tlsWindow_ne_zero fresh fits
  · exact remembers

theorem Remembers.runPeriodicCleanup : (c.runPeriodicCleanup now).Remembers hash key since :=
  ReplayShard.Remembers.cleanup remembers c.tlsWindow_ne_zero fresh

end

theorem checkTlsDigest_forgets (missed : (c.checkTlsDigest hash key now).1 = false) :
    (c.checkTlsDigest hash key now).2.Forgets hash key := by
  rw [Forgets, checkTlsDigest_tlsShards, Function.update_self]
  exact ReplayShard.check_forgets c.tlsWindow_ne_zero missed

variable (totalCapacity : Nat) (window : Duration)

theorem forgets_new (key : ReplayKey) : (new totalCapacity window).Forgets hash key := rfl

theorem Forgets.missed (forgets : c.Forgets hash key) (now : Instant) :
    (c.checkTlsDigest hash key now).1 = false :=
  ReplayShard.Forgets.missed forgets now c.tlsWindow

theorem Forgets.runPeriodicCleanup (forgets : c.Forgets hash key) (now : Instant) :
    (c.runPeriodicCleanup now).Forgets hash key :=
  ReplayShard.Forgets.cleanup forgets now c.tlsWindow

theorem Forgets.addTlsDigest (forgets : c.Forgets hash key) (now : Instant) :
    (c.addTlsDigest hash key now).Remembers hash key now := by
  rw [Remembers, addTlsDigest_tlsShards, Function.update_self]
  exact ReplayShard.Forgets.addOwned forgets c.tlsWindow_ne_zero now

structure Filled (c : ReplayChecker) (capacity : Nat) : Prop where
  capacity_eq : ∀ idx, (c.tlsShards idx).capacity = capacity
  queue_le : ∀ idx, (c.tlsShards idx).queue.length ≤ c.additions

theorem filled_new : (new totalCapacity window).Filled (shardCapacity totalCapacity) :=
  ⟨fun _ => rfl, fun _ => Nat.zero_le _⟩

variable {capacity : Nat}

section
variable (filled : c.Filled capacity) (data : ReplayKey)
include filled

theorem Filled.checkTlsDigest (now : Instant) :
    (c.checkTlsDigest hash data now).2.Filled capacity := by
  have shrunk := (c.tlsShards (getShardIdx hash data)).check_shrunk data now c.tlsWindow
  refine ⟨fun idx => ?_, fun idx => ?_⟩
  · rw [checkTlsDigest_tlsShards, Function.update_apply]
    split_ifs
    · exact shrunk.capacity.trans (filled.capacity_eq _)
    · exact filled.capacity_eq idx
  · rw [checkTlsDigest_tlsShards, checkTlsDigest_additions, Function.update_apply]
    split_ifs
    · exact shrunk.queue.length_le.trans (filled.queue_le _)
    · exact filled.queue_le idx

theorem Filled.addTlsDigest (now : Instant) : (c.addTlsDigest hash data now).Filled capacity := by
  refine ⟨fun idx => ?_, fun idx => ?_⟩
  · rw [addTlsDigest_tlsShards, Function.update_apply]
    split_ifs
    · exact (ReplayShard.addOwned_capacity _ data now _).trans (filled.capacity_eq _)
    · exact filled.capacity_eq idx
  · rw [addTlsDigest_tlsShards, addTlsDigest_additions, Function.update_apply]
    split_ifs
    · exact (ReplayShard.addOwned_queue_length _ data now _).trans
        (Nat.succ_le_succ (filled.queue_le _))
    · exact (filled.queue_le idx).trans (Nat.le_succ _)

theorem Filled.runPeriodicCleanup (now : Instant) : (c.runPeriodicCleanup now).Filled capacity := by
  refine ⟨fun idx => ?_, fun idx => ?_⟩
  · exact (ReplayShard.cleanup_shrunk _ now _).capacity.trans (filled.capacity_eq idx)
  · exact (ReplayShard.cleanup_shrunk _ now _).queue.length_le.trans (filled.queue_le idx)

end

def StampedBy (c : ReplayChecker) (latest : Instant) : Prop :=
  ∀ idx, ∀ row ∈ (c.tlsShards idx).queue, row.stamp ≤ latest

theorem stampedBy_new (latest : Instant) : (new totalCapacity window).StampedBy latest :=
  nofun

theorem StampedBy.checkTlsDigest {latest : Instant} (stamped : c.StampedBy latest)
    (data : ReplayKey) (now : Instant) :
    (c.checkTlsDigest hash data now).2.StampedBy latest := by
  intro idx row member
  rw [checkTlsDigest_tlsShards, Function.update_apply] at member
  split_ifs at member
  · exact stamped _ row ((ReplayShard.check_shrunk _ _ _ _).queue.subset member)
  · exact stamped idx row member

theorem StampedBy.addTlsDigest (stamped : c.StampedBy now) (data : ReplayKey) :
    (c.addTlsDigest hash data now).StampedBy now := by
  intro idx row member
  rw [addTlsDigest_tlsShards, Function.update_apply] at member
  split_ifs at member
  · rcases ReplayShard.addOwned_stamp member with old | inserted
    · exact stamped _ row old
    · exact inserted.le
  · exact stamped idx row member

theorem StampedBy.missed {latest : Instant} (stamped : c.StampedBy latest)
    (expired : latest < now - c.tlsWindow) (data : ReplayKey) :
    (c.checkTlsDigest hash data now).1 = false :=
  ReplayShard.check_missed_of_expired (fun row member => (stamped _ row member).trans_lt expired)
    data

end ReplayChecker

end Telemt
