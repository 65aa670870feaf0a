import Mathlib.Data.Finset.Card
import Telemt.Foundation.Run
import Telemt.Replay.Memory

namespace Telemt
open Foundation

/-!
# The replay cache remembers exactly its window

An insertion leaves the queue when it has expired, or when as many other keys as the shard has room
for have been inserted after it. Sequence numbers tell which insertion came after which.
-/

namespace ReplayShard

def newerKeys (inserted : List QueuedKey) (row : QueuedKey) : Finset ReplayKey :=
  ((inserted.filter (row.seq < ·.seq)).map QueuedKey.key).toFinset

/-- All rows ever inserted, of which the queue holds the newest; `coming` will be inserted next. -/
structure Traced (s : ReplayShard) (inserted coming : List QueuedKey) (cutoff : Instant) : Prop where
  queued : ∀ row ∈ s.queue, row ∈ inserted ∧ s.cache.peek row.key = some row.seq
  later : ∀ row ∈ s.queue, ∀ newer ∈ inserted, row.seq < newer.seq →
    newer ∈ s.queue ∧ row.stamp ≤ newer.stamp
  lost : ∀ row ∈ inserted, row ∉ s.queue →
    row.stamp < cutoff ∨ s.capacity ≤ (newerKeys (inserted ++ coming) row).card

variable {s : ReplayShard} {inserted coming : List QueuedKey} {cutoff now : Instant}
  {key : ReplayKey} {row : QueuedKey} {rest : List QueuedKey} {window : Duration}

theorem mem_newerKeys :
    key ∈ newerKeys inserted row ↔ ∃ newer ∈ inserted, row.seq < newer.seq ∧ newer.key = key := by
  simp [newerKeys, and_assoc]

theorem card_newerKeys_lt {rows : List QueuedKey} (member : row ∈ rows) :
    (newerKeys rows row).card < rows.length := by
  have bound := List.toFinset_card_le ((rows.filter (row.seq < ·.seq)).map QueuedKey.key)
  rw [List.length_map] at bound
  exact bound.trans_lt (List.length_filter_lt_length_iff_exists.mpr ⟨row, member, by simp⟩)

namespace Traced

section
variable (traced : s.Traced inserted coming cutoff)
include traced

theorem nodup : (s.queue.map QueuedKey.key).Nodup := by
  apply List.pairwise_map.mpr
  apply s.ordered.imp_of_mem
  intro row later member member' earlier same
  have seqs := (traced.queued later member').2
  rw [← same, (traced.queued row member).2] at seqs
  exact earlier.ne (Option.some.inj seqs)

theorem newerKeys_eq (member : row ∈ s.queue) : newerKeys inserted row = newerKeys s.queue row := by
  have queued := traced.queued
  have later := traced.later row member
  ext key
  rw [mem_newerKeys, mem_newerKeys]
  grind

theorem evictQueueFront (front : s.queue = row :: rest)
    (spent : row.stamp < cutoff ∨ s.capacity ≤ (newerKeys (inserted ++ coming) row).card) :
    s.evictQueueFront.Traced inserted coming cutoff := by
  have queue : s.evictQueueFront.queue = rest := by rw [evictQueueFront_queue, front, List.tail_cons]
  have older := (List.pairwise_cons.mp (front ▸ s.ordered)).1
  refine ⟨fun x member => ?_, fun x member newer known after => ?_, fun x known gone => ?_⟩
  · rw [queue] at member
    obtain ⟨known, cached⟩ := traced.queued x (front ▸ List.mem_cons_of_mem row member)
    rw [evictQueueFront_cache front]
    exact ⟨known, peek_dropRow.mpr ⟨cached, fun same => (older x member).ne same.2⟩⟩
  · have later := traced.later x
    grind
  · rw [evictQueueFront_capacity]
    have lost := traced.lost x known
    grind

theorem fresh (front : frontBefore cutoff s = false) : ∀ row ∈ s.queue, cutoff ≤ row.stamp := by
  cases queue : s.queue with
  | nil => simp
  | cons first =>
    have inTime : cutoff ≤ first.stamp := by simpa [frontBefore, queue] using front
    refine List.forall_mem_cons.mpr ⟨inTime, fun row member => inTime.trans ?_⟩
    have older := (List.pairwise_cons.mp (queue ▸ s.ordered)).1 row member
    have known := (traced.queued row (queue ▸ List.mem_cons_of_mem first member)).1
    exact (traced.later first (queue ▸ List.mem_cons_self) row known older).2

end

theorem cleanup (traced : s.Traced inserted [] cutoff) (lasting : window ≠ 0)
    (le : cutoff ≤ now - window) :
    (s.cleanup now window).Traced inserted [] (now - window) ∧
      ∀ row ∈ (s.cleanup now window).queue, now - window ≤ row.stamp := by
  have later : s.Traced inserted [] (now - window) := ⟨traced.queued, traced.later,
    fun row known gone => (traced.lost row known gone).imp_left (·.trans_le le)⟩
  rw [ReplayShard.cleanup, if_neg lasting]
  have cleaned : (s.evictWhile (frontBefore (now - window)) s.queue.length).Traced inserted []
      (now - window) := by
    refine evictWhile_keeps (·.Traced inserted [] (now - window)) (fun t stale traced => ?_) _ later
    cases front : t.queue with
    | nil => simp [frontBefore, front] at stale
    | cons =>
      exact traced.evictQueueFront front (.inl (by simpa [frontBefore, front] using stale))
  have done := @evictWhile_done s (frontBefore (now - window)) s.queue.length
    (fun t empty => by simp [frontBefore, empty]) le_rfl
  exact ⟨cleaned, cleaned.fresh done⟩

/-- The keys of a full queue and the coming one are all different. -/
theorem makeRoom {new : QueuedKey} (traced : s.Traced inserted [] cutoff)
    (differs : ∀ row ∈ s.queue, row.key ≠ new.key ∧ row.seq < new.seq) :
    s.makeRoom.Traced inserted [new] cutoff := by
  have expecting : s.Traced inserted [new] cutoff := by
    refine ⟨traced.queued, traced.later, fun row known gone => ?_⟩
    refine (traced.lost row known gone).imp_right fun many => many.trans (Finset.card_le_card ?_)
    intro key
    simp only [mem_newerKeys]
    grind
  refine (evictWhile_keeps (fun t => t.Traced inserted [new] cutoff ∧
    ∀ row ∈ t.queue, row.key ≠ new.key ∧ row.seq < new.seq) (fun t isFull kept => ?_) _
    ⟨expecting, differs⟩).1
  obtain ⟨traced, differs⟩ := kept
  have nodup := traced.nodup
  have ordered := t.ordered
  cases front : t.queue with
  | nil => simp [full, front, t.capacity_pos.ne'] at isFull
  | cons row rest =>
    rw [front] at nodup ordered
    refine ⟨traced.evictQueueFront front (.inr ?_), fun row member => differs row ?_⟩
    · have others : (new.key :: rest.map QueuedKey.key).Nodup := by
        refine List.nodup_cons.mpr ⟨fun member => ?_, (List.nodup_cons.mp nodup).2⟩
        obtain ⟨x, inside, same⟩ := List.mem_map.mp member
        exact (differs x (front ▸ List.mem_cons_of_mem row inside)).1 same
      have many : t.capacity ≤ (new.key :: rest.map QueuedKey.key).length := by
        simpa [full, front] using isFull
      rw [← List.toFinset_card_of_nodup others] at many
      refine many.trans (Finset.card_le_card fun key member => mem_newerKeys.mpr ?_)
      rcases List.mem_cons.mp (List.mem_toFinset.mp member) with rfl | old
      · exact ⟨new, by simp, (differs row (by simp [front])).2, rfl⟩
      · obtain ⟨x, inside, keyed⟩ := List.mem_map.mp old
        have known := (traced.queued x (front ▸ List.mem_cons_of_mem row inside)).1
        exact ⟨x, List.mem_append_left _ known, (List.pairwise_cons.mp ordered).1 x inside, keyed⟩
    · rw [evictQueueFront_queue] at member
      exact List.mem_of_mem_tail member

theorem push (roomy : s.queue.length < s.capacity)
    (traced : s.Traced inserted [⟨now, key, s.seqCounter + 1⟩] cutoff)
    (issued : ∀ row ∈ inserted, row.stamp ≤ now ∧ row.seq ≤ s.seqCounter)
    (differs : ∀ row ∈ s.queue, row.key ≠ key) :
    (s.push roomy key now).Traced (inserted ++ [⟨now, key, s.seqCounter + 1⟩]) [] cutoff := by
  let new : QueuedKey := ⟨now, key, s.seqCounter + 1⟩
  have inQueue (row : QueuedKey) : row ∈ (s.push roomy key now).queue ↔ row ∈ s.queue ∨ row = new := by
    simp [ReplayShard.push, new]
  refine ⟨fun row member => ?_, fun row member newer known after => ?_, fun row known gone => ?_⟩
  · show _ ∧ (s.cache.put key (s.seqCounter + 1)).peek row.key = _
    rw [Lru.peek_put (cache_roomy roomy)]
    have queued := traced.queued row
    grind
  · have later := traced.later row
    have queued := traced.queued row
    grind
  · have lost := traced.lost row
    grind [ReplayShard.push]

end Traced

end ReplayShard

open ReplayShard

inductive ReplayCall
  | check (key : ReplayKey)
  | addOwned (key : ReplayKey)

/-- A shard with everything that was ever inserted, in that order. -/
structure RecordedShard where
  shard : ReplayShard
  inserted : List QueuedKey := []
  clock : Instant

namespace RecordedShard

def apply (window : Duration) (r : RecordedShard) (now : Instant) : ReplayCall → RecordedShard
  | .check key => { r with shard := (r.shard.check key now window).2, clock := now }
  | .addOwned key =>
    let shard := r.shard.addOwned key now window
    { shard
      inserted :=
        if shard.seqCounter = r.shard.seqCounter then r.inserted
        else r.inserted ++ [⟨now, key, shard.seqCounter⟩]
      clock := now }

-- The clock never goes back.
def step (window : Duration) (r : RecordedShard) (call : Instant × ReplayCall) :
    Option RecordedShard :=
  if r.clock ≤ call.1 then some (r.apply window call.1 call.2) else none

structure Exact (cap : Nat) (window : Duration) (r : RecordedShard) : Prop where
  traced : r.shard.Traced r.inserted [] (r.clock - window)
  issued : ∀ row ∈ r.inserted, row.stamp ≤ r.clock ∧ row.seq ≤ r.shard.seqCounter
  ordered : r.inserted.Pairwise fun row later => row.seq < later.seq
  capacity : r.shard.capacity = cap

/-- The most recent insertion of a key. -/
def LastInserted (r : RecordedShard) (key : ReplayKey) (row : QueuedKey) : Prop :=
  row ∈ r.inserted ∧ row.key = key ∧ key ∉ newerKeys r.inserted row

namespace Exact
variable {cap : Nat} {window : Duration} {r next : RecordedShard} {now : Instant} {key : ReplayKey}
  (sound : r.Exact cap window) (lasting : window ≠ 0)
include sound lasting

theorem check (le : r.clock ≤ now) : (r.apply window now (.check key)).Exact cap window := by
  obtain ⟨cleaned, _⟩ := sound.traced.cleanup lasting (Int.sub_le_sub_right le window)
  have shrunk := r.shard.check_shrunk key now window
  refine ⟨?_, fun row member => ⟨(sound.issued row member).1.trans le, ?_⟩, sound.ordered,
    shrunk.capacity.trans sound.capacity⟩
  · rw [apply, ReplayShard.check, if_neg lasting]
    refine ⟨fun row member => ?_, cleaned.later, cleaned.lost⟩
    exact ⟨(cleaned.queued row member).1, (Lru.peek_get _ key _).trans (cleaned.queued row member).2⟩
  · exact (sound.issued row member).2.trans_eq shrunk.seqCounter.symm

theorem addOwned (le : r.clock ≤ now) : (r.apply window now (.addOwned key)).Exact cap window := by
  obtain ⟨cleaned, _⟩ := sound.traced.cleanup lasting (Int.sub_le_sub_right le window)
  have seqs := (r.shard.cleanup_shrunk now window).seqCounter
  have issued (row : QueuedKey) (member : row ∈ r.inserted) :
      row.stamp ≤ now ∧ row.seq ≤ (r.shard.cleanup now window).seqCounter :=
    ⟨(sound.issued row member).1.trans le, (sound.issued row member).2.trans_eq seqs.symm⟩
  have capacity := (addOwned_capacity r.shard key now window).trans sound.capacity
  rw [apply]
  rw [ReplayShard.addOwned, if_neg lasting] at capacity ⊢
  dsimp only at capacity ⊢
  rw [← seqs]
  generalize r.shard.cleanup now window = s at *
  have counted := s.makeRoom_shrunk.seqCounter
  split_ifs at capacity ⊢ with present same same
  · exact ⟨cleaned, issued, sound.ordered, capacity⟩
  · exact absurd rfl same
  · exact absurd (same.trans counted.symm) (Nat.succ_ne_self _)
  · have differs (row : QueuedKey) (member : row ∈ s.queue) :
        row.key ≠ key ∧ row.seq < s.seqCounter + 1 := by
      obtain ⟨known, cached⟩ := cleaned.queued row member
      refine ⟨?_, Nat.lt_succ_of_le (issued row known).2⟩
      rintro rfl
      exact present (cached ▸ rfl)
    have roomy : s.makeRoom.Traced r.inserted [⟨now, key, s.seqCounter + 1⟩] (now - window) :=
      cleaned.makeRoom differs
    rw [← counted] at roomy issued
    refine ⟨roomy.push (makeRoom_roomy s) issued fun row member =>
      (differs row (s.makeRoom_shrunk.queue.subset member)).1, ?_, ?_, capacity⟩
    · grind [ReplayShard.push]
    · refine List.pairwise_append.mpr ⟨sound.ordered, List.pairwise_singleton _ _, ?_⟩
      intro row member new isNew
      rw [List.mem_singleton.mp isNew]
      exact Nat.lt_succ_of_le (issued row member).2

theorem step {call : Instant × ReplayCall} (moved : r.step window call = some next) :
    next.Exact cap window := by
  obtain ⟨_, _ | _⟩ := call
  all_goals
    rw [RecordedShard.step] at moved
    split_ifs at moved with le
    cases moved
  · exact sound.check lasting le
  · exact sound.addOwned lasting le

theorem found_iff (le : r.clock ≤ now) :
    (r.shard.check key now window).1 = true ↔
      ∃ row, r.LastInserted key row ∧ now - window ≤ row.stamp ∧
        (newerKeys r.inserted row).card < cap := by
  obtain ⟨cleaned, fresh⟩ := sound.traced.cleanup lasting (Int.sub_le_sub_right le window)
  have capacity := (r.shard.cleanup_shrunk now window).capacity.trans sound.capacity
  rw [check_fst lasting]
  generalize r.shard.cleanup now window = s at *
  constructor
  · intro found
    obtain ⟨seq, cached⟩ := Option.isSome_iff_exists.mp found
    obtain ⟨row, member, rfl, rfl⟩ := s.backed key seq cached
    refine ⟨row, ⟨(cleaned.queued row member).1, rfl, ?_⟩, fresh row member, ?_⟩
    · rw [cleaned.newerKeys_eq member, mem_newerKeys]
      rintro ⟨newer, inside, after, keyed⟩
      have same := (cleaned.queued newer inside).2
      rw [keyed, cached] at same
      exact after.ne (Option.some.inj same)
    · rw [cleaned.newerKeys_eq member]
      exact (card_newerKeys_lt member).trans_le (s.short.trans_eq capacity)
  · rintro ⟨row, ⟨known, rfl, _⟩, inTime, few⟩
    by_cases member : row ∈ s.queue
    · rw [(cleaned.queued row member).2]
      rfl
    · rcases cleaned.lost row known member with expired | many
      · exact absurd inTime (not_le.mpr expired)
      · rw [List.append_nil, capacity] at many
        exact absurd few (not_lt.mpr many)

end Exact

end RecordedShard

/-- The numbers of the insertions follow their order, so the rows with a greater one came later. -/
theorem replay_shard_remembers_window (cap : Nat) (room : 0 < cap) (window : Duration)
    (lasting : window ≠ 0) (start : Instant) (calls : List (Instant × ReplayCall)) (r : RecordedShard)
    (run : runFrom (RecordedShard.step window) ⟨.new cap room, [], start⟩ calls = some r) :
    r.shard.queue.length ≤ cap ∧ r.inserted.Pairwise (fun row later => row.seq < later.seq) ∧
    ∀ key now, r.clock ≤ now →
      ((r.shard.check key now window).1 = true ↔
        ∃ row, r.LastInserted key row ∧ now - window ≤ row.stamp ∧
          (newerKeys r.inserted row).card < cap) := by
  have new : RecordedShard.Exact cap window ⟨.new cap room, [], start⟩ := by
    refine ⟨⟨?_, ?_, ?_⟩, ?_, List.Pairwise.nil, rfl⟩ <;> simp [ReplayShard.new]
  have sound := runFrom_invariant (RecordedShard.Exact cap window)
    (fun _ _ _ _ sound moved => RecordedShard.Exact.step sound lasting moved)
    (guarded_of_mem (fun _ _ _ => trivial) _) new run
  exact ⟨sound.capacity ▸ r.shard.short, sound.ordered, fun key now le => sound.found_iff lasting le⟩

def twoInsertions : List (Instant × ReplayCall) :=
  [(10, .addOwned [1]), (12, .addOwned [2]), (13, .check [1])]

-- Room for one key: the second insertion pushes the first one out.
theorem pushed_out_key_is_forgotten :
    ∃ r, runFrom (RecordedShard.step 5) ⟨.new 1 Nat.one_pos, [], 10⟩ twoInsertions = some r ∧
      r.shard.queue.length ≤ 1 ∧ (r.shard.check [1] 14 5).1 = false ∧
      (r.shard.check [2] 14 5).1 = true := by
  have reached : (runFrom (RecordedShard.step 5) ⟨.new 1 Nat.one_pos, [], 10⟩ twoInsertions).map
      (fun r => ((r.shard.check [1] 14 5).1, (r.shard.check [2] 14 5).1)) = some (false, true) := by
    decide +kernel
  obtain ⟨r, run, answers⟩ := Option.map_eq_some_iff.mp reached
  obtain ⟨first, second⟩ := Prod.mk.inj answers
  exact ⟨r, run, (replay_shard_remembers_window 1 _ 5 (by decide) 10 _ r run).1, first, second⟩

end Telemt
