import Telemt.Basic
import Telemt.Foundation.Lru

namespace Telemt
open Foundation

/-!
# The replay cache

Keys compare and hash as byte slices whether they are stored inline or on the heap, so a key is its
bytes. The queue keeps insertion order; a cached key always has the queue row of its insertion, and
that row carries the same sequence number.
-/

abbrev ReplayKey := List UInt8

structure QueuedKey where
  stamp : Instant
  key : ReplayKey
  seq : Nat
  deriving DecidableEq, Repr

structure ReplayShard where
  cache : Lru ReplayKey Nat
  queue : List QueuedKey
  seqCounter : Nat
  capacity : Nat
  sized : cache.cap = capacity
  short : queue.length ≤ capacity
  ordered : queue.Pairwise fun row later => row.seq < later.seq
  issued : ∀ row ∈ queue, row.seq ≤ seqCounter
  backed : ∀ key seq, cache.peek key = some seq → ∃ row ∈ queue, row.key = key ∧ row.seq = seq

namespace ReplayShard

def new (cap : Nat) (room : 0 < cap) : ReplayShard where
  cache := Lru.new cap room
  queue := []
  seqCounter := 0
  capacity := cap
  sized := rfl
  short := Nat.zero_le cap
  ordered := List.Pairwise.nil
  issued := by simp
  backed := by simp

def clear (s : ReplayShard) : ReplayShard where
  cache := s.cache.clear
  queue := []
  seqCounter := s.seqCounter
  capacity := s.capacity
  sized := s.sized
  short := Nat.zero_le s.capacity
  ordered := List.Pairwise.nil
  issued := by simp
  backed := by simp

def dropRow (cache : Lru ReplayKey Nat) (row : QueuedKey) : Lru ReplayKey Nat :=
  if cache.peek row.key = some row.seq then cache.pop row.key else cache

theorem cap_dropRow (cache : Lru ReplayKey Nat) (row : QueuedKey) :
    (dropRow cache row).cap = cache.cap := by
  unfold dropRow
  split_ifs <;> rfl

theorem peek_dropRow {cache : Lru ReplayKey Nat} {row : QueuedKey} {key : ReplayKey} {seq : Nat} :
    (dropRow cache row).peek key = some seq ↔
      cache.peek key = some seq ∧ ¬(row.key = key ∧ row.seq = seq) := by
  unfold dropRow
  split_ifs with current
  · rw [Lru.peek_pop]
    split_ifs with same
    · subst same
      simp [current]
    · simp [Ne.symm same]
  · refine ⟨fun found => ⟨found, ?_⟩, And.left⟩
    rintro ⟨rfl, rfl⟩
    exact current found

variable {s : ReplayShard}

theorem backed_rest {row : QueuedKey} {rest : List QueuedKey} (front : s.queue = row :: rest)
    (key : ReplayKey) (seq : Nat) (found : (dropRow s.cache row).peek key = some seq) :
    ∃ row ∈ rest, row.key = key ∧ row.seq = seq := by
  obtain ⟨cached, notFront⟩ := peek_dropRow.mp found
  obtain ⟨owner, member, keyed⟩ := s.backed key seq cached
  rw [front] at member
  rcases List.mem_cons.mp member with rfl | member
  · exact absurd keyed notFront
  · exact ⟨owner, member, keyed⟩

def evictQueueFront (s : ReplayShard) : ReplayShard :=
  match front : s.queue with
  | [] => s
  | row :: rest =>
    { s with
      cache := dropRow s.cache row
      queue := rest
      sized := (cap_dropRow s.cache row).trans s.sized
      short := (Nat.le_succ rest.length).trans (by simpa [front] using s.short)
      ordered := (List.pairwise_cons.mp (front ▸ s.ordered)).2
      issued := fun later member => s.issued later (front ▸ List.mem_cons_of_mem row member)
      backed := backed_rest front }

-- A `while` loop that pops queue fronts; every turn shortens the queue, whose length is the fuel.
def evictWhile (stale : ReplayShard → Bool) : Nat → ReplayShard → ReplayShard
  | 0, s => s
  | turns + 1, s => if stale s then evictWhile stale turns s.evictQueueFront else s

def frontBefore (cutoff : Instant) (s : ReplayShard) : Bool :=
  match s.queue with
  | [] => false
  | row :: _ => decide (row.stamp < cutoff)

def cleanup (s : ReplayShard) (now : Instant) (window : Duration) : ReplayShard :=
  if window = 0 then s.clear
  else s.evictWhile (frontBefore (now - window)) s.queue.length

def full (s : ReplayShard) : Bool := decide (s.capacity ≤ s.queue.length)

def makeRoom (s : ReplayShard) : ReplayShard := s.evictWhile full s.queue.length

def check (s : ReplayShard) (key : ReplayKey) (now : Instant) (window : Duration) :
    Bool × ReplayShard :=
  if window = 0 then (false, s)
  else
    let s := s.cleanup now window
    ((s.cache.get key).1.isSome,
      { s with
        cache := (s.cache.get key).2
        sized := (s.cache.cap_get key).trans s.sized
        backed := fun k seq found => s.backed k seq ((s.cache.peek_get key k).symm.trans found) })

theorem size_cache_le (s : ReplayShard) : s.cache.size ≤ s.queue.length := by
  have bound : s.cache.size ≤ (s.queue.map QueuedKey.key).length := by
    apply Lru.size_le_of_backed
    intro key seq found
    obtain ⟨_, member, keyed, _⟩ := s.backed key seq found
    exact keyed ▸ List.mem_map_of_mem member
  simpa using bound

theorem cache_roomy (roomy : s.queue.length < s.capacity) :
    s.cache.size < s.cache.cap := by
  rw [s.sized]
  exact s.size_cache_le.trans_lt roomy

def push (s : ReplayShard) (roomy : s.queue.length < s.capacity) (key : ReplayKey) (now : Instant) :
    ReplayShard where
  cache := s.cache.put key (s.seqCounter + 1)
  queue := s.queue ++ [⟨now, key, s.seqCounter + 1⟩]
  seqCounter := s.seqCounter + 1
  capacity := s.capacity
  sized := (s.cache.cap_put key (s.seqCounter + 1)).trans s.sized
  short := by
    rw [List.length_append]
    exact roomy
  ordered := by
    refine List.pairwise_append.mpr ⟨s.ordered, List.pairwise_singleton _ _, ?_⟩
    intro row member last isLast
    rw [List.mem_singleton.mp isLast]
    exact Nat.lt_succ_of_le (s.issued row member)
  issued := by
    intro row member
    rcases List.mem_append.mp member with old | last
    · exact (s.issued row old).trans (Nat.le_succ _)
    · exact (List.mem_singleton.mp last) ▸ Nat.le_refl _
  backed := by
    intro k seq found
    rw [Lru.peek_put (cache_roomy roomy)] at found
    split_ifs at found with same
    · exact ⟨_, List.mem_append_right _ (List.mem_singleton_self _), same.symm,
        Option.some.inj found⟩
    · obtain ⟨row, member, keyed⟩ := s.backed k seq found
      exact ⟨row, List.mem_append_left _ member, keyed⟩

theorem capacity_pos (s : ReplayShard) : 0 < s.capacity := s.sized ▸ s.cache.room

@[simp] theorem evictQueueFront_queue (s : ReplayShard) :
    s.evictQueueFront.queue = s.queue.tail := by
  unfold evictQueueFront
  split
  · next empty => rw [empty, List.tail_nil]
  · next front => exact (congrArg List.tail front).symm

@[simp] theorem evictQueueFront_capacity (s : ReplayShard) :
    s.evictQueueFront.capacity = s.capacity := by
  unfold evictQueueFront
  split <;> rfl

theorem evictWhile_keeps {stale : ReplayShard → Bool} (P : ReplayShard → Prop)
    (evicts : ∀ s, stale s = true → P s → P s.evictQueueFront) (turns : Nat)
    (holds : P s) : P (s.evictWhile stale turns) := by
  induction turns generalizing s with
  | zero => exact holds
  | succ _ ih =>
    unfold evictWhile
    split_ifs with isStale
    · exact ih (evicts s isStale holds)
    · exact holds

theorem evictQueueFront_seqCounter (s : ReplayShard) :
    s.evictQueueFront.seqCounter = s.seqCounter := by
  unfold evictQueueFront
  split <;> rfl

structure Shrunk (s t : ReplayShard) : Prop where
  capacity : t.capacity = s.capacity
  seqCounter : t.seqCounter = s.seqCounter
  queue : t.queue <:+ s.queue

theorem evictWhile_shrunk (stale : ReplayShard → Bool) (turns : Nat) (s : ReplayShard) :
    s.Shrunk (s.evictWhile stale turns) := by
  refine evictWhile_keeps s.Shrunk (fun t _ shrunk => ⟨?_, ?_, ?_⟩) turns ⟨rfl, rfl, List.suffix_rfl⟩
  · rw [evictQueueFront_capacity, shrunk.capacity]
  · rw [evictQueueFront_seqCounter, shrunk.seqCounter]
  · rw [evictQueueFront_queue]
    exact (List.tail_suffix t.queue).trans shrunk.queue

theorem evictWhile_done {stale : ReplayShard → Bool} {turns : Nat}
    (empty : ∀ s, s.queue = [] → stale s = false) (enough : s.queue.length ≤ turns) :
    stale (s.evictWhile stale turns) = false := by
  induction turns generalizing s with
  | zero => exact empty s (List.eq_nil_of_length_eq_zero (Nat.le_zero.mp enough))
  | succ _ ih =>
    unfold evictWhile
    split_ifs with isStale
    · apply ih
      rw [evictQueueFront_queue, List.length_tail]
      omega
    · exact Bool.eq_false_iff.mpr isStale

theorem makeRoom_shrunk (s : ReplayShard) : s.Shrunk s.makeRoom :=
  evictWhile_shrunk full s.queue.length s

theorem makeRoom_roomy (s : ReplayShard) : s.makeRoom.queue.length < s.makeRoom.capacity := by
  have done : full s.makeRoom = false := evictWhile_done
    (fun t empty => by simp [full, empty, t.capacity_pos.ne']) (Nat.le_refl s.queue.length)
  exact Nat.lt_of_not_le (of_decide_eq_false done)

def addOwned (s : ReplayShard) (key : ReplayKey) (now : Instant) (window : Duration) :
    ReplayShard :=
  if window = 0 then s
  else
    let s := s.cleanup now window
    if (s.cache.peek key).isSome then s
    else s.makeRoom.push s.makeRoom_roomy key now

end ReplayShard

def numShards : Nat := 64

instance : NeZero numShards := ⟨by decide⟩

abbrev ReplayShards := Fin numShards → ReplayShard

def minTlsReplayWindow : Duration := Duration.fromSecs 120

structure ReplayChecker where
  handshakeShards : ReplayShards
  tlsShards : ReplayShards
  window : Duration
  tlsWindow : Duration
  checks : Nat
  hits : Nat
  additions : Nat
  cleanups : Nat
  tlsFloor : minTlsReplayWindow ≤ tlsWindow

namespace ReplayChecker
variable (totalCapacity : Nat)

def shardCapacity : Nat := max (totalCapacity / numShards) 1

theorem shardCapacity_pos : 0 < shardCapacity totalCapacity :=
  Nat.lt_of_lt_of_le Nat.one_pos (Nat.le_max_right _ _)

def new (window : Duration) : ReplayChecker where
  handshakeShards := fun _ => ReplayShard.new _ (shardCapacity_pos totalCapacity)
  tlsShards := fun _ => ReplayShard.new _ (shardCapacity_pos totalCapacity)
  window := window
  tlsWindow := max window minTlsReplayWindow
  checks := 0
  hits := 0
  additions := 0
  cleanups := 0
  tlsFloor := Nat.le_max_right _ _

theorem tlsWindow_ne_zero (c : ReplayChecker) : c.tlsWindow ≠ 0 :=
  Nat.ne_of_gt (Nat.lt_of_lt_of_le (by decide) c.tlsFloor)

section
variable (hash : ReplayKey → Nat)

def getShardIdx (key : ReplayKey) : Fin numShards := Fin.ofNat numShards (hash key)

variable (c : ReplayChecker) (data : ReplayKey)

def checkOnlyInternal (shards : ReplayShards) (window : Duration) (now : Instant) :
    Bool × ReplayShards × ReplayChecker :=
  let idx := getShardIdx hash data
  let (found, shard) := (shards idx).check data now window
  (found, Function.update shards idx shard,
    { c with checks := c.checks + 1, hits := if found then c.hits + 1 else c.hits })

def addOnly (shards : ReplayShards) (window : Duration) (now : Instant) :
    ReplayShards × ReplayChecker :=
  let idx := getShardIdx hash data
  (Function.update shards idx ((shards idx).addOwned data now window),
    { c with additions := c.additions + 1 })

def checkTlsDigest (now : Instant) : Bool × ReplayChecker :=
  let (found, shards, c) := checkOnlyInternal hash c data c.tlsShards c.tlsWindow now
  (found, { c with tlsShards := shards })

def addTlsDigest (now : Instant) : ReplayChecker :=
  let (shards, c) := addOnly hash c data c.tlsShards c.tlsWindow now
  { c with tlsShards := shards }

end

def runPeriodicCleanup (c : ReplayChecker) (now : Instant) : ReplayChecker :=
  { c with
    handshakeShards := fun idx => (c.handshakeShards idx).cleanup now c.window
    tlsShards := fun idx => (c.tlsShards idx).cleanup now c.tlsWindow
    cleanups := c.cleanups + 1 }

end ReplayChecker

end Telemt
