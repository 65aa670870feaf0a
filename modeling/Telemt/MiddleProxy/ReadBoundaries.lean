import Telemt.MiddleProxy.FrameReader

namespace Telemt.MiddleProxy
open Foundation

/-! # Where the reads of a connection end -/

def Parsed.extend (more : Bytes) : Parsed → Parsed
  | .wait => .wait
  | .noop rest => .noop (rest ++ more)
  | .invalid frameLen => .invalid frameLen
  | .failed reason => .failed reason
  | .frame payload rest => .frame payload (rest ++ more)

section
variable {crc : Bytes → UInt32} {expectedSeq : UInt32} {dec : Bytes}

theorem parseFrame_append (moves : parseFrame crc expectedSeq dec ≠ .wait) (more : Bytes) :
    parseFrame crc expectedSeq (dec ++ more) = (parseFrame crc expectedSeq dec).extend more := by
  revert moves
  unfold parseFrame
  dsimp only
  by_cases short : dec.length < 12
  · rw [if_pos short]
    exact fun moves => absurd rfl moves
  have longer : dec.length ≤ (dec ++ more).length := by
    rw [List.length_append]
    exact Nat.le_add_right _ _
  have head : (dec ++ more).take 4 = dec.take 4 := List.take_append_of_le_length (by omega)
  rw [if_neg short, if_neg (show ¬ (dec ++ more).length < 12 by omega), head]
  generalize leNat (dec.take 4) = fl
  by_cases noop : fl = 4
  · rw [if_pos noop, if_pos noop, List.drop_append_of_le_length (by omega)]
    exact fun _ => rfl
  rw [if_neg noop, if_neg noop]
  by_cases invalid : fl < 12 ∨ 2 ^ 24 < fl
  · rw [if_pos invalid, if_pos invalid]
    exact fun _ => rfl
  rw [if_neg invalid, if_neg invalid]
  by_cases partly : dec.length < fl
  · rw [if_pos partly]
    exact fun moves => absurd rfl moves
  have whole : (dec ++ more).take fl = dec.take fl := List.take_append_of_le_length (by omega)
  have rest : (dec ++ more).drop fl = dec.drop fl ++ more :=
    List.drop_append_of_le_length (by omega)
  rw [if_neg partly, if_neg (show ¬ (dec ++ more).length < fl by omega), whole, rest]
  intro _
  split_ifs <;> rfl

def Drained.resume (crc : Bytes → UInt32) (more : Bytes) : Drained → List RpcFrame × Drained
  | .waiting expectedSeq dec => drainAll crc expectedSeq (dec ++ more)
  | .cleared expectedSeq => ([], .cleared expectedSeq)
  | .failed reason => ([], .failed reason)

theorem drainAll_append (more : Bytes) :
    drainAll crc expectedSeq (dec ++ more) =
      ((drainAll crc expectedSeq dec).1 ++ ((drainAll crc expectedSeq dec).2.resume crc more).1,
        ((drainAll crc expectedSeq dec).2.resume crc more).2) := by
  induction size : dec.length using Nat.strong_induction_on generalizing dec expectedSeq with
  | h size ih =>
    subst size
    rw [drainAll_eq expectedSeq dec]
    by_cases waits : parseFrame crc expectedSeq dec = .wait
    · rw [waits]
      rfl
    · rw [drainAll_eq expectedSeq (dec ++ more), parseFrame_append waits]
      cases parsed : parseFrame crc expectedSeq dec with
      | wait => exact absurd parsed waits
      | invalid => rfl
      | failed => rfl
      | noop rest => exact ih rest.length (parseFrame_noop_shape parsed).1 rfl
      | frame _ rest =>
        have tail := @ih rest.length (parseFrame_frame_shape parsed).1 (expectedSeq + 1) rest rfl
        simp only [Parsed.extend]
        rw [tail]
        rfl

theorem drainAll_nil : drainAll crc expectedSeq [] = ([], .waiting expectedSeq []) := rfl

theorem drainAll_cleared {frames : List RpcFrame} {next : UInt32}
    (drained : drainAll crc expectedSeq dec = (frames, .cleared next)) (more : Bytes) :
    drainAll crc expectedSeq (dec ++ more) = (frames, .cleared next) := by
  rw [drainAll_append, drained]
  exact congrArg (fun out => (out, Drained.cleared next)) (List.append_nil frames)

theorem drainAll_waiting {frames : List RpcFrame} {next : UInt32} {rest : Bytes}
    (drained : drainAll crc expectedSeq dec = (frames, .waiting next rest)) :
    drainAll crc next rest = ([], .waiting next rest) := by
  have again := @drainAll_append crc expectedSeq dec []
  rw [List.append_nil, drained] at again
  simp only [Drained.resume, List.append_nil, Prod.mk.injEq, List.self_eq_append_right] at again
  exact Prod.ext again.1 again.2.symm

def Drained.isCleared : Drained → Bool
  | .cleared _ => true
  | .waiting _ _ | .failed _ => false

namespace FrameReader

def settle (st : FrameReader) (drained : List RpcFrame × Drained) : FrameReader :=
  match drained.2 with
  | .waiting expectedSeq dec => { st with emitted := st.emitted ++ drained.1, expectedSeq, dec }
  | .cleared expectedSeq =>
    { st with
      emitted := st.emitted ++ drained.1
      expectedSeq
      dec := []
      invalidLens := st.invalidLens + 1 }
  | .failed reason => { st with emitted := st.emitted ++ drained.1, failure := some reason }

variable {st : FrameReader}

theorem feed_running (running : st.failure = none) (plain : Bytes) :
    st.feed crc plain = st.settle (drainAll crc st.expectedSeq (st.dec ++ plain)) := by
  unfold feed settle
  rewrite [running]
  rfl

theorem feed_failed {reason : ReaderError} (failed : st.failure = some reason) (plain : Bytes) :
    st.feed crc plain = st := by
  unfold feed
  rw [failed]

structure Alike (st other : FrameReader) : Prop where
  emitted : other.emitted = st.emitted
  failure : other.failure = st.failure
  running : st.failure = none → other = st

theorem Alike.refl (st : FrameReader) : st.Alike st := ⟨rfl, rfl, fun _ => rfl⟩

theorem Alike.trans {first second third : FrameReader} (left : first.Alike second)
    (right : second.Alike third) : first.Alike third where
  emitted := right.emitted.trans left.emitted
  failure := right.failure.trans left.failure
  running := fun running => (right.running (left.failure.trans running)).trans (left.running running)

theorem Alike.feed {other : FrameReader} (alike : st.Alike other) (plain : Bytes) :
    (st.feed crc plain).Alike (other.feed crc plain) := by
  cases failure : st.failure with
  | none =>
    rw [alike.running failure]
    exact .refl _
  | some =>
    rw [feed_failed failure, feed_failed (alike.failure.trans failure)]
    exact alike

theorem feed_feed (running : st.failure = none) {first : Bytes}
    (kept : (drainAll crc st.expectedSeq (st.dec ++ first)).2.isCleared = false) (second : Bytes) :
    (st.feed crc (first ++ second)).Alike ((st.feed crc first).feed crc second) := by
  have whole := @drainAll_append crc st.expectedSeq (st.dec ++ first) second
  rw [List.append_assoc] at whole
  rw [feed_running running, feed_running running, whole]
  cases drained : drainAll crc st.expectedSeq (st.dec ++ first) with
  | mk frames result =>
    rw [drained] at kept
    cases result with
    | cleared next => cases kept
    | failed reason =>
      simp only [settle, Drained.resume, List.append_nil]
      exact .refl _
    | waiting next rest =>
      have runs : (st.settle (frames, .waiting next rest)).failure = none := running
      rw [feed_running runs]
      simp only [settle, Drained.resume]
      cases drainAll crc next (rest ++ second) with
      | mk later result =>
        have emitted := List.append_assoc st.emitted frames later
        cases result with
        | waiting last rest | cleared last => exact ⟨emitted, rfl, fun _ => by rw [emitted]⟩
        | failed => exact ⟨emitted, rfl, nofun⟩

structure Ready (crc : Bytes → UInt32) (st : FrameReader) : Prop where
  running : st.failure = none
  drained : drainAll crc st.expectedSeq st.dec = ([], .waiting st.expectedSeq st.dec)

theorem Ready.feed_nil (ready : st.Ready crc) : st.feed crc [] = st := by
  rw [feed_running ready.running, List.append_nil, ready.drained]
  simp only [settle, List.append_nil]

theorem kept_of_append {more : Bytes} (kept : (drainAll crc expectedSeq (dec ++ more)).2.isCleared = false) :
    (drainAll crc expectedSeq dec).2.isCleared = false := by
  cases drained : drainAll crc expectedSeq dec with
  | mk _ result =>
    cases result with
    | cleared next =>
      rw [drainAll_cleared drained] at kept
      exact kept
    | waiting => rfl
    | failed => rfl

theorem foldl_feed {pieces : List Bytes} (ready : st.Ready crc)
    (kept : (drainAll crc st.expectedSeq (st.dec ++ pieces.flatten)).2.isCleared = false) :
    (st.feed crc pieces.flatten).Alike (pieces.foldl (feed crc) st) := by
  induction pieces using List.reverseRecOn with
  | nil =>
    rw [List.flatten_nil, ready.feed_nil]
    exact .refl _
  | append_singleton _ piece ih =>
    rw [List.flatten_append, List.flatten_singleton, ← List.append_assoc] at kept
    have before := kept_of_append kept
    rw [List.foldl_append, List.foldl_cons, List.foldl_nil, List.flatten_append,
      List.flatten_singleton]
    exact (feed_feed ready.running before piece).trans ((ih before).feed piece)

end FrameReader

structure Noticed (crc : Bytes → UInt32) (expectedSeq : UInt32) (blocks : List Block) (noticed : Nat)
    (frames : List RpcFrame) (next : UInt32) : Prop where
  drained : drainAll crc expectedSeq (bytesOf (blocks.take noticed)) = (frames, .cleared next)
  first : ∀ fewer < noticed,
    (drainAll crc expectedSeq (bytesOf (blocks.take fewer))).2.isCleared = false

variable {blocks : List Block} {noticed : Nat} {frames : List RpcFrame} {next : UInt32}

section
variable (notice : Noticed crc expectedSeq blocks noticed frames next)
include notice

theorem Noticed.pos : 0 < noticed := by
  rcases Nat.eq_zero_or_pos noticed with rfl | positive
  · have drained := notice.drained
    cases drainAll_nil.symm.trans drained
  · exact positive

theorem Noticed.le_length : noticed ≤ blocks.length := by
  by_contra longer
  have kept := notice.first blocks.length (Nat.lt_of_not_le longer)
  have drained := notice.drained
  rw [List.take_of_length_le (Nat.le_of_not_le longer)] at drained
  rw [List.take_length, drained] at kept
  cases kept

theorem Noticed.read {read : Nat} (behind : noticed ≤ read) :
    drainAll crc expectedSeq (bytesOf (blocks.take read)) = (frames, .cleared next) := by
  have split : blocks.take read = blocks.take noticed ++ (blocks.take read).drop noticed := by
    have whole := List.take_append_drop noticed (blocks.take read)
    rw [List.take_take, Nat.min_eq_left behind] at whole
    exact whole.symm
  rw [split, bytesOf_append]
  exact drainAll_cleared notice.drained _

end

theorem exists_noticed (drained : drainAll crc expectedSeq (bytesOf blocks) = (frames, .cleared next)) :
    ∃ noticed, Noticed crc expectedSeq blocks noticed frames next := by
  have some_ : ∃ count,
      (drainAll crc expectedSeq (bytesOf (blocks.take count))).2.isCleared = true := by
    refine ⟨blocks.length, ?_⟩
    rw [List.take_length, drained]
    rfl
  have found := Nat.find_spec some_
  refine ⟨Nat.find some_, ?_, ?_⟩
  · have whole : bytesOf blocks = bytesOf (blocks.take (Nat.find some_)) ++
        bytesOf (blocks.drop (Nat.find some_)) := by
      rw [← bytesOf_append, List.take_append_drop]
    generalize Nat.find some_ = count at found whole
    cases early : drainAll crc expectedSeq (bytesOf (blocks.take count)) with
    | mk _ result =>
      rw [early] at found
      cases result with
      | waiting next' rest | failed reason => cases found
      | cleared =>
        rw [whole] at drained
        exact (drainAll_cleared early _).symm.trans drained
  · intro fewer less
    exact Bool.eq_false_of_not_eq_true (Nat.find_min some_ less)

end

inductive Ending
  | running
  | crcError
  | seqError
  deriving DecidableEq, Repr

def ReaderError.ending : ReaderError → Ending
  | .crcMismatch _ _ => .crcError
  | .seqNoMismatch _ _ => .seqError

def FrameReader.outcome (st : FrameReader) : List RpcFrame × Ending :=
  (st.emitted, (st.failure.map ReaderError.ending).getD .running)

theorem FrameReader.Alike.outcome {st other : FrameReader} (alike : st.Alike other) :
    other.outcome = st.outcome := by
  unfold FrameReader.outcome
  rw [alike.emitted, alike.failure]

/-- The stream has one outcome: no invalid length is met, or all the boundaries at which the read that
brings it can end have the same one. -/
inductive Steady (crc : Bytes → UInt32) : UInt32 → List Block → List RpcFrame → Ending → Prop
  | waiting {expectedSeq next : UInt32} {blocks : List Block} {frames : List RpcFrame} {rest : Bytes}
      (drained : drainAll crc expectedSeq (bytesOf blocks) = (frames, .waiting next rest)) :
      Steady crc expectedSeq blocks frames .running
  | failed {expectedSeq : UInt32} {blocks : List Block} {frames : List RpcFrame} {reason : ReaderError}
      (drained : drainAll crc expectedSeq (bytesOf blocks) = (frames, .failed reason)) :
      Steady crc expectedSeq blocks frames reason.ending
  | cleared {expectedSeq next : UInt32} {blocks : List Block} {noticed : Nat}
      {frames later : List RpcFrame} {ending : Ending}
      (notice : Noticed crc expectedSeq blocks noticed frames next)
      (resumed : ∀ read, noticed ≤ read → read < noticed + 4096 →
        Steady crc next (blocks.drop read) later ending) :
      Steady crc expectedSeq blocks (frames ++ later) ending

structure Cut (blocks : List Block) (pieces : List (List Block)) : Prop where
  whole : pieces.flatten = blocks
  small : ∀ piece ∈ pieces, piece.length ≤ 4096

theorem exists_piece {pieces : List (List Block)} {place : Nat} (positive : 0 < place)
    (within : place ≤ pieces.flatten.length) :
    ∃ before piece after, pieces = before ++ piece :: after ∧ before.flatten.length < place ∧
      place ≤ before.flatten.length + piece.length := by
  induction pieces generalizing place with
  | nil => exact absurd (positive.trans_le within) (Nat.not_lt_zero _)
  | cons piece pieces ih =>
    rw [List.flatten_cons, List.length_append] at within
    by_cases here : place ≤ piece.length
    · refine ⟨[], piece, pieces, rfl, positive, ?_⟩
      rw [List.flatten_nil, List.length_nil, Nat.zero_add]
      exact here
    · obtain ⟨before, found, after, split, _, _⟩ :=
        @ih (place - piece.length) (by omega) (by omega)
      refine ⟨piece :: before, found, after, by rw [split]; rfl, ?_, ?_⟩
      · rw [List.flatten_cons, List.length_append]
        omega
      · rw [List.flatten_cons, List.length_append]
        omega

section
variable {crc : Bytes → UInt32} {expectedSeq next : UInt32} {blocks : List Block}
  {frames : List RpcFrame}

namespace FrameReader
variable {st : FrameReader}

def feedAll (crc : Bytes → UInt32) (st : FrameReader) (pieces : List (List Block)) : FrameReader :=
  (pieces.map bytesOf).foldl (FrameReader.feed crc) st

theorem feedAll_append (first second : List (List Block)) :
    st.feedAll crc (first ++ second) = (st.feedAll crc first).feedAll crc second := by
  unfold feedAll
  rw [List.map_append, List.foldl_append]

structure Fresh (st : FrameReader) (expectedSeq : UInt32) : Prop where
  running : st.failure = none
  dec : st.dec = []
  expectedSeq : st.expectedSeq = expectedSeq

section
variable (fresh : st.Fresh expectedSeq)
include fresh

theorem Fresh.ready : st.Ready crc := by
  refine ⟨fresh.running, ?_⟩
  rw [fresh.dec]
  exact drainAll_nil

theorem Fresh.feed (plain : Bytes) :
    st.feed crc plain = st.settle (drainAll crc expectedSeq plain) := by
  rw [feed_running fresh.running, fresh.dec, fresh.expectedSeq, List.nil_append]

theorem Fresh.feedAll_kept {pieces : List (List Block)}
    (kept : (drainAll crc expectedSeq (bytesOf pieces.flatten)).2.isCleared = false) :
    (st.settle (drainAll crc expectedSeq (bytesOf pieces.flatten))).Alike (st.feedAll crc pieces) := by
  rw [← fresh.feed, ← bytesOf_flatten]
  apply foldl_feed fresh.ready
  rw [fresh.dec, fresh.expectedSeq, List.nil_append, bytesOf_flatten]
  exact kept

theorem Fresh.feedAll_cleared {before : List (List Block)} {piece : List Block}
    (kept : (drainAll crc expectedSeq (bytesOf before.flatten)).2.isCleared = false)
    (cleared : drainAll crc expectedSeq (bytesOf (before.flatten ++ piece)) = (frames, .cleared next)) :
    ((st.feedAll crc before).feed crc (bytesOf piece)).Fresh next ∧
      ((st.feedAll crc before).feed crc (bytesOf piece)).emitted = st.emitted ++ frames := by
  have alike : ((st.feed crc (bytesOf before.flatten)).feed crc (bytesOf piece)).Alike
      ((st.feedAll crc before).feed crc (bytesOf piece)) := by
    rw [fresh.feed]
    exact (fresh.feedAll_kept kept).feed _
  have joined : (st.feed crc (bytesOf before.flatten ++ bytesOf piece)).Alike
      ((st.feed crc (bytesOf before.flatten)).feed crc (bytesOf piece)) := by
    apply feed_feed fresh.running
    rw [fresh.dec, fresh.expectedSeq, List.nil_append]
    exact kept
  have same := joined.trans alike
  rw [← bytesOf_append, fresh.feed, cleared] at same
  rw [same.running fresh.running]
  exact ⟨⟨fresh.running, rfl, rfl⟩, rfl⟩

end

end FrameReader

variable {st : FrameReader}

theorem Noticed.feed {noticed : Nat} (notice : Noticed crc expectedSeq blocks noticed frames next)
    {before : List (List Block)} {piece rest : List Block}
    (whole : before.flatten ++ piece ++ rest = blocks) (earlier : before.flatten.length < noticed)
    (brought : noticed ≤ before.flatten.length + piece.length) (fresh : st.Fresh expectedSeq) :
    ((st.feedAll crc before).feed crc (bytesOf piece)).Fresh next ∧
      ((st.feedAll crc before).feed crc (bytesOf piece)).emitted = st.emitted ++ frames := by
  have size : (before.flatten ++ piece).length = before.flatten.length + piece.length :=
    List.length_append
  have prior : before.flatten = blocks.take before.flatten.length := by
    rw [← whole, List.append_assoc, List.take_left]
  have read : before.flatten ++ piece = blocks.take (before.flatten.length + piece.length) := by
    rw [← whole, ← size, List.take_left]
  apply fresh.feedAll_cleared
  · rw [prior]
    exact notice.first _ earlier
  · rw [read]
    exact notice.read brought

theorem feedAll_cons (st : FrameReader) (before : List (List Block)) (piece : List Block)
    (after : List (List Block)) :
    st.feedAll crc (before ++ piece :: after) =
      ((st.feedAll crc before).feed crc (bytesOf piece)).feedAll crc after := by
  rw [FrameReader.feedAll_append]
  rfl

theorem Steady.outcome {ending : Ending} (steady : Steady crc expectedSeq blocks frames ending)
    {pieces : List (List Block)} (cut : Cut blocks pieces) (fresh : st.Fresh expectedSeq) :
    (st.feedAll crc pieces).outcome = (st.emitted ++ frames, ending) := by
  induction steady generalizing pieces st with
  | waiting drained =>
    rw [← cut.whole] at drained
    rw [(fresh.feedAll_kept (by rw [drained]; rfl)).outcome, drained]
    simp only [FrameReader.outcome, FrameReader.settle, fresh.running]
    rfl
  | failed drained =>
    rw [← cut.whole] at drained
    rw [(fresh.feedAll_kept (by rw [drained]; rfl)).outcome, drained]
    rfl
  | @cleared _ _ blocks _ _ _ _ notice resumed ih =>
    have within := notice.le_length
    rw [← cut.whole] at within
    obtain ⟨before, piece, after, rfl, earlier, brought⟩ := exists_piece notice.pos within
    have whole := cut.whole
    rw [List.flatten_append, List.flatten_cons, ← List.append_assoc] at whole
    obtain ⟨freshNext, emitted⟩ := notice.feed whole earlier brought fresh
    have small := cut.small piece (by simp)
    have rest : Cut (blocks.drop (before.flatten.length + piece.length)) after := by
      refine ⟨?_, fun piece member => cut.small piece (by simp [member])⟩
      rw [← whole, ← List.length_append, List.drop_left]
    rw [feedAll_cons, ih _ brought (by omega) rest freshNext, emitted, List.append_assoc]

def singles (blocks : List Block) : List (List Block) := blocks.map fun block => [block]

theorem flatten_singles (blocks : List Block) : (singles blocks).flatten = blocks := by
  unfold singles
  exact List.flatMap_singleton' blocks

theorem cut_singles (blocks : List Block) : Cut blocks (singles blocks) := by
  refine ⟨flatten_singles blocks, fun piece member => ?_⟩
  obtain ⟨_, _, rfl⟩ := List.mem_map.mp member
  exact Nat.le_add_left 1 4095

def Agree (crc : Bytes → UInt32) (blocks : List Block) (st : FrameReader) : Prop :=
  ∀ first second, Cut blocks first → Cut blocks second → (∀ piece ∈ first, piece ≠ []) →
    (∀ piece ∈ second, piece ≠ []) → (st.feedAll crc first).outcome = (st.feedAll crc second).outcome

theorem singles_ne_nil {piece : List Block} (member : piece ∈ singles blocks) : piece ≠ [] := by
  obtain ⟨block, _, rfl⟩ := List.mem_map.mp member
  exact List.cons_ne_nil block []

def broughtWith (blocks : List Block) (noticed read : Nat) : List Block :=
  (blocks.drop (noticed - 1)).take (read + 1 - noticed)

section BroughtWith
variable {noticed read : Nat}

theorem broughtWith_whole (positive : 0 < noticed) (behind : noticed ≤ read) (blocks : List Block) :
    (singles (blocks.take (noticed - 1))).flatten ++ broughtWith blocks noticed read ++
      blocks.drop read = blocks := by
  have joined : noticed - 1 + (read + 1 - noticed) = read := by omega
  unfold broughtWith
  rw [flatten_singles, ← List.take_add, joined, List.take_append_drop]

theorem broughtWith_ne_nil (positive : 0 < noticed) (behind : noticed ≤ read)
    (within : noticed ≤ blocks.length) : broughtWith blocks noticed read ≠ [] := by
  apply List.ne_nil_of_length_pos
  unfold broughtWith
  rw [List.length_take, List.length_drop]
  omega

theorem broughtWith_small (near : read < noticed + 4096) (blocks : List Block) :
    (broughtWith blocks noticed read).length ≤ 4096 := by
  unfold broughtWith
  rw [List.length_take]
  omega

theorem cut_broughtWith (positive : 0 < noticed) (behind : noticed ≤ read)
    (near : read < noticed + 4096) {after : List (List Block)} (cut : Cut (blocks.drop read) after) :
    Cut blocks (singles (blocks.take (noticed - 1)) ++ broughtWith blocks noticed read :: after) := by
  constructor
  · rw [List.flatten_append, List.flatten_cons, cut.whole, ← List.append_assoc]
    exact broughtWith_whole positive behind blocks
  · intro piece member
    rcases List.mem_append.mp member with early | late
    · exact (cut_singles _).small piece early
    · rcases List.mem_cons.mp late with rfl | later
      · exact broughtWith_small near blocks
      · exact cut.small piece later

theorem proper_broughtWith (positive : 0 < noticed) (behind : noticed ≤ read)
    (within : noticed ≤ blocks.length) {after : List (List Block)}
    (proper : ∀ piece ∈ after, piece ≠ []) :
    ∀ piece ∈ singles (blocks.take (noticed - 1)) ++ broughtWith blocks noticed read :: after,
      piece ≠ [] := by
  intro piece member
  rcases List.mem_append.mp member with early | late
  · exact singles_ne_nil early
  · rcases List.mem_cons.mp late with rfl | later
    · exact broughtWith_ne_nil positive behind within
    · exact proper piece later

theorem Noticed.feed_broughtWith (notice : Noticed crc expectedSeq blocks noticed frames next)
    (behind : noticed ≤ read) (fresh : st.Fresh expectedSeq) :
    let mid := (st.feedAll crc (singles (blocks.take (noticed - 1)))).feed crc
      (bytesOf (broughtWith blocks noticed read))
    mid.Fresh next ∧ mid.emitted = st.emitted ++ frames := by
  have positive := notice.pos
  have within := notice.le_length
  have early : (singles (blocks.take (noticed - 1))).flatten.length = noticed - 1 := by
    rw [flatten_singles, List.length_take]
    omega
  have brings : 0 < (broughtWith blocks noticed read).length :=
    List.length_pos_iff.mpr (broughtWith_ne_nil positive behind within)
  refine notice.feed (broughtWith_whole positive behind blocks) ?_ ?_ fresh
  · omega
  · omega

theorem Agree.resumed (agree : Agree crc blocks st) (positive : 0 < noticed)
    (within : noticed ≤ blocks.length) (behind : noticed ≤ read) (near : read < noticed + 4096) :
    Agree crc (blocks.drop read)
      ((st.feedAll crc (singles (blocks.take (noticed - 1)))).feed crc
        (bytesOf (broughtWith blocks noticed read))) := by
  intro first second cutFirst cutSecond properFirst properSecond
  rw [← feedAll_cons, ← feedAll_cons]
  exact agree _ _ (cut_broughtWith positive behind near cutFirst)
    (cut_broughtWith positive behind near cutSecond)
    (proper_broughtWith positive behind within properFirst)
    (proper_broughtWith positive behind within properSecond)

end BroughtWith

theorem steady_of_agree (fresh : st.Fresh expectedSeq) (agree : Agree crc blocks st) :
    ∃ frames ending, Steady crc expectedSeq blocks frames ending := by
  induction size : blocks.length using Nat.strong_induction_on generalizing blocks st expectedSeq with
  | h size ih =>
    subst size
    cases drained : drainAll crc expectedSeq (bytesOf blocks) with
    | mk frames result =>
      cases result with
      | waiting next => exact ⟨frames, .running, .waiting drained⟩
      | failed reason => exact ⟨frames, reason.ending, .failed drained⟩
      | cleared next =>
        obtain ⟨noticed, notice⟩ := exists_noticed drained
        have positive := notice.pos
        have within := notice.le_length
        have resumed (read : Nat) (behind : noticed ≤ read) (near : read < noticed + 4096) :
            ∃ later ending, Steady crc next (blocks.drop read) later ending ∧
              (st.feedAll crc (singles (blocks.take (noticed - 1)) ++
                  broughtWith blocks noticed read :: singles (blocks.drop read))).outcome =
                (st.emitted ++ frames ++ later, ending) := by
          obtain ⟨freshNext, emitted⟩ := notice.feed_broughtWith behind fresh
          have shorter : (blocks.drop read).length < blocks.length := by
            rw [List.length_drop]
            omega
          have agreeNext := agree.resumed positive within behind near
          obtain ⟨later, ending, steady⟩ := ih _ shorter freshNext agreeNext rfl
          refine ⟨later, ending, steady, ?_⟩
          rw [feedAll_cons, steady.outcome (cut_singles _) freshNext, emitted]
        obtain ⟨later, ending, _, first⟩ := resumed noticed (Nat.le_refl _) (by omega)
        refine ⟨frames ++ later, ending, .cleared notice fun read behind near => ?_⟩
        obtain ⟨_, _, steady, other⟩ := resumed read behind near
        have same := agree _ _ (cut_broughtWith positive (Nat.le_refl _) (by omega) (cut_singles _))
          (cut_broughtWith positive behind near (cut_singles _))
          (proper_broughtWith positive (Nat.le_refl _) within fun _ => singles_ne_nil)
          (proper_broughtWith positive behind within fun _ => singles_ne_nil)
        rw [first, other] at same
        obtain ⟨frames', endings⟩ := Prod.ext_iff.mp same
        cases List.append_cancel_left frames'
        cases endings
        exact steady

end

structure Reads (stream : Bytes) (chunks : List Bytes) : Prop where
  whole : chunks.flatten = stream
  sizes : ∀ chunk ∈ chunks, 0 < chunk.length ∧ chunk.length ≤ 65536

section
variable {cipher : Equiv.Perm Block} {crc : Bytes → UInt32} {iv : Block} {expectedSeq : UInt32}
  {stream : Bytes}

theorem FrameReader.fresh_new (expectedSeq : UInt32) : (FrameReader.new expectedSeq).Fresh expectedSeq :=
  ⟨rfl, rfl, rfl⟩

theorem Reads.exists_cut {chunks : List Bytes} (reads : Reads stream chunks) :
    ∃ pieces, Cut (plainBlocks cipher iv stream) pieces ∧
      ((ReaderLoop.new iv expectedSeq).readAll cipher crc chunks).frames =
        (FrameReader.new expectedSeq).feedAll crc pieces := by
  obtain ⟨pieces, flat, fed, sizes⟩ :=
    @readAll_eq_pieces cipher crc (.new iv expectedSeq) (Nat.zero_lt_succ 15) chunks
  refine ⟨pieces, ⟨?_, sizes 4096 fun chunk member => (reads.sizes chunk member).2⟩, fed⟩
  rw [flat, reads.whole]
  rfl

theorem FrameReader.feed_feed_nil (st : FrameReader) (plain : Bytes) :
    (st.feed crc plain).feed crc [] = st.feed crc plain := by
  cases failure : st.failure with
  | some reason => rw [feed_failed failure, feed_failed failure]
  | none =>
    rw [feed_running failure]
    cases drained : drainAll crc st.expectedSeq (st.dec ++ plain) with
    | mk _ result =>
      cases result with
      | waiting next => exact Ready.feed_nil ⟨failure, drainAll_waiting drained⟩
      | cleared => exact Ready.feed_nil ⟨failure, drainAll_nil⟩
      | failed => exact feed_failed rfl []

theorem onRead_blocks {st : ReaderLoop} (raw : st.raw = []) {count : Nat}
    (enough : 16 * count ≤ stream.length) :
    st.onRead cipher crc (stream.take (16 * count)) =
      { raw := []
        iv := (blocksOf count (stream.take (16 * count))).getLastD st.iv
        frames := st.frames.feed crc
          (bytesOf (cbcDecrypt Block.xor cipher st.iv (blocksOf count (stream.take (16 * count))))) } := by
  have size : (stream.take (16 * count)).length = 16 * count := List.length_take_of_le enough
  unfold ReaderLoop.onRead
  dsimp only
  rw [raw, List.nil_append, size, Nat.mul_div_cancel_left _ (Nat.zero_lt_succ 15)]
  nth_rewrite 1 [← size]
  rw [List.drop_length]

theorem exists_reads {st : ReaderLoop} (raw : st.raw = []) (quiet : st.frames.feed crc [] = st.frames)
    {pieces : List (List Block)} (cut : Cut (plainBlocks cipher st.iv stream) pieces)
    (proper : ∀ piece ∈ pieces, piece ≠ []) :
    ∃ chunks, Reads stream chunks ∧
      (st.readAll cipher crc chunks).frames = st.frames.feedAll crc pieces := by
  induction pieces generalizing st stream with
  | nil =>
    have none := congrArg List.length cut.whole
    rw [plainBlocks, cbcDecrypt_length, blocksOf_length, List.flatten_nil, List.length_nil] at none
    by_cases empty : stream = []
    · subst empty
      exact ⟨[], ⟨rfl, fun chunk member => absurd member List.not_mem_nil⟩, rfl⟩
    · refine ⟨[stream], ⟨List.flatten_singleton, fun chunk member => ?_⟩, ?_⟩
      · rw [List.mem_singleton.mp member]
        exact ⟨List.length_pos_iff.mpr empty, by omega⟩
      · rw [ReaderLoop.readAll, List.foldl_cons, List.foldl_nil, ReaderLoop.onRead]
        rw [raw, List.nil_append, ← none]
        exact quiet
  | cons piece _ ih =>
    have positive := List.length_pos_iff.mpr (proper piece List.mem_cons_self)
    have small := cut.small piece List.mem_cons_self
    have whole := cut.whole
    rw [List.flatten_cons] at whole
    have enough : 16 * piece.length ≤ stream.length := by
      have size := congrArg List.length whole
      rw [plainBlocks, cbcDecrypt_length, blocksOf_length, List.length_append] at size
      omega
    have size : (stream.take (16 * piece.length)).length = 16 * piece.length :=
      List.length_take_of_le enough
    have split := @plainBlocks_append cipher piece.length st.iv (stream.take (16 * piece.length))
      (Nat.le_of_eq size.symm) (stream.drop (16 * piece.length))
    rw [List.take_append_drop, List.drop_eq_nil_of_le (Nat.le_of_eq size), List.nil_append,
      ← whole] at split
    obtain ⟨first, rest⟩ := List.append_inj split (by rw [cbcDecrypt_length, blocksOf_length])
    have next := @onRead_blocks cipher crc stream st raw piece.length enough
    rw [← first] at next
    obtain ⟨chunks, reads, fed⟩ :=
      @ih (stream.drop (16 * piece.length)) (st.onRead cipher crc (stream.take (16 * piece.length)))
        (by rw [next]) (by rw [next]; exact FrameReader.feed_feed_nil _ _)
        ⟨by rw [next, rest], fun piece member => cut.small piece (List.mem_cons_of_mem _ member)⟩
        (fun piece member => proper piece (List.mem_cons_of_mem _ member))
    refine ⟨stream.take (16 * piece.length) :: chunks, ⟨?_, ?_⟩, ?_⟩
    · rw [List.flatten_cons, reads.whole, List.take_append_drop]
    · intro chunk member
      rcases List.mem_cons.mp member with rfl | later
      · rw [size]
        omega
      · exact reads.sizes chunk later
    · refine fed.trans ?_
      rw [next]
      rfl

end

theorem reads_agree_iff (cipher : Equiv.Perm Block) (crc : Bytes → UInt32) (iv : Block)
    (expectedSeq : UInt32) (stream : Bytes) :
    (∀ first second, Reads stream first → Reads stream second →
      ((ReaderLoop.new iv expectedSeq).readAll cipher crc first).frames.outcome =
        ((ReaderLoop.new iv expectedSeq).readAll cipher crc second).frames.outcome) ↔
      ∃ frames ending, Steady crc expectedSeq (plainBlocks cipher iv stream) frames ending := by
  have fresh := FrameReader.fresh_new expectedSeq
  constructor
  · intro same
    refine steady_of_agree fresh fun first second cutFirst cutSecond properFirst properSecond => ?_
    have quiet : (ReaderLoop.new iv expectedSeq).frames.feed crc [] = .new expectedSeq :=
      fresh.ready.feed_nil
    obtain ⟨chunks, reads, fed⟩ := exists_reads rfl quiet cutFirst properFirst
    obtain ⟨chunks', reads', fed'⟩ := exists_reads rfl quiet cutSecond properSecond
    have outcomes := same chunks chunks' reads reads'
    rw [fed, fed'] at outcomes
    exact outcomes
  · rintro ⟨_, _, steady⟩ first second reads reads'
    obtain ⟨_, cut, fed⟩ := reads.exists_cut
    obtain ⟨_, cut', fed'⟩ := reads'.exists_cut
    rw [fed, fed', steady.outcome cut fresh, steady.outcome cut' fresh]

def noChecksum : Bytes → UInt32 := fun _ => 0

def smallFrame : Bytes := [16, 0, 0, 0, 0, 0, 0, 0, 1, 2, 3, 4, 0, 0, 0, 0]

theorem small_frame_read_alike :
    Steady noChecksum 0 (plainBlocks (Equiv.refl Block) Block.zero smallFrame) [⟨0, [1, 2, 3, 4]⟩]
        .running ∧
      ∀ first second, Reads smallFrame first → Reads smallFrame second →
        ((ReaderLoop.new Block.zero 0).readAll (Equiv.refl Block) noChecksum first).frames.outcome =
          ((ReaderLoop.new Block.zero 0).readAll (Equiv.refl Block) noChecksum second).frames.outcome := by
  have drained : drainAll noChecksum 0
      (bytesOf (plainBlocks (Equiv.refl Block) Block.zero smallFrame)) =
        ([⟨0, [1, 2, 3, 4]⟩], .waiting 1 []) := by
    decide +kernel
  refine ⟨.waiting drained, ?_⟩
  exact (reads_agree_iff (Equiv.refl Block) noChecksum Block.zero 0 smallFrame).mpr
    ⟨_, _, .waiting drained⟩

def badLength : Bytes := List.replicate 16 0

/-- One read discards the frame together with the invalid length, two reads do not. -/
theorem read_end_decides_frames :
    Reads (badLength ++ smallFrame) [badLength ++ smallFrame] ∧
      Reads (badLength ++ smallFrame) [badLength, smallFrame] ∧
      ((ReaderLoop.new Block.zero 0).readAll (Equiv.refl Block) noChecksum
        [badLength ++ smallFrame]).frames.outcome = ([], .running) ∧
      ((ReaderLoop.new Block.zero 0).readAll (Equiv.refl Block) noChecksum
        [badLength, smallFrame]).frames.outcome = ([⟨0, [1, 2, 3, 4]⟩], .running) := by
  refine ⟨⟨rfl, by decide⟩, ⟨rfl, by decide⟩, ?_, ?_⟩ <;> decide +kernel

end Telemt.MiddleProxy
