import Telemt.Foundation.Run
import Telemt.Relay.ClientRead

namespace Telemt.Relay
open Foundation

/-! # The overhead of frames without payload -/

inductive FrameSize
  | zero
  | nonEmpty
  deriving DecidableEq, Repr

def ReadPhase.headerLen (phase : ReadPhase) (bytes : Bytes) : Option Nat :=
  match phase with
  | .firstByte =>
    bytes.head?.bind fun first =>
      if first.toNat % 128 = 127 then none else some (first.toNat % 128 * 4)
  | .extended _ filled _ =>
    if (filled ++ bytes).length < 3 then none else some (leNat (filled ++ bytes) * 4)
  | .lengthBytes filled _ =>
    if (filled ++ bytes).length < 4 then none else some (leNat (filled ++ bytes) % 2 ^ 31)
  | .payload _ _ _ _ => none

structure ClientReads where
  cfg : ReadConfig
  state : ReadState
  frames : List FrameSize := []

-- Every call has its own arguments; a call that starts while another one waits has replaced it.
inductive ClientReadEvent
  | call (cfg : ReadConfig)
  | read (bytes : Bytes)

namespace ClientReads

def start (cfg : ReadConfig) : ClientReads where
  cfg := cfg
  state := freshReader cfg.tag

def step (s : ClientReads) : ClientReadEvent → Option ClientReads
  | .call cfg => some { s with cfg := cfg, state := newCall cfg.tag s.state }
  | .read bytes =>
    if bytes = [] ∨ s.state.phase.wanted < bytes.length then none
    else
      match onBytes s.cfg s.state bytes with
      | .reading next =>
        some { s with
          state := next
          frames :=
            if s.state.phase.headerLen bytes = some 0 then s.frames ++ [.zero] else s.frames }
      | .frame _ next => some { s with state := next, frames := s.frames ++ [.nonEmpty] }
      | .failed _ => none

end ClientReads

def overhead (frames : List FrameSize) : Int :=
  tinyFrameDebtPerTiny * frames.count .zero - frames.count .nonEmpty

def price : FrameSize → Int
  | .zero => tinyFrameDebtPerTiny
  | .nonEmpty => -1

theorem overhead_concat (frames : List FrameSize) (frame : FrameSize) :
    overhead (frames ++ [frame]) = overhead frames + price frame := by
  cases frame with
  | zero =>
    simp [overhead, price, tinyFrameDebtPerTiny]
    omega
  | nonEmpty =>
    simp [overhead, price]
    omega

def ReadOutcome.Charged (debt : Nat) (zero : Prop) : ReadOutcome → Prop
  | .reading next =>
    (zero → next.tinyFrameDebt = debt + tinyFrameDebtPerTiny ∧
      next.tinyFrameDebt < tinyFrameDebtLimit) ∧
    (¬zero → next.tinyFrameDebt = debt)
  | .frame _ next => next.tinyFrameDebt = debt - 1
  | .failed _ => True

theorem onHeader_charged (cfg : ReadConfig) (s : ReadState) (len : Nat) (quickack : Bool) :
    (onHeader cfg s len quickack).Charged s.tinyFrameDebt (len = 0) := by
  unfold onHeader onZeroLength
  dsimp only
  split_ifs <;> simp_all [ReadOutcome.Charged]

theorem onBytes_charged (cfg : ReadConfig) (s : ReadState) {bytes : Bytes} (nonempty : bytes ≠ []) :
    (onBytes cfg s bytes).Charged s.tinyFrameDebt (s.phase.headerLen bytes = some 0) := by
  obtain ⟨phase, _, _, _⟩ := s
  cases phase with
  | firstByte =>
    obtain ⟨_, _, rfl⟩ := List.exists_cons_of_ne_nil nonempty
    simp only [onBytes, onFirstByte, ReadPhase.headerLen, List.head?_cons, Option.bind_some]
    split_ifs
    · simp [ReadOutcome.Charged]
    · simp only [Option.some.injEq]
      exact onHeader_charged cfg _ _ _
  | extended quickack filled short | lengthBytes filled short =>
    simp only [onBytes, ReadPhase.headerLen]
    split_ifs
    · simp [ReadOutcome.Charged]
    · simp only [Option.some.injEq]
      exact onHeader_charged cfg _ _ _
  | payload =>
    simp only [onBytes, ReadPhase.headerLen]
    split_ifs
    · simp [ReadOutcome.Charged]
    · simp [ReadOutcome.Charged, onPayload, newCall]

structure Paid (frames : List FrameSize) (debt : Nat) : Prop where
  below : debt < tinyFrameDebtLimit
  ending : ∀ segment, segment <:+ frames → overhead segment ≤ debt
  segments : ∀ segment, segment <:+: frames → overhead segment < tinyFrameDebtLimit

theorem Paid.concat {frames : List FrameSize} {debt next : Nat} {frame : FrameSize}
    (paid : Paid frames debt) (charged : debt + price frame ≤ next)
    (below : next < tinyFrameDebtLimit) : Paid (frames ++ [frame]) next := by
  have ending (segment : List FrameSize) (ends : segment <:+ frames ++ [frame]) :
      overhead segment ≤ next := by
    rcases List.suffix_concat_iff.mp ends with rfl | ⟨before, rfl, suffix⟩
    · simp [overhead]
    · have := paid.ending before suffix
      rw [overhead_concat]
      omega
  refine ⟨below, ending, fun segment inside => ?_⟩
  rcases List.infix_concat_iff.mp inside with ends | inside
  · exact (ending segment ends).trans_lt (mod_cast below)
  · exact paid.segments segment inside

namespace ClientReads

theorem paid_step {s t : ClientReads} {event : ClientReadEvent}
    (paid : Paid s.frames s.state.tinyFrameDebt) (moved : s.step event = some t) :
    Paid t.frames t.state.tinyFrameDebt := by
  cases event with
  | call cfg =>
    cases moved
    exact paid
  | read bytes =>
    rw [step] at moved
    by_cases refused : bytes = [] ∨ s.state.phase.wanted < bytes.length
    · rw [if_pos refused] at moved
      cases moved
    rw [if_neg refused] at moved
    have charged := onBytes_charged s.cfg s.state fun empty => refused (.inl empty)
    have below := paid.below
    cases read : onBytes s.cfg s.state bytes with
    | reading next =>
      rw [read] at moved charged
      cases moved
      split_ifs with zero
      · obtain ⟨raised, allowed⟩ := charged.1 zero
        exact paid.concat (by simp [raised, price]) allowed
      · rwa [charged.2 zero]
    | frame _ next =>
      rw [read] at moved charged
      cases moved
      have lowered : next.tinyFrameDebt = s.state.tinyFrameDebt - 1 := charged
      exact paid.concat (by simp only [price]; omega) (by dsimp only; omega)
    | failed =>
      rw [read] at moved
      cases moved

end ClientReads

theorem tiny_frame_overhead_bounded (cfg : ReadConfig) (events : List ClientReadEvent)
    (s : ClientReads) (run : runFrom ClientReads.step (ClientReads.start cfg) events = some s)
    (segment : List FrameSize) (read : segment <:+: s.frames) :
    (tinyFrameDebtPerTiny * segment.count .zero - segment.count .nonEmpty : Int) <
      tinyFrameDebtLimit := by
  have start : Paid (ClientReads.start cfg).frames (ClientReads.start cfg).state.tinyFrameDebt := by
    refine ⟨show 0 < tinyFrameDebtLimit by decide, fun segment ends => ?_, fun segment inside => ?_⟩
    · rw [List.suffix_nil.mp ends]
      exact le_rfl
    · rw [List.infix_nil.mp inside]
      decide
  have paid := runFrom_invariant (fun s : ClientReads => Paid s.frames s.state.tinyFrameDebt)
    (fun _ _ _ _ paid moved => ClientReads.paid_step paid moved)
    (guarded_of_mem (fun _ _ _ => trivial) _) start run
  exact paid.segments segment read

def twoZeroFrames : List ClientReadEvent :=
  [.read [0], .read [1], .read [7, 7, 7, 7], .call ⟨.abridged, 16, false⟩, .read [0]]

theorem two_zero_frames_bounded :
    ∃ s, runFrom ClientReads.step (ClientReads.start ⟨.abridged, 16, true⟩) twoZeroFrames = some s ∧
      s.frames = [.zero, .nonEmpty, .zero] ∧
      (tinyFrameDebtPerTiny * s.frames.count .zero - s.frames.count .nonEmpty : Int) <
        tinyFrameDebtLimit := by
  have reached : (runFrom ClientReads.step (ClientReads.start ⟨.abridged, 16, true⟩)
      twoZeroFrames).map ClientReads.frames = some [.zero, .nonEmpty, .zero] := by decide +kernel
  obtain ⟨s, run, frames⟩ := Option.map_eq_some_iff.mp reached
  exact ⟨s, run, frames, tiny_frame_overhead_bounded _ _ s run _ List.infix_rfl⟩

end Telemt.Relay
