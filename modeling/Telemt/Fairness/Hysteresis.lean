import Telemt.Fairness.Model
import Telemt.Foundation.Run

namespace Telemt.Fairness
open Foundation

/-!
# Hysteresis of the pressure state

Beside the evaluator runs the history of the targets that were really derived; a call with
backpressure switched off starts it over.
-/

inductive PressureCall
  | maybeEvaluate (now : Instant) (backpressureEnabled : Bool) (maxTotalQueuedBytes : Nat)
      (signals : PressureSignals) (force : Bool)
  | noteAdmissionReject (now : Instant)
  | noteRouteStall (now : Instant)

def PressureCall.disabled : PressureCall → Bool
  | .maybeEvaluate _ backpressureEnabled _ _ _ => !backpressureEnabled
  | _ => false

namespace PressureEvaluator

def perform (cfg : PressureConfig) (p : PressureEvaluator) : PressureCall → PressureEvaluator
  | .maybeEvaluate now backpressureEnabled maxTotalQueuedBytes signals force =>
    p.maybeEvaluate now { cfg with backpressureEnabled := backpressureEnabled } maxTotalQueuedBytes
      signals force
  | .noteAdmissionReject now => p.noteAdmissionReject now cfg
  | .noteRouteStall now => p.noteRouteStall now cfg

def derivedTarget (p : PressureEvaluator) (now : Instant) (cfg : PressureConfig)
    (maxTotalQueuedBytes : Nat) (signals : PressureSignals) (force : Bool) : Option PressureState :=
  let p := p.rotateWindowIfNeeded now cfg
  if !cfg.backpressureEnabled then none
  else if !force ∧ saturatingAdd 32 p.roundsSinceEval 1 < max cfg.evaluateEveryRounds 1 then none
  else some (p.deriveTargetState cfg maxTotalQueuedBytes signals)

def evaluatedTarget (cfg : PressureConfig) (p : PressureEvaluator) :
    PressureCall → Option PressureState
  | .maybeEvaluate now backpressureEnabled maxTotalQueuedBytes signals force =>
    p.derivedTarget now { cfg with backpressureEnabled := backpressureEnabled } maxTotalQueuedBytes
      signals force
  | .noteAdmissionReject _ | .noteRouteStall _ => none

end PressureEvaluator

structure WatchedEvaluator where
  evaluator : PressureEvaluator
  targets : List PressureState := []

namespace WatchedEvaluator

def start (now : Instant) : WatchedEvaluator where
  evaluator := { windowStartedAt := now }

def step (cfg : PressureConfig) (w : WatchedEvaluator) (call : PressureCall) : WatchedEvaluator where
  evaluator := w.evaluator.perform cfg call
  targets :=
    if call.disabled then [] else w.targets ++ (w.evaluator.evaluatedTarget cfg call).toList

def run (cfg : PressureConfig) (w : WatchedEvaluator) (calls : List PressureCall) : WatchedEvaluator :=
  calls.foldl (step cfg) w

end WatchedEvaluator

namespace PressureEvaluator
variable (p : PressureEvaluator)

def standing : PressureState × PressureState × Nat :=
  (p.state, p.candidateState, p.candidateHits)

def judge (rounds : Nat) (target : PressureState) :
    PressureState × PressureState × Nat → PressureState × PressureState × Nat
  | (state, candidate, hits) =>
    if target = state then (state, target, 0)
    else
      let hits := if candidate = target then saturatingAdd 8 hits 1 else 1
      if max rounds 1 ≤ hits then (target, target, 0) else (state, target, hits)

@[simp] theorem standing_rotate (now : Instant) (cfg : PressureConfig) :
    (p.rotateWindowIfNeeded now cfg).standing = p.standing := by
  unfold rotateWindowIfNeeded
  split <;> rfl

theorem deriveTargetState_rounds (rounds : Nat) (cfg : PressureConfig)
    (maxTotalQueuedBytes : Nat) (signals : PressureSignals) :
    { p with roundsSinceEval := rounds }.deriveTargetState cfg maxTotalQueuedBytes signals =
      p.deriveTargetState cfg maxTotalQueuedBytes signals := rfl

theorem standing_maybeEvaluate {cfg : PressureConfig} (enabled : cfg.backpressureEnabled = true)
    (p : PressureEvaluator) (now : Instant) (maxTotalQueuedBytes : Nat) (signals : PressureSignals)
    (force : Bool) :
    (p.maybeEvaluate now cfg maxTotalQueuedBytes signals force).standing =
      match p.derivedTarget now cfg maxTotalQueuedBytes signals force with
      | none => p.standing
      | some target => judge cfg.transitionHysteresisRounds target p.standing := by
  have kept := standing_rotate p now cfg
  unfold maybeEvaluate derivedTarget
  generalize p.rotateWindowIfNeeded now cfg = q at kept ⊢
  rw [← kept]
  simp only [enabled, Bool.not_true, Bool.false_eq_true, if_false, deriveTargetState_rounds]
  by_cases skipped : !force ∧ saturatingAdd 32 q.roundsSinceEval 1 < max cfg.evaluateEveryRounds 1
  · rw [if_pos skipped, if_pos skipped]
    rfl
  · rw [if_neg skipped, if_neg skipped]
    obtain ⟨target, derived⟩ : ∃ target, q.deriveTargetState cfg maxTotalQueuedBytes signals = target :=
      ⟨_, rfl⟩
    simp only [derived, standing, judge]
    by_cases same : target = q.state
    · simp only [if_pos same]
    · by_cases again : q.candidateState = target
      · simp only [if_neg same, if_pos again]
        split
        · rw [again]
        · rw [again]
      · simp only [if_neg same, if_neg again]
        split <;> rfl

theorem standing_perform (cfg : PressureConfig) (p : PressureEvaluator) (call : PressureCall) :
    (p.perform cfg call).standing =
      if call.disabled then (.normal, .normal, 0)
      else
        match p.evaluatedTarget cfg call with
        | none => p.standing
        | some target => judge cfg.transitionHysteresisRounds target p.standing := by
  cases call with
  | noteAdmissionReject now | noteRouteStall now => exact standing_rotate p now cfg
  | maybeEvaluate now backpressureEnabled maxTotalQueuedBytes signals force =>
    cases backpressureEnabled with
    | false => rfl
    | true => exact standing_maybeEvaluate rfl p now maxTotalQueuedBytes signals force

end PressureEvaluator

namespace WatchedEvaluator

def Backed (w : WatchedEvaluator) : Prop :=
  List.replicate w.evaluator.candidateHits w.evaluator.candidateState <:+ w.targets

theorem start_backed (now : Instant) : (start now).Backed := List.suffix_refl _

variable {w : WatchedEvaluator}

theorem judged_spec {rounds : Nat} {q : PressureEvaluator} {target : PressureState}
    (backed : w.Backed)
    (judged : q.standing = PressureEvaluator.judge rounds target w.evaluator.standing) :
    List.replicate q.candidateHits q.candidateState <:+ w.targets ++ [target] ∧
      (q.state ≠ w.evaluator.state →
        target = q.state ∧ List.replicate (max rounds 1) q.state <:+ w.targets ++ [target]) := by
  unfold PressureEvaluator.judge at judged
  dsimp only [PressureEvaluator.standing] at judged
  have hit : ∀ more ≤ if w.evaluator.candidateState = target then
        saturatingAdd 8 w.evaluator.candidateHits 1 else 1,
      List.replicate more target <:+ w.targets ++ [target] := by
    intro more fewer
    split at fewer
    · rename_i again
      exact replicate_suffix_concat (again ▸ backed) (fewer.trans (Nat.min_le_left _ _))
    · have none : List.replicate 0 target <:+ w.targets := List.nil_suffix
      exact replicate_suffix_concat none fewer
  generalize (if w.evaluator.candidateState = target then _ else _ : Nat) = hits at judged hit
  split_ifs at judged with same enough
  all_goals
    obtain ⟨state, rest⟩ := Prod.mk.inj judged
    obtain ⟨candidate, counted⟩ := Prod.mk.inj rest
    rw [state, candidate, counted]
  · exact ⟨List.nil_suffix, fun changed => absurd rfl changed⟩
  · exact ⟨List.nil_suffix, fun _ => ⟨rfl, hit _ enough⟩⟩
  · exact ⟨hit _ (Nat.le_refl _), fun changed => absurd rfl changed⟩

theorem step_spec (cfg : PressureConfig) (backed : w.Backed) (call : PressureCall) :
    (w.step cfg call).Backed ∧
      (call.disabled = false → (w.step cfg call).evaluator.state ≠ w.evaluator.state →
        w.evaluator.evaluatedTarget cfg call = some (w.step cfg call).evaluator.state ∧
          List.replicate (max cfg.transitionHysteresisRounds 1) (w.step cfg call).evaluator.state <:+
            (w.step cfg call).targets) := by
  have stood := PressureEvaluator.standing_perform cfg w.evaluator call
  unfold Backed step
  generalize w.evaluator.perform cfg call = q at stood ⊢
  cases off : call.disabled with
  | true =>
    rw [off, if_pos rfl] at stood
    have none : q.candidateHits = 0 := congrArg (fun standing => standing.2.2) stood
    rw [none]
    exact ⟨List.suffix_refl _, nofun⟩
  | false =>
    rw [off, if_neg Bool.false_ne_true] at stood
    cases derived : w.evaluator.evaluatedTarget cfg call with
    | none =>
      rw [derived] at stood
      obtain ⟨state, rest⟩ := Prod.mk.inj stood
      obtain ⟨candidate, hits⟩ := Prod.mk.inj rest
      rw [candidate, hits, Option.toList_none, List.append_nil]
      exact ⟨backed, fun _ changed => absurd state changed⟩
    | some =>
      rw [derived] at stood
      obtain ⟨kept, moved⟩ := judged_spec backed stood
      refine ⟨kept, fun _ changed => ?_⟩
      obtain ⟨reached, history⟩ := moved changed
      exact ⟨congrArg some reached, history⟩

theorem run_backed (cfg : PressureConfig) (backed : w.Backed) (calls : List PressureCall) :
    (w.run cfg calls).Backed := by
  induction calls generalizing w with
  | nil => exact backed
  | cons call _ ih => exact ih (step_spec cfg backed call).1

end WatchedEvaluator

theorem pressure_state_changes_after_hysteresis (cfg : PressureConfig) (started : Instant)
    (calls : List PressureCall) (call : PressureCall) :
    let before := (WatchedEvaluator.start started).run cfg calls
    let after := before.step cfg call
    (call.disabled = true → after.evaluator.state = .normal) ∧
      (call.disabled = false → after.evaluator.state ≠ before.evaluator.state →
        before.evaluator.evaluatedTarget cfg call = some after.evaluator.state ∧
          List.replicate (max cfg.transitionHysteresisRounds 1) after.evaluator.state <:+
            after.targets) := by
  intro before after
  constructor
  · intro off
    have stood := PressureEvaluator.standing_perform cfg before.evaluator call
    rw [off, if_pos rfl] at stood
    exact congrArg Prod.fst stood
  · have backed := WatchedEvaluator.run_backed cfg (WatchedEvaluator.start_backed started) calls
    exact (WatchedEvaluator.step_spec cfg backed call).2

def evaluateFull : PressureCall := .maybeEvaluate 0 true 100 ⟨1, 100, 0, 0⟩ true

theorem third_full_evaluation_saturates :
    let before := (WatchedEvaluator.start 0).run {} [evaluateFull, .noteRouteStall 0, evaluateFull]
    before.evaluator.state = .normal ∧
      (before.step {} evaluateFull).evaluator.state = .saturated ∧
      List.replicate 3 .saturated <:+ (before.step {} evaluateFull).targets := by
  have third := (pressure_state_changes_after_hysteresis {} 0
    [evaluateFull, .noteRouteStall 0, evaluateFull] evaluateFull).2 rfl (by decide)
  exact ⟨by decide, by decide, third.2⟩

end Telemt.Fairness
