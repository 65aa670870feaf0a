import Telemt.TrafficLimiter.EpochBound

namespace Telemt.TrafficLimiter
open Foundation

/-! # What a lease grants is at most what it is asked for -/

variable {ι κ σ : Type}

namespace Call
variable {rates : Rates ι κ} {call : Call ι κ σ}

def Within (requested : Nat) (call : Call ι κ σ) : Prop :=
  call.granted ≤ requested ∧
    match call.phase with
    | .user (.swap _ grant) => grant ≤ requested
    | .cidr (.swap _ _ grant) => grant ≤ requested
    | .cidr (.shareAdd grant) => grant ≤ requested
    | _ => True

variable {requested : Nat}

theorem within_enterCidr (atMost : call.granted ≤ requested) :
    (call.enterCidr rates).Within requested := by
  unfold enterCidr
  split
  · exact ⟨atMost, trivial⟩
  · split_ifs
    · exact ⟨atMost, trivial⟩
    · exact ⟨atMost, trivial⟩

theorem within_start (lease : Lease ι κ σ) (requested : Nat) :
    (start rates lease requested).Within requested := by
  unfold start
  split_ifs
  · exact ⟨le_rfl, trivial⟩
  · split
    · exact within_enterCidr le_rfl
    · split_ifs
      · exact within_enterCidr le_rfl
      · exact ⟨le_rfl, trivial⟩

theorem within_finishCidr {cidrGranted : Nat} (atMost : cidrGranted ≤ requested) :
    (call.finishCidr cidrGranted).Within requested := by
  unfold finishCidr
  split_ifs
  · exact ⟨atMost, trivial⟩
  · exact ⟨atMost, trivial⟩

theorem within_refund {bytes : Nat} (within : call.Within requested) (ended : call.phase = .returned) :
    (call.refund bytes).Within requested := by
  unfold refund
  split_ifs
  · exact within
  · exact ⟨within.1, trivial⟩
  · exact ⟨within.1, trivial⟩
  · refine ⟨(Nat.sub_le _ _).trans within.1, ?_⟩
    rw [ended]
    trivial

theorem within_stepUser {cap clock : Nat} {bucket : DirectionBucket} {raceLost : Bool}
    {phase : UserPhase} (here : call.phase = .user phase) (within : call.Within requested) :
    (call.stepUser rates cap clock bucket raceLost phase).2.Within requested := by
  obtain ⟨atMost, next⟩ := within
  cases phase with
  | clock | resetUsed | giveBack bytes => exact ⟨atMost, trivial⟩
  | loadEpoch epoch
  | swapEpoch => dsimp only [stepUser]; split_ifs <;> exact ⟨atMost, trivial⟩
  | load =>
    dsimp only [stepUser]
    split_ifs
    · exact ⟨Nat.zero_le _, trivial⟩
    · exact ⟨Nat.zero_le _, trivial⟩
    · exact ⟨atMost, (min_le_left _ _).trans atMost⟩
  | swap =>
    rw [here] at next
    dsimp only [stepUser]
    split_ifs
    · exact within_enterCidr next
    · exact ⟨atMost, trivial⟩
  | refund =>
    dsimp only [stepUser]
    split_ifs
    · exact ⟨atMost, trivial⟩
    · exact ⟨(Nat.sub_le _ _).trans atMost, trivial⟩

theorem within_stepCidr {cap clock : Nat} {bucket : CidrDirectionBucket}
    {share : CidrUserDirectionState} {raceLost : Bool} {phase : CidrPhase}
    (here : call.phase = .cidr phase) (within : call.Within requested) :
    (call.stepCidr cap clock bucket share raceLost phase).2.2.Within requested := by
  obtain ⟨atMost, next⟩ := within
  cases phase with
  | loadEpoch epoch | swapEpoch epoch current | shareLoadEpoch epoch
  | shareSwapEpoch => dsimp only [stepCidr]; split_ifs <;> exact ⟨atMost, trivial⟩
  | load fairShare =>
    dsimp only [stepCidr]
    split_ifs
    · exact within_finishCidr (Nat.zero_le _)
    · exact ⟨atMost, trivial⟩
  | shareLoad fairShare totalUsed =>
    dsimp only [stepCidr]
    generalize chosen : (if fairShare - share.used > 0 then
      min (min call.granted (fairShare - share.used)) (cap - totalUsed)
      else min (min call.granted (cap - totalUsed)) maxBorrowChunkBytes) = grant
    have bound : grant ≤ call.granted := by
      split_ifs at chosen <;> omega
    split_ifs
    · exact within_finishCidr (Nat.zero_le _)
    · exact ⟨atMost, bound.trans atMost⟩
  | swap _ _ grant =>
    rw [here] at next
    dsimp only [stepCidr]
    split_ifs
    · exact ⟨atMost, next⟩
    · exact ⟨atMost, trivial⟩
  | shareAdd =>
    rw [here] at next
    exact within_finishCidr next
  | shareRefund => exact ⟨(Nat.sub_le _ _).trans atMost, trivial⟩
  | _ => exact ⟨atMost, trivial⟩

end Call

namespace Limiter
variable {rates : Rates ι κ} {s t : Limiter ι κ σ}

def requestOf : Event ι κ σ → List Nat
  | .tick _ => []
  | .tryConsume _ requested => [requested]
  | .refund _ _ => []
  | .advance _ _ => []

def AllWithin (requests : List Nat) (s : Limiter ι κ σ) : Prop :=
  List.Forall₂ (fun requested call => Call.Within requested call) requests s.calls

theorem forall₂_set {α β : Type} {rel : α → β → Prop} {left : List α} {right : List β}
    (all : List.Forall₂ rel left right) {i : Nat} {old new : β} (position : right[i]? = some old)
    (keep : ∀ a, rel a old → rel a new) : List.Forall₂ rel left (right.set i new) := by
  induction all generalizing i with
  | nil => cases position
  | cons head tail ih =>
    cases i with
    | zero =>
      cases position
      exact .cons (keep _ head) tail
    | succ i => exact .cons head (ih position)

theorem AllWithin.step [DecidableEq ι] [DecidableEq κ] [DecidableEq σ] {requests : List Nat}
    {event : Event ι κ σ} (within : s.AllWithin requests) (taken : s.step rates event = some t) :
    t.AllWithin (requests ++ requestOf event) := by
  cases event with
  | tick =>
    dsimp only [Limiter.step] at taken
    split_ifs at taken
    cases taken
    rw [requestOf, List.append_nil]
    exact within
  | tryConsume lease requested =>
    cases taken
    exact List.rel_append within (.cons (Call.within_start lease requested) .nil)
  | refund i =>
    obtain ⟨call, position, taken⟩ := Option.bind_eq_some_iff.mp taken
    split_ifs at taken with allowed
    cases taken
    rw [requestOf, List.append_nil]
    exact forall₂_set within position fun _ before => Call.within_refund before allowed.1
  | advance i =>
    obtain ⟨call, position, taken⟩ := Option.bind_eq_some_iff.mp taken
    unfold Limiter.advance at taken
    rw [requestOf, List.append_nil]
    cases here : call.phase with
    | returned =>
      rw [here] at taken
      cases taken
    | user phase =>
      rw [here] at taken
      obtain ⟨b, _, rfl⟩ := Option.map_eq_some_iff.mp taken
      exact forall₂_set within position fun _ before => Call.within_stepUser here before
    | cidr =>
      rw [here] at taken
      obtain ⟨⟨k, u⟩, _, rfl⟩ := Option.map_eq_some_iff.mp taken
      exact forall₂_set within position fun _ before => Call.within_stepCidr here before

theorem AllWithin.run [DecidableEq ι] [DecidableEq κ] [DecidableEq σ] {requests : List Nat}
    {events : List (Event ι κ σ)} (within : s.AllWithin requests)
    (run : runFrom (Limiter.step rates) s events = some t) :
    t.AllWithin (requests ++ events.flatMap requestOf) := by
  induction events generalizing s requests with
  | nil =>
    cases run
    simpa using within
  | cons _ _ ih =>
    obtain ⟨_, taken, rest⟩ := runFrom_cons_eq_some.mp run
    rw [List.flatMap_cons, ← List.append_assoc]
    exact ih (within.step taken) rest

theorem granted_le_requested [DecidableEq ι] [DecidableEq κ] [DecidableEq σ]
    {events : List (Event ι κ σ)} (run : runFrom (Limiter.step rates) {} events = some s) :
    List.Forall₂ (fun requested call => call.granted ≤ requested) (events.flatMap requestOf) s.calls := by
  have start : AllWithin [] ({} : Limiter ι κ σ) := List.Forall₂.nil
  exact (start.run run).imp fun _ _ both => both.1

-- The first call loses a race for the user bucket, and a hundred of its bytes come back.
def contendedRequests : List (Event Unit Unit Unit) :=
  [.tick 1, .tryConsume ⟨some (), some ((), ())⟩ 600] ++ advances 0 5 ++ [.advance 0 true] ++
    advances 0 16 ++ [.refund 0 100] ++ advances 0 3 ++
    [.tryConsume ⟨some (), some ((), ())⟩ 1500] ++ advances 1 12

theorem contended_requests_within :
    ∃ s, runFrom (Limiter.step thousandPerEpoch) {} contendedRequests = some s ∧
      s.calls.map Call.granted = [500, 500] ∧
      List.Forall₂ (fun requested call => call.granted ≤ requested) [600, 1500] s.calls := by
  have reached : (runFrom (Limiter.step thousandPerEpoch) {} contendedRequests).map
      (fun s => s.calls.map Call.granted) = some [500, 500] := by decide +kernel
  obtain ⟨s, run, granted⟩ := Option.map_eq_some_iff.mp reached
  exact ⟨s, run, granted, granted_le_requested run⟩

end Limiter

end Telemt.TrafficLimiter
