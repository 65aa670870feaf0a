import Telemt.TrafficLimiter.Calls

namespace Telemt.TrafficLimiter
open Foundation

variable {ι κ σ : Type}

theorem withinBudget_set {α β : Type} {capped : β → Prop} {cap : β → Nat} {meter meter' : β → Meter}
    {holder : β → α → MeterHolder} {values : List α} {i : Nat} {value value' : α}
    (within : ∀ b, capped b → WithinBudget (cap b) (meter b) (values.map (holder b)))
    (position : values[i]? = some value)
    (moved : ∀ b, capped b → MeterMove (cap b) (Quiet (values.map (holder b))) (meter b)
      (holder b value) (meter' b) (holder b value')) (b : β) (applies : capped b) :
    WithinBudget (cap b) (meter' b) ((values.set i value').map (holder b)) := by
  rw [List.map_set]
  refine (within b applies).move ?_ (moved b applies)
  rw [List.getElem?_map, position]
  rfl

variable {call : Call ι κ σ}

theorem sound_set {rates : Rates ι κ} {calls : List (Call ι κ σ)} {i : Nat}
    (sound : ∀ call ∈ calls, call.Sound rates) (next : call.Sound rates) :
    ∀ other ∈ calls.set i call, other.Sound rates := by
  intro other member
  rcases List.mem_or_eq_of_mem_set member with old | new
  · exact sound other old
  · exact new ▸ next

def Call.userHolder [DecidableEq ι] (b : ι) (call : Call ι κ σ) : MeterHolder :=
  if call.lease.userBucket = some b then call.userView else {}

def Call.cidrHolder [DecidableEq κ] (k : κ) (call : Call ι κ σ) : MeterHolder :=
  if call.lease.cidr.map Prod.fst = some k then call.cidrView else {}

theorem Call.userHolder_congr [DecidableEq ι] {call' : Call ι κ σ}
    (lease : call'.lease = call.lease) (view : call'.userView = call.userView) (b : ι) :
    call'.userHolder b = call.userHolder b := by
  rw [userHolder, userHolder, lease, view]

theorem Call.cidrHolder_congr [DecidableEq κ] {call' : Call ι κ σ}
    (lease : call'.lease = call.lease) (view : call'.cidrView = call.cidrView) (k : κ) :
    call'.cidrHolder k = call.cidrHolder k := by
  rw [cidrHolder, cidrHolder, lease, view]

variable [DecidableEq ι] [DecidableEq κ]

namespace Limiter
variable (s : Limiter ι κ σ)

def userHolders (b : ι) : List MeterHolder := s.calls.map (Call.userHolder b)

def cidrHolders (k : κ) : List MeterHolder := s.calls.map (Call.cidrHolder k)

def userGranted (b : ι) (epoch : Nat) : Nat := grantedIn epoch (s.userHolders b)

def cidrGranted (k : κ) (epoch : Nat) : Nat := grantedIn epoch (s.cidrHolders k)

def TimelyCall (call : Call ι κ σ) : Prop :=
  match call.phase with
  | .returned => True
  | .user phase =>
    ∀ b ∈ call.lease.userBucket, call.UserTimely (Quiet (s.userHolders b)) s.clock (s.users b) phase
  | .cidr phase =>
    ∀ bucket ∈ call.lease.cidr,
      call.CidrTimely (Quiet (s.cidrHolders bucket.1)) s.clock (s.cidrs bucket.1) phase

/-- A bucket grants only in the epoch of the clock and while no call stands between changing its epoch
and clearing it, and no bucket is refunded in a later epoch than that of the grant. -/
def Timely : Event ι κ σ → Prop
  | .advance i _ => ∀ call ∈ s.calls[i]?, s.TimelyCall call
  | _ => True

instance (holders : List MeterHolder) : Decidable (Quiet holders) :=
  inferInstanceAs (Decidable (∀ h ∈ holders, h.clearing = false))

instance (call : Call ι κ σ) : Decidable (s.TimelyCall call) := by
  unfold TimelyCall
  split
  · infer_instance
  · unfold Call.UserTimely
    split <;> infer_instance
  · unfold Call.CidrTimely
    split <;> infer_instance

instance (event : Event ι κ σ) : Decidable (s.Timely event) := by
  cases event <;> unfold Timely <;> infer_instance

structure Metered (rates : Rates ι κ) (s : Limiter ι κ σ) : Prop where
  sound : ∀ call ∈ s.calls, call.Sound rates
  user : ∀ b, rates.user b ≠ 0 →
    WithinBudget (bytesPerEpoch (rates.user b)) (s.users b).meter (s.userHolders b)
  cidr : ∀ k, rates.cidr k ≠ 0 →
    WithinBudget (bytesPerEpoch (rates.cidr k)) (s.cidrs k).meter (s.cidrHolders k)

end Limiter

namespace Limiter
variable {rates : Rates ι κ} {s t : Limiter ι κ σ}

theorem Metered.start : Metered rates ({} : Limiter ι κ σ) where
  sound := nofun
  user _ _ := WithinBudget.fresh _
  cidr _ _ := WithinBudget.fresh _

theorem Metered.tryConsume (metered : Metered rates s) (lease : Lease ι κ σ) (requested : Nat) :
    Metered rates { s with calls := s.calls ++ [Call.start rates lease requested] } := by
  obtain ⟨userView, cidrView⟩ := @Call.start_views ι κ σ rates lease requested
  refine ⟨?_, ?_, ?_⟩
  · intro call member
    rcases List.mem_append.mp member with old | new
    · exact metered.sound call old
    · rw [List.mem_singleton.mp new]
      exact Call.start_sound lease requested
  · intro b capped
    have empty : (Call.start rates lease requested).userHolder b = ⟨0, 0, false⟩ := by
      rw [Call.userHolder, userView]
      exact ite_self _
    unfold userHolders
    rw [List.map_append, List.map_singleton, empty]
    exact (metered.user b capped).join rfl rfl
  · intro k capped
    have empty : (Call.start rates lease requested).cidrHolder k = ⟨0, 0, false⟩ := by
      rw [Call.cidrHolder, cidrView]
      exact ite_self _
    unfold cidrHolders
    rw [List.map_append, List.map_singleton, empty]
    exact (metered.cidr k capped).join rfl rfl

variable {i : Nat} {call : Call ι κ σ}

theorem Metered.refund (metered : Metered rates s) {bytes : Nat}
    (position : s.calls[i]? = some call) (ended : call.phase = .returned)
    (atMost : bytes ≤ call.granted) :
    Metered rates { s with calls := s.calls.set i (call.refund bytes) } := by
  obtain ⟨lease, userView, cidrView⟩ := @Call.refund_same ι κ σ call bytes ended
  have sound := metered.sound call (List.mem_of_getElem? position)
  refine ⟨sound_set metered.sound (Call.refund_sound sound ended atMost),
    withinBudget_set metered.user position fun b _ => ?_,
    withinBudget_set metered.cidr position fun k _ => ?_⟩
  · rw [Call.userHolder_congr lease userView b]
    exact .stay _ _
  · rw [Call.cidrHolder_congr lease cidrView k]
    exact .stay _ _

theorem Metered.advanceUser (metered : Metered rates s) {raceLost : Bool} {phase : UserPhase}
    {b : ι} (position : s.calls[i]? = some call) (here : call.phase = .user phase)
    (mine : call.lease.userBucket = some b)
    (timely : call.UserTimely (Quiet (s.userHolders b)) s.clock (s.users b) phase) :
    let after := call.stepUser rates (bytesPerEpoch (rates.user b)) s.clock (s.users b) raceLost phase
    Metered rates
      { s with users := Function.update s.users b after.1, calls := s.calls.set i after.2 } := by
  intro after
  have sound : call.SoundUser rates phase := by
    have whole := metered.sound call (List.mem_of_getElem? position)
    unfold Call.Sound at whole
    rw [here] at whole
    exact whole
  obtain ⟨lease, held⟩ : after.2.lease = call.lease ∧ _ := Call.stepUser_same here
  have next : after.2.Sound rates := Call.stepUser_sound mine sound
  refine ⟨sound_set metered.sound next, withinBudget_set metered.user position fun b' capped => ?_,
    withinBudget_set metered.cidr position fun k _ => ?_⟩
  · rw [Call.userHolder, Call.userHolder, lease, mine]
    dsimp only
    by_cases same : b' = b
    · subst same
      rw [Function.update_self, if_pos rfl, if_pos rfl]
      exact Call.stepUser_move here mine capped sound timely
    · have apart : some b ≠ some b' := fun equal => same (Option.some.inj equal).symm
      rw [Function.update_of_ne same, if_neg apart, if_neg apart]
      exact .stay _ _
  · rw [Call.cidrHolder_congr lease held k]
    exact .stay _ _

theorem Metered.advanceCidr [DecidableEq σ] (metered : Metered rates s) {raceLost : Bool}
    {phase : CidrPhase} {k : κ} {u : σ} (position : s.calls[i]? = some call)
    (here : call.phase = .cidr phase) (mine : call.lease.cidr = some (k, u))
    (timely : call.CidrTimely (Quiet (s.cidrHolders k)) s.clock (s.cidrs k) phase) :
    let after :=
      call.stepCidr (bytesPerEpoch (rates.cidr k)) s.clock (s.cidrs k) (s.shares u) raceLost phase
    Metered rates
      { s with
        cidrs := Function.update s.cidrs k after.1
        shares := Function.update s.shares u after.2.1
        calls := s.calls.set i after.2.2 } := by
  intro after
  have sound : call.SoundCidr rates phase := by
    have whole := metered.sound call (List.mem_of_getElem? position)
    unfold Call.Sound at whole
    rw [here] at whole
    exact whole
  obtain ⟨lease, held⟩ : after.2.2.lease = call.lease ∧ _ := Call.stepCidr_same here
  have next : after.2.2.Sound rates := Call.stepCidr_sound mine sound
  have bucket : call.lease.cidr.map Prod.fst = some k := by
    rw [mine]
    rfl
  refine ⟨sound_set metered.sound next, withinBudget_set metered.user position fun b _ => ?_,
    withinBudget_set metered.cidr position fun k' capped => ?_⟩
  · rw [Call.userHolder_congr lease held b]
    exact .stay _ _
  · rw [Call.cidrHolder, Call.cidrHolder, lease, bucket]
    dsimp only
    by_cases same : k' = k
    · subst same
      rw [Function.update_self, if_pos rfl, if_pos rfl]
      exact Call.stepCidr_move here mine capped sound timely
    · have apart : some k ≠ some k' := fun equal => same (Option.some.inj equal).symm
      rw [Function.update_of_ne same, if_neg apart, if_neg apart]
      exact .stay _ _

theorem Metered.step [DecidableEq σ] (metered : Metered rates s) {event : Event ι κ σ}
    (timely : s.Timely event) (taken : s.step rates event = some t) : Metered rates t := by
  cases event with
  | tick =>
    dsimp only [Limiter.step] at taken
    split_ifs at taken
    cases taken
    exact ⟨metered.sound, metered.user, metered.cidr⟩
  | tryConsume lease requested =>
    cases taken
    exact metered.tryConsume lease requested
  | refund i =>
    obtain ⟨call, position, taken⟩ := Option.bind_eq_some_iff.mp taken
    split_ifs at taken with allowed
    cases taken
    exact metered.refund position allowed.1 allowed.2
  | advance i =>
    obtain ⟨call, position, taken⟩ := Option.bind_eq_some_iff.mp taken
    have onTime := timely call position
    unfold Limiter.advance at taken
    unfold TimelyCall at onTime
    cases here : call.phase with
    | returned =>
      rw [here] at taken
      cases taken
    | user phase =>
      rw [here] at taken onTime
      obtain ⟨b, mine, rfl⟩ := Option.map_eq_some_iff.mp taken
      exact metered.advanceUser position here mine (onTime b mine)
    | cidr =>
      rw [here] at taken onTime
      obtain ⟨⟨k, u⟩, mine, rfl⟩ := Option.map_eq_some_iff.mp taken
      exact metered.advanceCidr position here mine (onTime (k, u) mine)

end Limiter

theorem epoch_grants_within_cap [DecidableEq σ] (rates : Rates ι κ) (events : List (Event ι κ σ))
    (s : Limiter ι κ σ) (timely : Guarded (Limiter.step rates) Limiter.Timely {} events)
    (run : runFrom (Limiter.step rates) {} events = some s) :
    (∀ b epoch, rates.user b ≠ 0 → s.userGranted b epoch ≤ bytesPerEpoch (rates.user b)) ∧
      ∀ k epoch, rates.cidr k ≠ 0 → s.cidrGranted k epoch ≤ bytesPerEpoch (rates.cidr k) := by
  have metered : Limiter.Metered rates s := by
    apply runFrom_invariant (Limiter.Metered rates) _ timely Limiter.Metered.start run
    intro s event t onTime before taken
    exact before.step onTime taken
  refine ⟨?_, ?_⟩
  · intro b epoch capped
    exact (metered.user b capped).granted_le epoch
  · intro k epoch capped
    exact (metered.cidr k capped).granted_le epoch

def thousandPerEpoch : Rates Unit Unit := { user := fun _ => 400000, cidr := fun _ => 400000 }

def advances (call count : Nat) : List (Event Unit Unit Unit) := List.replicate count (.advance call false)

def refundInTime : List (Event Unit Unit Unit) :=
  [.tick 1, .tryConsume ⟨some (), some ((), ())⟩ 600] ++ advances 0 20 ++ [.refund 0 600] ++
    advances 0 3 ++ [.tryConsume ⟨some (), some ((), ())⟩ 1500] ++ advances 1 12

theorem refund_in_time_within_cap :
    ∃ s, runFrom (Limiter.step thousandPerEpoch) {} refundInTime = some s ∧
      s.userGranted () 1 = 1000 ∧ s.userGranted () 1 ≤ bytesPerEpoch 400000 ∧
      s.cidrGranted () 1 ≤ bytesPerEpoch 400000 := by
  have timely : Guarded (Limiter.step thousandPerEpoch) Limiter.Timely {} refundInTime := by
    decide +kernel
  have reached : (runFrom (Limiter.step thousandPerEpoch) {} refundInTime).map
      (fun s => s.userGranted () 1) = some 1000 := by decide +kernel
  obtain ⟨s, run, granted⟩ := Option.map_eq_some_iff.mp reached
  obtain ⟨user, cidr⟩ := epoch_grants_within_cap thousandPerEpoch refundInTime s timely run
  exact ⟨s, run, granted, user () 1 (by decide), cidr () 1 (by decide)⟩

-- The thousand bytes of epoch 1 come back in epoch 2, and are granted there a second time.
def refundInNextEpoch : List (Event Unit Unit Unit) :=
  [.tick 1, .tryConsume ⟨some (), none⟩ 1000] ++ advances 0 6 ++
    [.tick 2, .tryConsume ⟨some (), none⟩ 1000] ++ advances 1 6 ++
    [.refund 0 1000] ++ advances 0 1 ++ [.tryConsume ⟨some (), none⟩ 1000] ++ advances 2 4

theorem late_refund_exceeds_cap :
    ∃ s, runFrom (Limiter.step thousandPerEpoch) {} refundInNextEpoch = some s ∧
      s.userGranted () 2 = 2000 ∧ ¬s.userGranted () 2 ≤ bytesPerEpoch (thousandPerEpoch.user ()) := by
  have reached : (runFrom (Limiter.step thousandPerEpoch) {} refundInNextEpoch).map
      (fun s => s.userGranted () 2) = some 2000 := by decide +kernel
  obtain ⟨s, run, granted⟩ := Option.map_eq_some_iff.mp reached
  refine ⟨s, run, granted, ?_⟩
  rw [granted]
  decide

end Telemt.TrafficLimiter
