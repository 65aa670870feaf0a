import Telemt.TrafficLimiter.Buckets

namespace Telemt.TrafficLimiter
open Foundation

variable {ι κ σ : Type}

namespace Call
variable (call : Call ι κ σ)

def inUserReset : Bool :=
  match call.phase with
  | .user .resetUsed => true
  | _ => false

def inCidrReset : Bool :=
  match call.phase with
  | .cidr (.resetUsed _) => true
  | _ => false

def userView : MeterHolder := ⟨call.userEpoch, call.userHeld, call.inUserReset⟩

def cidrView : MeterHolder := ⟨call.cidrEpoch, call.cidrHeld, call.inCidrReset⟩

variable (rates : Rates ι κ)

def OwnsUser (bytes : Nat) : Prop :=
  ∀ b, call.lease.userBucket = some b → rates.user b ≠ 0 → bytes ≤ call.userHeld

def OwnsCidr (bytes : Nat) : Prop :=
  ∀ k u, call.lease.cidr = some (k, u) → rates.cidr k ≠ 0 → bytes ≤ call.cidrHeld

def SoundUser : UserPhase → Prop
  | .swapEpoch epoch current => current < epoch ∧ call.userHeld = 0 ∧ call.cidrHeld = 0
  | .swap used grant =>
    (∀ b, call.lease.userBucket = some b → used + grant ≤ bytesPerEpoch (rates.user b)) ∧
      call.userHeld = 0 ∧ call.cidrHeld = 0
  | .giveBack bytes => call.OwnsUser rates (call.granted + bytes) ∧ call.OwnsCidr rates call.granted
  | .refund bytes =>
    bytes ≤ call.granted ∧ call.OwnsUser rates call.granted ∧ call.OwnsCidr rates call.granted
  | _ => call.userHeld = 0 ∧ call.cidrHeld = 0

def SoundCidr : CidrPhase → Prop
  | .swapEpoch epoch current =>
    current < epoch ∧ call.OwnsUser rates call.granted ∧ call.cidrHeld = 0
  | .shareLoad _ totalUsed =>
    (∀ k u, call.lease.cidr = some (k, u) → totalUsed ≤ bytesPerEpoch (rates.cidr k)) ∧
      call.OwnsUser rates call.granted ∧ call.cidrHeld = 0
  | .swap _ totalUsed grant =>
    (∀ k u, call.lease.cidr = some (k, u) → totalUsed + grant ≤ bytesPerEpoch (rates.cidr k)) ∧
      grant ≤ call.granted ∧ call.OwnsUser rates call.granted ∧ call.cidrHeld = 0
  | .shareAdd grant =>
    grant ≤ call.granted ∧ call.OwnsUser rates call.granted ∧ call.OwnsCidr rates grant
  | .refund bytes =>
    bytes ≤ call.granted ∧ call.OwnsUser rates (call.granted - bytes) ∧
      call.OwnsCidr rates call.granted
  | .shareRefund bytes =>
    call.OwnsUser rates (call.granted - bytes) ∧ call.OwnsCidr rates (call.granted - bytes)
  | _ => call.OwnsUser rates call.granted ∧ call.cidrHeld = 0

def Sound : Prop :=
  match call.phase with
  | .user phase => call.SoundUser rates phase
  | .cidr phase => call.SoundCidr rates phase
  | .returned => call.OwnsUser rates call.granted ∧ call.OwnsCidr rates call.granted

variable {rates} {call : Call ι κ σ}

theorem OwnsUser.mono {more less : Nat} (owns : call.OwnsUser rates more) (fewer : less ≤ more) :
    call.OwnsUser rates less := by
  intro b bucket capped
  exact fewer.trans (owns b bucket capped)

theorem OwnsCidr.mono {more less : Nat} (owns : call.OwnsCidr rates more) (fewer : less ≤ more) :
    call.OwnsCidr rates less := by
  intro k u bucket capped
  exact fewer.trans (owns k u bucket capped)

theorem ownsCidr_zero : call.OwnsCidr rates 0 := fun _ _ _ _ => Nat.zero_le _

theorem ownsUser_zero : call.OwnsUser rates 0 := fun _ _ _ => Nat.zero_le _

theorem enterCidr_sound (owns : call.OwnsUser rates call.granted) (unused : call.cidrHeld = 0) :
    (call.enterCidr rates).Sound rates := by
  unfold enterCidr
  split
  · rename_i absent
    refine ⟨owns, ?_⟩
    intro k u present _
    cases absent.symm.trans present
  · rename_i k u present
    split_ifs with uncapped
    · refine ⟨owns, ?_⟩
      intro k' u' present' capped
      cases present.symm.trans present'
      exact absurd uncapped capped
    · exact ⟨owns, unused⟩

theorem start_sound (lease : Lease ι κ σ) (requested : Nat) : (start rates lease requested).Sound rates := by
  unfold start
  split_ifs with nothing
  · subst nothing
    exact ⟨ownsUser_zero, ownsCidr_zero⟩
  · split
    · rename_i absent
      apply enterCidr_sound _ rfl
      intro b present _
      cases absent.symm.trans present
    · rename_i b present
      split_ifs with uncapped
      · apply enterCidr_sound _ rfl
        intro b' present' capped
        cases present.symm.trans present'
        exact absurd uncapped capped
      · exact ⟨rfl, rfl⟩

theorem finishCidr_sound {cidrGranted : Nat} (fewer : cidrGranted ≤ call.granted)
    (owns : call.OwnsUser rates call.granted) (ownsCidr : call.OwnsCidr rates cidrGranted) :
    (call.finishCidr cidrGranted).Sound rates := by
  unfold finishCidr
  split_ifs
  · refine ⟨?_, ownsCidr⟩
    exact owns.mono (Nat.add_sub_of_le fewer).le
  · exact ⟨owns.mono fewer, ownsCidr⟩

theorem refund_sound {bytes : Nat} (sound : call.Sound rates) (ended : call.phase = .returned)
    (atMost : bytes ≤ call.granted) : (call.refund bytes).Sound rates := by
  unfold Sound at sound
  rw [ended] at sound
  unfold refund
  split_ifs with nothing someUser someCidr
  · unfold Sound
    rw [ended]
    exact sound
  · exact ⟨atMost, sound⟩
  · exact ⟨atMost, sound.1.mono (Nat.sub_le _ _), sound.2⟩
  · unfold Sound
    rw [ended]
    exact ⟨sound.1.mono (Nat.sub_le _ _), sound.2.mono (Nat.sub_le _ _)⟩

theorem stepUser_sound {b : ι} {clock : Nat} {bucket : DirectionBucket} {raceLost : Bool}
    {phase : UserPhase} (mine : call.lease.userBucket = some b) (sound : call.SoundUser rates phase) :
    (call.stepUser rates (bytesPerEpoch (rates.user b)) clock bucket raceLost phase).2.Sound rates := by
  cases phase with
  | clock | resetUsed => exact sound
  | loadEpoch epoch =>
    dsimp only [stepUser]
    split_ifs with later
    · exact ⟨later, sound⟩
    · exact sound
  | swapEpoch =>
    dsimp only [stepUser]
    split_ifs
    · exact sound.2
    · exact sound.2
  | load =>
    dsimp only [stepUser]
    split_ifs
    · exact ⟨ownsUser_zero, ownsCidr_zero⟩
    · exact ⟨ownsUser_zero, ownsCidr_zero⟩
    · refine ⟨?_, sound⟩
      intro b' mine'
      cases mine.symm.trans mine'
      omega
  | swap =>
    dsimp only [stepUser]
    split_ifs
    · refine enterCidr_sound ?_ sound.2.2
      intro b' _ _
      exact le_rfl
    · exact sound.2
  | giveBack bytes =>
    refine ⟨?_, sound.2⟩
    intro b' mine' capped
    have owned := sound.1 b' mine' capped
    show call.granted ≤ call.userHeld - bytes
    omega
  | refund bytes =>
    obtain ⟨atMost, owns, ownsCidr⟩ := sound
    have left : ∀ b', call.lease.userBucket = some b' → rates.user b' ≠ 0 →
        call.granted - bytes ≤ call.userHeld - bytes := by
      intro b' mine' capped
      exact Nat.sub_le_sub_right (owns b' mine' capped) bytes
    dsimp only [stepUser]
    split_ifs
    · exact ⟨atMost, left, ownsCidr⟩
    · exact ⟨left, ownsCidr.mono (Nat.sub_le _ _)⟩

theorem stepCidr_sound {k : κ} {u : σ} {clock : Nat} {bucket : CidrDirectionBucket}
    {share : CidrUserDirectionState} {raceLost : Bool} {phase : CidrPhase}
    (mine : call.lease.cidr = some (k, u)) (sound : call.SoundCidr rates phase) :
    (call.stepCidr (bytesPerEpoch (rates.cidr k)) clock bucket share raceLost phase).2.2.Sound rates := by
  cases phase with
  | clock | resetUsed epoch | resetActive epoch | shareResetUsed | markActive | loadActive
  | shareRefund bytes => exact sound
  | loadEpoch epoch =>
    dsimp only [stepCidr]
    split_ifs with later
    · exact ⟨later, sound⟩
    · exact sound
  | swapEpoch epoch current =>
    dsimp only [stepCidr]
    split_ifs
    · exact sound.2
    · exact sound.2
  | shareLoadEpoch epoch | shareSwapEpoch epoch current =>
    dsimp only [stepCidr]
    split_ifs
    · exact sound
    · exact sound
  | load fairShare =>
    dsimp only [stepCidr]
    split_ifs with full
    · exact finishCidr_sound (Nat.zero_le _) sound.1 ownsCidr_zero
    · refine ⟨?_, sound⟩
      intro k' u' mine'
      cases mine.symm.trans mine'
      exact Nat.le_of_not_le full
  | shareLoad fairShare totalUsed =>
    obtain ⟨_, owns, unused⟩ := sound
    dsimp only [stepCidr]
    generalize chosen : (if fairShare - share.used > 0 then
      min (min call.granted (fairShare - share.used)) (bytesPerEpoch (rates.cidr k) - totalUsed)
      else min (min call.granted (bytesPerEpoch (rates.cidr k) - totalUsed)) maxBorrowChunkBytes) = grant
    have bounds : grant ≤ call.granted ∧ grant ≤ bytesPerEpoch (rates.cidr k) - totalUsed := by
      split_ifs at chosen <;> omega
    split_ifs
    · exact finishCidr_sound (Nat.zero_le _) owns ownsCidr_zero
    · refine ⟨?_, bounds.1, owns, unused⟩
      intro k' u' mine'
      cases mine.symm.trans mine'
      omega
  | swap _ _ grant =>
    obtain ⟨_, atMost, owns, unused⟩ := sound
    dsimp only [stepCidr]
    split_ifs
    · refine ⟨atMost, owns, ?_⟩
      intro k' u' _ _
      exact le_rfl
    · exact ⟨owns, unused⟩
  | shareAdd => exact finishCidr_sound sound.1 sound.2.1 sound.2.2
  | refund bytes =>
    obtain ⟨_, owns, ownsCidr⟩ := sound
    refine ⟨owns, ?_⟩
    intro k' u' mine' capped
    exact Nat.sub_le_sub_right (ownsCidr k' u' mine' capped) bytes

-- Nobody is resetting the bucket that grants, its epoch is the one of the clock, and a bucket is given
-- back what it granted in the epoch it is in.
def UserTimely (quiet : Prop) (clock : Nat) (bucket : DirectionBucket) (call : Call ι κ σ) :
    UserPhase → Prop
  | .swap used _ => bucket.used = used → quiet ∧ bucket.epoch = clock
  | .giveBack _ => call.userEpoch = bucket.epoch
  | .refund _ => call.userEpoch = bucket.epoch
  | _ => True

def CidrTimely (quiet : Prop) (clock : Nat) (bucket : CidrDirectionBucket) (call : Call ι κ σ) :
    CidrPhase → Prop
  | .swap _ used _ => bucket.used = used → quiet ∧ bucket.epoch = clock
  | .refund _ => call.cidrEpoch = bucket.epoch
  | _ => True

end Call

def DirectionBucket.meter (bucket : DirectionBucket) : Meter := ⟨bucket.epoch, bucket.used⟩

def CidrDirectionBucket.meter (bucket : CidrDirectionBucket) : Meter := ⟨bucket.epoch, bucket.used⟩

namespace Call
variable {rates : Rates ι κ} {call : Call ι κ σ}

theorem enterCidr_same (user : call.inUserReset = false) (cidr : call.inCidrReset = false) :
    (call.enterCidr rates).lease = call.lease ∧ (call.enterCidr rates).userView = call.userView ∧
      (call.enterCidr rates).cidrView = call.cidrView := by
  rw [userView, userView, cidrView, cidrView, user, cidr]
  unfold enterCidr
  split
  · exact ⟨rfl, rfl, rfl⟩
  · split_ifs <;> exact ⟨rfl, rfl, rfl⟩

theorem finishCidr_same (cidrGranted : Nat) (user : call.inUserReset = false)
    (cidr : call.inCidrReset = false) :
    (call.finishCidr cidrGranted).userView = call.userView ∧
      (call.finishCidr cidrGranted).cidrView = call.cidrView := by
  rw [userView, userView, cidrView, cidrView, user, cidr]
  unfold finishCidr
  split_ifs <;> exact ⟨rfl, rfl⟩

variable {clock : Nat} {raceLost : Bool}

theorem stepUser_move {b : ι} {bucket : DirectionBucket} {quiet : Prop} {phase : UserPhase}
    (here : call.phase = .user phase) (mine : call.lease.userBucket = some b)
    (capped : rates.user b ≠ 0) (sound : call.SoundUser rates phase)
    (timely : call.UserTimely quiet clock bucket phase) :
    let after := call.stepUser rates (bytesPerEpoch (rates.user b)) clock bucket raceLost phase
    MeterMove (bytesPerEpoch (rates.user b)) quiet bucket.meter call.userView after.1.meter
      after.2.userView := by
  intro after
  obtain ⟨_, _, _, _, _, userEpoch, userHeld, _, _⟩ := call
  cases here
  cases phase with
  | clock => exact .stay _ _
  | loadEpoch epoch =>
    dsimp only [after, stepUser]
    split_ifs
    · exact .stay _ _
    · exact .stay _ _
  | swapEpoch epoch =>
    dsimp only [after, stepUser]
    split_ifs with unchanged
    · exact .advance bucket.meter ⟨userEpoch, userHeld, false⟩ epoch (unchanged.le.trans_lt sound.1)
    · exact .stay _ _
  | resetUsed => exact .clear bucket.meter ⟨userEpoch, userHeld, true⟩ rfl
  | load =>
    dsimp only [after, stepUser]
    split_ifs
    · exact .stay _ _
    · exact .stay _ _
    · exact .stay _ _
  | swap used grant =>
    dsimp only [after, stepUser]
    split_ifs with unchanged
    · rw [(enterCidr_same rfl rfl).2.1]
      obtain ⟨fits, unused, _⟩ := sound
      have room : bucket.used + grant ≤ bytesPerEpoch (rates.user b) := unchanged.1 ▸ fits b mine
      obtain ⟨free, rfl⟩ := timely unchanged.1
      rw [← unchanged.1]
      exact .grant bucket.meter ⟨userEpoch, userHeld, false⟩ grant free unused room
    · exact .stay _ _
  | giveBack bytes =>
    have owned := sound.1 b mine capped
    exact .giveBack bucket.meter ⟨userEpoch, userHeld, false⟩ bytes
      ((Nat.le_add_left _ _).trans owned) timely
  | refund bytes =>
    have owned := sound.2.1 b mine capped
    have atMost := sound.1
    dsimp only [after, stepUser]
    split_ifs
    · exact .giveBack bucket.meter ⟨userEpoch, userHeld, false⟩ bytes (atMost.trans owned) timely
    · exact .giveBack bucket.meter ⟨userEpoch, userHeld, false⟩ bytes (atMost.trans owned) timely

theorem stepCidr_move {k : κ} {u : σ} {bucket : CidrDirectionBucket}
    {share : CidrUserDirectionState} {quiet : Prop} {phase : CidrPhase}
    (here : call.phase = .cidr phase) (mine : call.lease.cidr = some (k, u))
    (capped : rates.cidr k ≠ 0) (sound : call.SoundCidr rates phase)
    (timely : call.CidrTimely quiet clock bucket phase) :
    let after := call.stepCidr (bytesPerEpoch (rates.cidr k)) clock bucket share raceLost phase
    MeterMove (bytesPerEpoch (rates.cidr k)) quiet bucket.meter call.cidrView after.1.meter
      after.2.2.cidrView := by
  intro after
  obtain ⟨_, _, _, _, _, _, _, cidrEpoch, cidrHeld⟩ := call
  cases here
  cases phase with
  | clock | resetActive epoch | shareResetUsed | markActive | loadActive
  | shareRefund bytes => exact .stay _ _
  | loadEpoch epoch | shareLoadEpoch epoch | shareSwapEpoch epoch current =>
    dsimp only [after, stepCidr]
    split_ifs
    · exact .stay _ _
    · exact .stay _ _
  | swapEpoch epoch =>
    dsimp only [after, stepCidr]
    split_ifs with unchanged
    · exact .advance bucket.meter ⟨cidrEpoch, cidrHeld, false⟩ epoch (unchanged.le.trans_lt sound.1)
    · exact .stay _ _
  | resetUsed => exact .clear bucket.meter ⟨cidrEpoch, cidrHeld, true⟩ rfl
  | load fairShare =>
    dsimp only [after, stepCidr]
    split_ifs
    · rw [(finishCidr_same 0 rfl rfl).2]
      exact .stay _ _
    · exact .stay _ _
  | shareLoad fairShare totalUsed =>
    dsimp only [after, stepCidr]
    generalize (if fairShare - share.used > 0 then _ else _ : Nat) = grant
    split_ifs
    · rw [(finishCidr_same 0 rfl rfl).2]
      exact .stay _ _
    · exact .stay _ _
  | swap _ _ grant =>
    dsimp only [after, stepCidr]
    split_ifs with unchanged
    · obtain ⟨fits, _, _, unused⟩ := sound
      have room : bucket.used + grant ≤ bytesPerEpoch (rates.cidr k) := unchanged.1 ▸ fits k u mine
      obtain ⟨free, rfl⟩ := timely unchanged.1
      rw [← unchanged.1]
      exact .grant bucket.meter ⟨cidrEpoch, cidrHeld, false⟩ grant free unused room
    · exact .stay _ _
  | shareAdd grant =>
    dsimp only [after, stepCidr]
    rw [(finishCidr_same grant rfl rfl).2]
    exact .stay _ _
  | refund bytes =>
    have owned := sound.2.2 k u mine capped
    exact .giveBack bucket.meter ⟨cidrEpoch, cidrHeld, false⟩ bytes (sound.1.trans owned) timely

theorem stepUser_same {cap : Nat} {bucket : DirectionBucket} {phase : UserPhase}
    (here : call.phase = .user phase) :
    let after := (call.stepUser rates cap clock bucket raceLost phase).2
    after.lease = call.lease ∧ after.cidrView = call.cidrView := by
  obtain ⟨⟩ := call
  cases here
  cases phase with
  | loadEpoch epoch | swapEpoch epoch current | load
  | refund => dsimp only [stepUser]; split_ifs <;> exact ⟨rfl, rfl⟩
  | swap =>
    dsimp only [stepUser]
    split_ifs
    · exact ⟨(enterCidr_same rfl rfl).1, (enterCidr_same rfl rfl).2.2⟩
    · exact ⟨rfl, rfl⟩
  | _ => exact ⟨rfl, rfl⟩

theorem stepCidr_same {cap : Nat} {bucket : CidrDirectionBucket} {share : CidrUserDirectionState}
    {phase : CidrPhase} (here : call.phase = .cidr phase) :
    let after := (call.stepCidr cap clock bucket share raceLost phase).2.2
    after.lease = call.lease ∧ after.userView = call.userView := by
  obtain ⟨⟩ := call
  cases here
  cases phase with
  | loadEpoch epoch | swapEpoch epoch current | shareLoadEpoch epoch | shareSwapEpoch epoch current
  | swap fairShare totalUsed grant => dsimp only [stepCidr]; split_ifs <;> exact ⟨rfl, rfl⟩
  | load fairShare =>
    dsimp only [stepCidr]
    split_ifs
    · exact ⟨rfl, (finishCidr_same 0 rfl rfl).1⟩
    · exact ⟨rfl, rfl⟩
  | shareLoad fairShare =>
    dsimp only [stepCidr]
    generalize (if fairShare - share.used > 0 then _ else _ : Nat) = grant
    split_ifs
    · exact ⟨rfl, (finishCidr_same 0 rfl rfl).1⟩
    · exact ⟨rfl, rfl⟩
  | shareAdd grant => exact ⟨rfl, (finishCidr_same grant rfl rfl).1⟩
  | _ => exact ⟨rfl, rfl⟩

theorem start_views (lease : Lease ι κ σ) (requested : Nat) :
    (start rates lease requested).userView = ⟨0, 0, false⟩ ∧
      (start rates lease requested).cidrView = ⟨0, 0, false⟩ := by
  unfold start
  split_ifs
  · exact ⟨rfl, rfl⟩
  · split
    · exact (enterCidr_same rfl rfl).2
    · split_ifs
      · exact (enterCidr_same rfl rfl).2
      · exact ⟨rfl, rfl⟩

theorem refund_same {bytes : Nat} (ended : call.phase = .returned) :
    (call.refund bytes).lease = call.lease ∧ (call.refund bytes).userView = call.userView ∧
      (call.refund bytes).cidrView = call.cidrView := by
  obtain ⟨⟩ := call
  cases ended
  unfold refund
  split_ifs <;> exact ⟨rfl, rfl, rfl⟩

end Call

end Telemt.TrafficLimiter
