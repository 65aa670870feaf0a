import Mathlib.Data.PNat.Defs
import Telemt.TrafficLimiter.Buckets

namespace Telemt.TrafficLimiter

/-!
# Calls that nobody interrupts

The functions of the two buckets for a caller who is alone with the limiter.
-/

namespace DirectionBucket
variable (bucket : DirectionBucket)

def syncEpoch (epoch : Nat) : DirectionBucket :=
  if bucket.epoch < epoch then { epoch := epoch, used := 0 } else bucket

def tryConsume (capBps epoch requested : Nat) : Nat × DirectionBucket :=
  if requested = 0 then (0, bucket)
  else if capBps = 0 then (requested, bucket)
  else
    let bucket := bucket.syncEpoch epoch
    let capEpoch := bytesPerEpoch capBps
    if bucket.used ≥ capEpoch then (0, bucket)
    else
      let grant := min requested (capEpoch - bucket.used)
      (grant, { bucket with used := bucket.used + grant })

def refund (bytes : Nat) : DirectionBucket :=
  { bucket with used := bucket.used - bytes }

end DirectionBucket

namespace CidrUserDirectionState

def syncEpochAndMarkActive (state : CidrUserDirectionState) (epoch activeUsers : Nat) :
    CidrUserDirectionState × Nat :=
  if state.epoch < epoch then ({ epoch := epoch, used := 0 }, activeUsers + 1)
  else (state, activeUsers)

def refund (state : CidrUserDirectionState) (bytes : Nat) : CidrUserDirectionState :=
  { state with used := state.used - bytes }

end CidrUserDirectionState

namespace CidrDirectionBucket
variable (bucket : CidrDirectionBucket)

def syncEpoch (epoch : Nat) : CidrDirectionBucket :=
  if bucket.epoch < epoch then { epoch := epoch, used := 0, activeUsers := 0 } else bucket

def grantFor (state : CidrUserDirectionState) (capEpoch requested : Nat) : Nat :=
  let fairShare := max (capEpoch / max bucket.activeUsers 1) 1
  if bucket.used ≥ capEpoch then 0
  else
    let totalRemaining := capEpoch - bucket.used
    let guaranteedRemaining := fairShare - state.used
    if guaranteedRemaining > 0 then min (min requested guaranteedRemaining) totalRemaining
    else min (min requested totalRemaining) maxBorrowChunkBytes

def tryConsume (state : CidrUserDirectionState) (capEpoch epoch requested : Nat) :
    Nat × CidrDirectionBucket × CidrUserDirectionState :=
  if requested = 0 ∨ capEpoch = 0 then (0, bucket, state)
  else
    let bucket := bucket.syncEpoch epoch
    let (state, activeUsers) := state.syncEpochAndMarkActive epoch bucket.activeUsers
    let bucket := { bucket with activeUsers := activeUsers }
    let grant := bucket.grantFor state capEpoch requested
    (grant, { bucket with used := bucket.used + grant }, { state with used := state.used + grant })

def refund (bytes : Nat) : CidrDirectionBucket :=
  { bucket with used := bucket.used - bytes }

end CidrDirectionBucket

namespace Call
variable {ι κ σ : Type} {rates : Rates ι κ} {cap clock : Nat} {call : Call ι κ σ}

def UserTurns (rates : Rates ι κ) (cap clock : Nat) :
    DirectionBucket × Call ι κ σ → DirectionBucket × Call ι κ σ → Prop :=
  Relation.ReflTransGen fun before after => ∃ phase, before.2.phase = .user phase ∧
    before.2.stepUser rates cap clock before.1 false phase = after

def CidrTurns (cap clock : Nat) :
    CidrDirectionBucket × CidrUserDirectionState × Call ι κ σ →
      CidrDirectionBucket × CidrUserDirectionState × Call ι κ σ → Prop :=
  Relation.ReflTransGen fun before after => ∃ phase, before.2.2.phase = .cidr phase ∧
    before.2.2.stepCidr cap clock before.1 before.2.1 false phase = after

theorem syncEpoch_userTurns (bucket : DirectionBucket) (epoch : Nat) :
    UserTurns rates cap clock (bucket, { call with phase := .user (.loadEpoch epoch) })
      (bucket.syncEpoch epoch, { call with phase := .user .load }) := by
  unfold DirectionBucket.syncEpoch
  split_ifs with older
  · refine .head ⟨_, rfl, if_pos older⟩ ?_
    refine .head ⟨_, rfl, if_pos rfl⟩ ?_
    exact .single ⟨_, rfl, rfl⟩
  · exact .single ⟨_, rfl, if_neg older⟩

variable (bucket : CidrDirectionBucket) (state : CidrUserDirectionState)

theorem syncEpoch_cidrTurns (epoch : Nat) :
    CidrTurns cap clock (bucket, state, { call with phase := .cidr (.loadEpoch epoch) })
      (bucket.syncEpoch epoch, state, { call with phase := .cidr (.shareLoadEpoch epoch) }) := by
  unfold CidrDirectionBucket.syncEpoch
  split_ifs with older
  · refine .head ⟨_, rfl, if_pos older⟩ ?_
    refine .head ⟨_, rfl, if_pos rfl⟩ ?_
    refine .head ⟨_, rfl, rfl⟩ ?_
    exact .single ⟨_, rfl, rfl⟩
  · exact .single ⟨_, rfl, if_neg older⟩

theorem markActive_cidrTurns (epoch : Nat) :
    let marked := state.syncEpochAndMarkActive epoch bucket.activeUsers
    CidrTurns cap clock (bucket, state, { call with phase := .cidr (.shareLoadEpoch epoch) })
      ({ bucket with activeUsers := marked.2 }, marked.1, { call with phase := .cidr .loadActive }) := by
  intro marked
  dsimp only [marked, CidrUserDirectionState.syncEpochAndMarkActive]
  split_ifs with older
  · refine .head ⟨_, rfl, if_pos older⟩ ?_
    refine .head ⟨_, rfl, if_pos rfl⟩ ?_
    refine .head ⟨_, rfl, rfl⟩ ?_
    exact .single ⟨_, rfl, rfl⟩
  · exact .single ⟨_, rfl, if_neg older⟩

theorem enterCidr_phase {call' : Call ι κ σ} (lease : call'.lease = call.lease) :
    (call'.enterCidr rates).phase = (call.enterCidr rates).phase := by
  unfold enterCidr
  rw [lease]
  split
  · rfl
  · split_ifs <;> rfl

theorem enterCidr_granted : (call.enterCidr rates).granted = call.granted := by
  unfold enterCidr
  split
  · rfl
  · split_ifs <;> rfl

theorem tryConsume_userTurns (asked capBps : ℕ+) (bucket : DirectionBucket) :
    let result := bucket.tryConsume capBps clock asked
    ∃ done, UserTurns rates (bytesPerEpoch capBps) clock
        (bucket, { call with granted := asked, phase := .user .clock }) (result.2, done) ∧
      done.granted = result.1 ∧
      done.phase = if result.1 = 0 then .returned else (call.enterCidr rates).phase := by
  intro result
  have synced : UserTurns rates (bytesPerEpoch capBps) clock
      (bucket, { call with granted := asked, phase := .user .clock })
      (bucket.syncEpoch clock, { call with granted := asked, phase := .user .load }) :=
    .head ⟨_, rfl, rfl⟩ (@syncEpoch_userTurns _ _ _ _ _ _ { call with granted := asked } bucket clock)
  simp only [result, DirectionBucket.tryConsume, if_neg asked.ne_zero, if_neg capBps.ne_zero]
  generalize bucket.syncEpoch clock = bucket' at synced ⊢
  by_cases full : bucket'.used ≥ bytesPerEpoch capBps
  · rw [if_pos full]
    exact ⟨_, synced.tail ⟨_, rfl, if_pos full⟩, rfl, rfl⟩
  · have positive := asked.pos
    have some_ : min (asked : Nat) (bytesPerEpoch capBps - bucket'.used) ≠ 0 := by omega
    rw [if_neg full, if_neg some_]
    have loaded := synced.tail ⟨_, rfl, (if_neg full).trans (if_neg some_)⟩
    exact ⟨_, loaded.tail ⟨_, rfl, if_pos ⟨rfl, rfl⟩⟩, enterCidr_granted, enterCidr_phase rfl⟩

theorem grantFor_cidrTurns :
    let grant := bucket.grantFor state cap call.granted
    ∃ done, CidrTurns cap clock (bucket, state, { call with phase := .cidr .loadActive })
        ({ bucket with used := bucket.used + grant }, { state with used := state.used + grant }, done) ∧
      done.granted = grant ∧ done.phase = (call.finishCidr grant).phase := by
  intro grant
  have active : CidrTurns cap clock (bucket, state, { call with phase := .cidr .loadActive })
      (bucket, state, { call with
        phase := .cidr (.load (max (cap / max bucket.activeUsers 1) 1)) }) := .single ⟨_, rfl, rfl⟩
  by_cases full : bucket.used ≥ cap
  · have nothing : grant = 0 := if_pos full
    rw [nothing]
    exact ⟨_, active.tail ⟨_, rfl, if_pos full⟩, rfl, rfl⟩
  · have loaded := active.tail ⟨_, rfl, if_neg full⟩
    have chosen : grant = if max (cap / max bucket.activeUsers 1) 1 - state.used > 0 then
        min (min call.granted (max (cap / max bucket.activeUsers 1) 1 - state.used)) (cap - bucket.used)
        else min (min call.granted (cap - bucket.used)) maxBorrowChunkBytes := if_neg full
    by_cases nothing : grant = 0
    · rw [nothing]
      exact ⟨_, loaded.tail ⟨_, rfl, if_pos (chosen ▸ nothing)⟩, rfl, rfl⟩
    · have swapped := (loaded.tail ⟨_, rfl, if_neg (chosen ▸ nothing)⟩).tail
        ⟨_, rfl, if_pos ⟨rfl, rfl⟩⟩
      have added := swapped.tail ⟨_, rfl, rfl⟩
      rw [← chosen] at added
      exact ⟨_, added, rfl, rfl⟩

theorem tryConsume_cidrTurns (asked cap : ℕ+) (bucket : CidrDirectionBucket)
    (state : CidrUserDirectionState) :
    let result := bucket.tryConsume state cap clock asked
    let asking := { call with granted := asked }
    ∃ done, CidrTurns cap clock (bucket, state, { asking with phase := .cidr .clock })
        (result.2.1, result.2.2, done) ∧ done.granted = result.1 ∧
      done.phase = (asking.finishCidr result.1).phase := by
  intro result asking
  have neither : ¬((asked : Nat) = 0 ∨ (cap : Nat) = 0) := by simp
  have synced : CidrTurns cap clock (bucket, state, { asking with phase := .cidr .clock }) _ :=
    .head ⟨_, rfl, rfl⟩ (syncEpoch_cidrTurns bucket state clock)
  have marked := synced.trans (markActive_cidrTurns (bucket.syncEpoch clock) state clock)
  simp only [result, CidrDirectionBucket.tryConsume, if_neg neither]
  obtain ⟨done, granted, ended⟩ := @grantFor_cidrTurns ι κ σ cap clock asking _ _
  exact ⟨done, marked.trans granted, ended⟩

end Call

end Telemt.TrafficLimiter
