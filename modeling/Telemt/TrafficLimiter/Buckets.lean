import Telemt.Foundation.EpochMeter
import Telemt.Foundation.Run

namespace Telemt.TrafficLimiter
open Foundation

/-!
# Rate limit buckets and leases

One direction of the traffic limiter. The calls of `TrafficLease::try_consume` and
`TrafficLease::refund` are cut at every atomic access, so that the calls of any number of leases
interleave there. A call stays in the state after it has returned and keeps what it was granted, which
is what a later refund gives back.
-/

def fairEpochMs : Nat := 20
def maxBorrowChunkBytes : Nat := 32 * 1024

def bytesPerEpoch (bps : Nat) : Nat :=
  if bps = 0 then 0 else max (min (bps * fairEpochMs) (2 ^ 64 - 1) / 8000) 1

structure DirectionBucket where
  epoch : Nat := 0
  used : Nat := 0

structure CidrDirectionBucket where
  epoch : Nat := 0
  used : Nat := 0
  activeUsers : Nat := 0

structure CidrUserDirectionState where
  epoch : Nat := 0
  used : Nat := 0

structure Lease (ι κ σ : Type) where
  userBucket : Option ι
  cidr : Option (κ × σ)

-- Each constructor stands before the access it is named after.
inductive UserPhase
  | clock
  | loadEpoch (epoch : Nat)
  | swapEpoch (epoch current : Nat)
  | resetUsed
  | load
  | swap (used grant : Nat)
  | giveBack (bytes : Nat)
  | refund (bytes : Nat)
  deriving DecidableEq, Repr

inductive CidrPhase
  | clock
  | loadEpoch (epoch : Nat)
  | swapEpoch (epoch current : Nat)
  | resetUsed (epoch : Nat)
  | resetActive (epoch : Nat)
  | shareLoadEpoch (epoch : Nat)
  | shareSwapEpoch (epoch current : Nat)
  | shareResetUsed
  | markActive
  | loadActive
  | load (fairShare : Nat)
  | shareLoad (fairShare totalUsed : Nat)
  | swap (fairShare totalUsed grant : Nat)
  | shareAdd (grant : Nat)
  | refund (bytes : Nat)
  | shareRefund (bytes : Nat)
  deriving DecidableEq, Repr

inductive Phase
  | user (at_ : UserPhase)
  | cidr (at_ : CidrPhase)
  | returned
  deriving DecidableEq, Repr

/-- `granted` is the local of that name and, once the call has returned, what it was granted and has
not refunded. The last four fields remember what either bucket has granted, and at which epoch of the
clock. -/
structure Call (ι κ σ : Type) where
  lease : Lease ι κ σ
  granted : Nat
  phase : Phase
  blockedUser : Bool := false
  blockedCidr : Bool := false
  userEpoch : Nat := 0
  userHeld : Nat := 0
  cidrEpoch : Nat := 0
  cidrHeld : Nat := 0

/-- The caps in bits per second, `0` for none. -/
structure Rates (ι κ : Type) where
  user : ι → Nat
  cidr : κ → Nat

section Steps
variable {ι κ σ : Type}

namespace Call
variable (rates : Rates ι κ) (call : Call ι κ σ)

def enterCidr : Call ι κ σ :=
  match call.lease.cidr with
  | none => { call with phase := .returned }
  | some (k, _) =>
    -- Without a cap everything is granted and nothing is counted.
    if rates.cidr k = 0 then { call with phase := .returned } else { call with phase := .cidr .clock }

def start (lease : Lease ι κ σ) (requested : Nat) : Call ι κ σ :=
  let call : Call ι κ σ := { lease := lease, granted := requested, phase := .returned }
  if requested = 0 then call
  else
    match lease.userBucket with
    | none => call.enterCidr rates
    | some b => if rates.user b = 0 then call.enterCidr rates else { call with phase := .user .clock }

def finishCidr (cidrGranted : Nat) : Call ι κ σ :=
  { call with
    granted := cidrGranted
    blockedCidr := cidrGranted = 0
    phase :=
      if cidrGranted < call.granted ∧ call.lease.userBucket.isSome then
        .user (.giveBack (call.granted - cidrGranted))
      else .returned }

def refund (bytes : Nat) : Call ι κ σ :=
  if bytes = 0 then call
  else if call.lease.userBucket.isSome then { call with phase := .user (.refund bytes) }
  else if call.lease.cidr.isSome then { call with phase := .cidr (.refund bytes) }
  else { call with granted := call.granted - bytes }

-- `DirectionBucket::try_consume` and `DirectionBucket::refund`.
def stepUser (cap clock : Nat) (bucket : DirectionBucket) (call : Call ι κ σ) (raceLost : Bool) :
    UserPhase → DirectionBucket × Call ι κ σ
  | .clock => (bucket, { call with phase := .user (.loadEpoch clock) })
  | .loadEpoch epoch =>
    if bucket.epoch < epoch then
      (bucket, { call with phase := .user (.swapEpoch epoch bucket.epoch) })
    else (bucket, { call with phase := .user .load })
  | .swapEpoch epoch current =>
    if bucket.epoch = current then
      ({ bucket with epoch := epoch }, { call with phase := .user .resetUsed })
    else (bucket, { call with phase := .user .load })
  | .resetUsed => ({ bucket with used := 0 }, { call with phase := .user .load })
  | .load =>
    if bucket.used ≥ cap then
      (bucket, { call with granted := 0, blockedUser := true, phase := .returned })
    else
      let grant := min call.granted (cap - bucket.used)
      if grant = 0 then
        (bucket, { call with granted := 0, blockedUser := true, phase := .returned })
      else (bucket, { call with phase := .user (.swap bucket.used grant) })
  | .swap used grant =>
    if bucket.used = used ∧ !raceLost then
      ({ bucket with used := used + grant },
        { call with granted := grant, userEpoch := clock, userHeld := grant }.enterCidr rates)
    else (bucket, { call with phase := .user .load })
  | .giveBack bytes =>
    ({ bucket with used := bucket.used - bytes },
      { call with userHeld := call.userHeld - bytes, phase := .returned })
  | .refund bytes =>
    let call := { call with userHeld := call.userHeld - bytes }
    ({ bucket with used := bucket.used - bytes },
      if call.lease.cidr.isSome then { call with phase := .cidr (.refund bytes) }
      else { call with granted := call.granted - bytes, phase := .returned })

-- `CidrDirectionBucket::try_consume` and `CidrBucket::refund_for_user`.
def stepCidr (cap clock : Nat) (bucket : CidrDirectionBucket) (share : CidrUserDirectionState)
    (call : Call ι κ σ) (raceLost : Bool) :
    CidrPhase → CidrDirectionBucket × CidrUserDirectionState × Call ι κ σ
  | .clock => (bucket, share, { call with phase := .cidr (.loadEpoch clock) })
  | .loadEpoch epoch =>
    if bucket.epoch < epoch then
      (bucket, share, { call with phase := .cidr (.swapEpoch epoch bucket.epoch) })
    else (bucket, share, { call with phase := .cidr (.shareLoadEpoch epoch) })
  | .swapEpoch epoch current =>
    if bucket.epoch = current then
      ({ bucket with epoch := epoch }, share, { call with phase := .cidr (.resetUsed epoch) })
    else (bucket, share, { call with phase := .cidr (.shareLoadEpoch epoch) })
  | .resetUsed epoch =>
    ({ bucket with used := 0 }, share, { call with phase := .cidr (.resetActive epoch) })
  | .resetActive epoch =>
    ({ bucket with activeUsers := 0 }, share, { call with phase := .cidr (.shareLoadEpoch epoch) })
  | .shareLoadEpoch epoch =>
    if share.epoch < epoch then
      (bucket, share, { call with phase := .cidr (.shareSwapEpoch epoch share.epoch) })
    else (bucket, share, { call with phase := .cidr .loadActive })
  | .shareSwapEpoch epoch current =>
    if share.epoch = current then
      (bucket, { share with epoch := epoch }, { call with phase := .cidr .shareResetUsed })
    else (bucket, share, { call with phase := .cidr .loadActive })
  | .shareResetUsed => (bucket, { share with used := 0 }, { call with phase := .cidr .markActive })
  | .markActive =>
    ({ bucket with activeUsers := bucket.activeUsers + 1 }, share,
      { call with phase := .cidr .loadActive })
  | .loadActive =>
    let fairShare := max (cap / max bucket.activeUsers 1) 1
    (bucket, share, { call with phase := .cidr (.load fairShare) })
  | .load fairShare =>
    if bucket.used ≥ cap then (bucket, share, call.finishCidr 0)
    else (bucket, share, { call with phase := .cidr (.shareLoad fairShare bucket.used) })
  | .shareLoad fairShare totalUsed =>
    let totalRemaining := cap - totalUsed
    let guaranteedRemaining := fairShare - share.used
    let grant :=
      if guaranteedRemaining > 0 then min (min call.granted guaranteedRemaining) totalRemaining
      else min (min call.granted totalRemaining) maxBorrowChunkBytes
    if grant = 0 then (bucket, share, call.finishCidr 0)
    else (bucket, share, { call with phase := .cidr (.swap fairShare totalUsed grant) })
  | .swap fairShare totalUsed grant =>
    if bucket.used = totalUsed ∧ !raceLost then
      ({ bucket with used := totalUsed + grant }, share,
        { call with cidrEpoch := clock, cidrHeld := grant, phase := .cidr (.shareAdd grant) })
    else (bucket, share, { call with phase := .cidr (.load fairShare) })
  | .shareAdd grant => (bucket, { share with used := share.used + grant }, call.finishCidr grant)
  | .refund bytes =>
    ({ bucket with used := bucket.used - bytes }, share,
      { call with cidrHeld := call.cidrHeld - bytes, phase := .cidr (.shareRefund bytes) })
  | .shareRefund bytes =>
    (bucket, { share with used := share.used - bytes },
      { call with granted := call.granted - bytes, phase := .returned })

end Call

end Steps

structure Limiter (ι κ σ : Type) where
  clock : Nat := 0
  users : ι → DirectionBucket := fun _ => {}
  cidrs : κ → CidrDirectionBucket := fun _ => {}
  shares : σ → CidrUserDirectionState := fun _ => {}
  calls : List (Call ι κ σ) := []

inductive Event (ι κ σ : Type)
  | tick (clock : Nat)
  | tryConsume (lease : Lease ι κ σ) (requested : Nat)
  | refund (call bytes : Nat)
  | advance (call : Nat) (raceLost : Bool)

namespace Limiter
variable {ι κ σ : Type} [DecidableEq ι] [DecidableEq κ] [DecidableEq σ]

def advance (rates : Rates ι κ) (s : Limiter ι κ σ) (i : Nat) (call : Call ι κ σ) (raceLost : Bool) :
    Option (Limiter ι κ σ) :=
  match call.phase with
  | .returned => none
  | .user phase =>
    call.lease.userBucket.map fun b =>
      let (bucket, call) :=
        call.stepUser rates (bytesPerEpoch (rates.user b)) s.clock (s.users b) raceLost phase
      { s with users := Function.update s.users b bucket, calls := s.calls.set i call }
  | .cidr phase =>
    call.lease.cidr.map fun (k, u) =>
      let (bucket, share, call) :=
        call.stepCidr (bytesPerEpoch (rates.cidr k)) s.clock (s.cidrs k) (s.shares u) raceLost phase
      { s with
        cidrs := Function.update s.cidrs k bucket
        shares := Function.update s.shares u share
        calls := s.calls.set i call }

def step (rates : Rates ι κ) (s : Limiter ι κ σ) : Event ι κ σ → Option (Limiter ι κ σ)
  | .tick clock => if s.clock ≤ clock then some { s with clock := clock } else none
  | .tryConsume lease requested =>
    some { s with calls := s.calls ++ [Call.start rates lease requested] }
  | .refund i bytes =>
    s.calls[i]?.bind fun call =>
      if call.phase = .returned ∧ bytes ≤ call.granted then
        some { s with calls := s.calls.set i (call.refund bytes) }
      else none
  | .advance i raceLost => s.calls[i]?.bind fun call => s.advance rates i call raceLost

end Limiter

end Telemt.TrafficLimiter
