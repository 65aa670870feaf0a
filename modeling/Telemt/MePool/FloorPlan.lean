import Mathlib.Data.Prod.Lex
import Telemt.Foundation.RankedSearch
import Telemt.Foundation.Run
import Telemt.MePool.Model

namespace Telemt.MePool
open Foundation

/-! # `build_family_floor_plan` -/

def usizeMax : Nat := 2 ^ 64 - 1

inductive MeFloorMode
  | static
  | adaptive
  deriving DecidableEq, Repr

structure FloorRuntime where
  floorMode : MeFloorMode
  singleEndpointShadowWriters : Nat
  minWritersSingleEndpoint : Nat
  minWritersMultiEndpoint : Nat
  cpuCoresDetected : Nat
  cpuCoresOverride : Nat
  maxExtraWritersSinglePerCore : Nat
  maxExtraWritersMultiPerCore : Nat
  maxActiveWritersPerCore : Nat
  maxWarmWritersPerCore : Nat
  maxActiveWritersGlobal : Nat
  maxWarmWritersGlobal : Nat

namespace FloorRuntime
variable (floor : FloorRuntime)

def requiredWritersForDc (endpointCount : Nat) : Nat :=
  if endpointCount = 0 then 0
  else if endpointCount = 1 then max (1 + floor.singleEndpointShadowWriters) 3
  else max endpointCount 3

def requiredWritersForDcWithFloorMode (endpointCount : Nat) (reduceForIdle : Bool) : Nat :=
  let baseRequired := floor.requiredWritersForDc endpointCount
  if !reduceForIdle then baseRequired
  else if floor.floorMode ≠ .adaptive then baseRequired
  else
    min baseRequired
      (if endpointCount = 1 then max floor.minWritersSingleEndpoint 1
        else max floor.minWritersMultiEndpoint 1)

def adaptiveFloorEffectiveCpuCores : Nat :=
  if floor.cpuCoresOverride = 0 then max floor.cpuCoresDetected 1 else max floor.cpuCoresOverride 1

def firstCoreWriterBudget : Nat := 86

def extraCoreWriterBudget : Nat := 48

def adaptiveFloorCpuBudgetPerContourCap (cores : Nat) : Nat :=
  if cores = 0 then firstCoreWriterBudget
  else
    min (firstCoreWriterBudget + min ((cores - 1) * extraCoreWriterBudget) usizeMax) usizeMax

def contourCap (perCore global : Nat) : Nat :=
  let cores := floor.adaptiveFloorEffectiveCpuCores
  max (min (min (min (cores * max perCore 1) usizeMax) (max global 1))
    (adaptiveFloorCpuBudgetPerContourCap cores)) 1

def adaptiveFloorActiveCapConfiguredTotal : Nat :=
  floor.contourCap floor.maxActiveWritersPerCore floor.maxActiveWritersGlobal

def adaptiveFloorWarmCapConfiguredTotal : Nat :=
  floor.contourCap floor.maxWarmWritersPerCore floor.maxWarmWritersGlobal

def adaptiveFloorClassMin (endpointCount baseRequired : Nat) : Nat :=
  if endpointCount ≤ 1 then min (max floor.minWritersSingleEndpoint 1) (max baseRequired 1)
  else min (max floor.minWritersMultiEndpoint 1) (max baseRequired 1)

def adaptiveFloorClassMax (endpointCount baseRequired cpuCores : Nat) : Nat :=
  let extraPerCore :=
    if endpointCount ≤ 1 then floor.maxExtraWritersSinglePerCore
    else floor.maxExtraWritersMultiPerCore
  min (baseRequired + min (cpuCores * extraPerCore) usizeMax) usizeMax

end FloorRuntime

def nonDrainingWriterCountsByContour (writers : Dict WriterId MeWriter) : Nat × Nat :=
  let counted (contour : WriterContour) : Nat :=
    writers.entries.countP fun entry => !entry.2.draining && entry.2.contour = contour
  (counted .active, counted .warm)

structure DcFloorPlanEntry where
  dc : Int
  endpoints : List SocketAddr
  alive : Nat
  minRequired : Nat
  targetRequired : Nat
  maxRequired : Nat
  hasBoundClients : Bool
  floorCapped : Bool := false

structure FloorInput where
  writers : Dict WriterId MeWriter := ∅
  dcEndpoints : Dict Int (List SocketAddr)
  liveAddrCounts : Dict (Int × SocketAddr) Nat := ∅
  liveWriterIdsByAddr : Dict (Int × SocketAddr) (List WriterId) := ∅
  boundClientsByWriter : Dict WriterId Nat := ∅

structure FamilyFloorPlan where
  byDc : Dict Int DcFloorPlanEntry
  activeCapConfiguredTotal : Nat
  activeCapEffectiveTotal : Nat
  warmCapConfiguredTotal : Nat
  warmCapEffectiveTotal : Nat
  activeWritersCurrent : Nat
  warmWritersCurrent : Nat
  targetWritersTotal : Nat

namespace FloorRuntime
variable (floor : FloorRuntime) (endpointCount : Nat)

def baseRequired : Nat := max (floor.requiredWritersForDc endpointCount) 1

def minRequired : Nat :=
  if floor.floorMode = .adaptive then
    floor.adaptiveFloorClassMin endpointCount (floor.baseRequired endpointCount)
  else floor.baseRequired endpointCount

def maxRequired : Nat :=
  let maxRequired :=
    if floor.floorMode = .adaptive then
      floor.adaptiveFloorClassMax endpointCount (floor.baseRequired endpointCount)
        (max floor.adaptiveFloorEffectiveCpuCores 1)
    else floor.baseRequired endpointCount
  if maxRequired < floor.minRequired endpointCount then floor.minRequired endpointCount
  else maxRequired

-- `clamp`, where the lower bound is at most the upper one.
def targetRequired : Nat :=
  max (floor.minRequired endpointCount)
    (min (floor.baseRequired endpointCount) (floor.maxRequired endpointCount))

end FloorRuntime

def listWriterIdsForEndpoints (input : FloorInput) (dc : Int) (endpoints : List SocketAddr) :
    List WriterId :=
  endpoints.flatMap fun endpoint => (input.liveWriterIdsByAddr.lookup (dc, endpoint)).getD []

def hasBoundClientsOnEndpoint (input : FloorInput) (writerIds : List WriterId) : Bool :=
  writerIds.any fun writerId => 0 < (input.boundClientsByWriter.lookup writerId).getD 0

def planEntry (floor : FloorRuntime) (input : FloorInput) (dc : Int) (endpoints : List SocketAddr) :
    DcFloorPlanEntry where
  dc := dc
  endpoints := endpoints
  alive := (endpoints.map fun endpoint => (input.liveAddrCounts.lookup (dc, endpoint)).getD 0).sum
  minRequired := floor.minRequired endpoints.length
  targetRequired := floor.targetRequired endpoints.length
  maxRequired := floor.maxRequired endpoints.length
  hasBoundClients := hasBoundClientsOnEndpoint input (listWriterIdsForEndpoints input dc endpoints)

def planEntries (floor : FloorRuntime) (input : FloorInput) : List DcFloorPlanEntry :=
  (input.dcEndpoints.entries.filter fun group => group.2 ≠ []).map fun group =>
    planEntry floor input group.1 group.2

variable (entry : DcFloorPlanEntry)

def DcFloorPlanEntry.slack : Nat :=
  entry.targetRequired - entry.minRequired

def DcFloorPlanEntry.trimKey : Bool ×ₗ ℕᵒᵈ ×ₗ ℕᵒᵈ ×ₗ ℕ ×ₗ ℤ ×ₗ ℕ ×ₗ ℕ :=
  toLex (entry.hasBoundClients,
    toLex (OrderDual.toDual entry.slack,
      toLex (OrderDual.toDual entry.alive,
        toLex (entry.dc.natAbs,
          toLex (entry.dc, toLex (entry.endpoints.length, entry.maxRequired))))))

def DcFloorPlanEntry.cut : DcFloorPlanEntry :=
  { entry with targetRequired := entry.targetRequired - 1, floorCapped := true }

structure TrimState where
  targetSum : Nat
  changed : Bool
  entries : List DcFloorPlanEntry

-- One pass over the entries, which stops as soon as the cap is met.
def trimPass (familyCap : Nat) : Nat → List DcFloorPlanEntry → TrimState
  | targetSum, [] => ⟨targetSum, false, []⟩
  | targetSum, entry :: rest =>
    if targetSum ≤ familyCap then ⟨targetSum, false, entry :: rest⟩
    else if entry.minRequired < entry.targetRequired then
      let next := trimPass familyCap (targetSum - 1) rest
      ⟨next.targetSum, true, entry.cut :: next.entries⟩
    else
      let next := trimPass familyCap targetSum rest
      ⟨next.targetSum, next.changed, entry :: next.entries⟩

def trimTurn (familyCap : Nat) (s : TrimState) : Option (TrimState ⊕ TrimState) :=
  if familyCap < s.targetSum ∧ s.changed then
    some (.inl (trimPass familyCap s.targetSum s.entries))
  else some (.inr s)

section Plan
variable (floor : FloorRuntime) (input : FloorInput)

def familyActiveTotal : Nat :=
  min ((planEntries floor input).map DcFloorPlanEntry.alive).sum usizeMax

def otherActive : Nat :=
  (nonDrainingWriterCountsByContour input.writers).1 - familyActiveTotal floor input

def minSum : Nat := ((planEntries floor input).map DcFloorPlanEntry.minRequired).sum

def initialTargetSum : Nat := ((planEntries floor input).map DcFloorPlanEntry.targetRequired).sum

def familyCap : Nat :=
  max (floor.adaptiveFloorActiveCapConfiguredTotal - otherActive floor input) (minSum floor input)

def indexByDc (entries : List DcFloorPlanEntry) : Dict Int DcFloorPlanEntry :=
  Dict.index DcFloorPlanEntry.dc entries ∅

/-- `fuel` bounds the turns of the trimming loop; without enough of it there is no plan. -/
def buildFamilyFloorPlan (fuel : Nat) : Option FamilyFloorPlan :=
  let entries := planEntries floor input
  let activeCap := floor.adaptiveFloorActiveCapConfiguredTotal
  let warmCap := floor.adaptiveFloorWarmCapConfiguredTotal
  let (activeWritersCurrent, warmWritersCurrent) := nonDrainingWriterCountsByContour input.writers
  let plan (entries : List DcFloorPlanEntry) (activeCapEffective targetTotal : Nat) :
      FamilyFloorPlan :=
    { byDc := indexByDc entries
      activeCapConfiguredTotal := activeCap
      activeCapEffectiveTotal := activeCapEffective
      warmCapConfiguredTotal := warmCap
      warmCapEffectiveTotal := warmCap
      activeWritersCurrent := activeWritersCurrent
      warmWritersCurrent := warmWritersCurrent
      targetWritersTotal := targetTotal }
  if entries = [] then some (plan [] activeCap 0)
  else if floor.floorMode ≠ .adaptive then
    some (plan entries (max activeCap (initialTargetSum floor input)) (initialTargetSum floor input))
  else
    let start : TrimState := ⟨initialTargetSum floor input, true, entries⟩
    let trimmed :=
      if familyCap floor input < initialTargetSum floor input then
        loop (trimTurn (familyCap floor input)) fuel
          { start with entries := sortByKey DcFloorPlanEntry.trimKey entries }
      else some start
    trimmed.map fun s =>
      plan s.entries
        (max activeCap (min (otherActive floor input + minSum floor input) usizeMax))
        (min (otherActive floor input + s.targetSum) usizeMax)

end Plan

end Telemt.MePool
