import Mathlib.Data.List.Destutter
import Mathlib.Data.Prod.Lex
import Telemt.Foundation.RankedSearch
import Telemt.MePool.Reinit
import Telemt.MePool.Send

namespace Telemt

-- `SocketAddr` is ordered by family, then by address, then by port.
def SocketAddr.sortKey (addr : SocketAddr) : ℕ ×ₗ ℕ ×ₗ ℕ :=
  let bits {n : Nat} (octets : Vector UInt8 n) : Nat :=
    octets.toList.foldl (fun bits octet => bits * 256 + octet.toNat) 0
  match addr.ip with
  | .v4 octets => toLex (4, toLex (bits octets, addr.port.toNat))
  | .v6 octets => toLex (6, toLex (bits octets, addr.port.toNat))

end Telemt

namespace Telemt.MePool
open Foundation

/-!
# Which writer a request is sent to

The positions of the source's index vectors are replaced by the writers that stand there.
-/

structure NetworkDecision where
  ipv4Me : Bool
  ipv6Me : Bool
  effectivePrefer : UInt8
  effectiveMultipath : Bool

namespace NetworkDecision
variable (decision : NetworkDecision)

def preferIpv6 : Bool := decision.effectivePrefer = 6

def preferredFamily (v4 v6 : List SocketAddr) : List SocketAddr :=
  if decision.preferIpv6 then if v6 ≠ [] then v6 else v4
  else if v4 ≠ [] then v4 else v6

def selectEndpoints (v4 v6 : List SocketAddr) : List SocketAddr :=
  if decision.effectiveMultipath then if decision.preferIpv6 then v6 ++ v4 else v4 ++ v6
  else decision.preferredFamily v4 v6

end NetworkDecision

def endpointsOf (map : ProxyMap) (dc : Int) : List SocketAddr :=
  ((map.lookup dc).getD []).map fun endpoint => ⟨endpoint.1, endpoint.2⟩

abbrev PreferredEndpoints := Dict Int (List SocketAddr)

def buildPreferredEndpointsByDc (decision : NetworkDecision) (mapV4 mapV6 : ProxyMap) :
    PreferredEndpoints :=
  Dict.assign
    (fun dc =>
      (sortByKey SocketAddr.sortKey
        (decision.selectEndpoints (endpointsOf mapV4 dc) (endpointsOf mapV6 dc))).destutter (· ≠ ·))
    (mapV4.keys ++ mapV6.keys) ∅

inductive MeBindStaleMode
  | never
  | ttl
  | always
  deriving DecidableEq, Repr

inductive MeWriterPickMode
  | sortedRr
  | p2c
  deriving DecidableEq, Repr

structure SelectionPolicy where
  bindStaleMode : MeBindStaleMode := .never
  bindStaleTtlSecs : Nat := 90
  writerPickMode : MeWriterPickMode := .p2c
  writerPickSampleSize : Nat := 3
  deterministicWriterSort : Bool := true
  writerCmdChannelCapacity : Nat := 4096

namespace SelectionPolicy
variable (policy : SelectionPolicy) (now : Nat)

def writerAcceptsNewBinding (writer : MeWriter) : Bool :=
  if !writer.draining then true
  else if !writer.allowDrainFallback then false
  else
    match policy.bindStaleMode with
    | .never => false
    | .always => true
    | .ttl =>
      if policy.bindStaleTtlSecs = 0 then true
      else if writer.drainingStartedAtEpochSecs = 0 then false
      else now - writer.drainingStartedAtEpochSecs ≤ policy.bindStaleTtlSecs

def writerEligibleForSelection (includeWarm : Bool) (writer : MeWriter) : Bool :=
  if !policy.writerAcceptsNewBinding now writer then false
  else
    match writer.contour with
    | .active => true
    | .warm => includeWarm
    | .draining => true

-- A binary search in a sorted vector finds exactly its members.
def candidatesForDc (preferred : PreferredEndpoints) (writers : List Candidate) (routedDc : Int)
    (includeWarm : Bool) : List Candidate :=
  match preferred.lookup routedDc with
  | none => []
  | some preferred =>
    if preferred = [] then []
    else
      writers.filter fun candidate =>
        policy.writerEligibleForSelection now includeWarm candidate.2 &&
          (candidate.2.writerDc = routedDc && candidate.2.addr ∈ preferred)

end SelectionPolicy

def WriterPool.snapshot (p : WriterPool) : List Candidate :=
  p.writers.entries.map fun entry => (entry.1, entry.2)

structure WriterLoad where
  degraded : Bool := false
  capacity : Nat
  rttEmaMsX10 : Nat := 0

structure PickView where
  policy : SelectionPolicy
  currentGeneration : Nat
  loads : WriterId → WriterLoad
  idleSince : Dict WriterId Nat := ∅
  nowEpochSecs : Nat

def idleWriterPenaltyMidSecs : Nat := 45

def idleWriterPenaltyHighSecs : Nat := 55

def pickPenaltyWarm : Nat := 200

def pickPenaltyDraining : Nat := 600

def pickPenaltyStale : Nat := 300

def pickPenaltyDegraded : Nat := 250

abbrev PreferenceKey := ℕ ×ₗ ℕ ×ₗ ℕ ×ₗ ℕ

namespace PickView
variable (view : PickView)

def contourRank (writer : MeWriter) : Nat :=
  match writer.contour with
  | .active => 0
  | .warm => 1
  | .draining => 2

def isStale (writer : MeWriter) : Bool := writer.generation < view.currentGeneration

def idleRank (writerId : WriterId) : Nat :=
  match view.idleSince.lookup writerId with
  | none => 0
  | some idleSince =>
    let idleAgeSecs := view.nowEpochSecs - idleSince
    if idleWriterPenaltyHighSecs ≤ idleAgeSecs then 2
    else if idleWriterPenaltyMidSecs ≤ idleAgeSecs then 1
    else 0

variable (candidate : Candidate)

def preferenceKey : PreferenceKey :=
  toLex (contourRank candidate.2,
    toLex ((view.isStale candidate.2).toNat,
      toLex ((view.loads candidate.1).degraded.toNat, view.idleRank candidate.1)))

def capacityKey : PreferenceKey ×ₗ ℕᵒᵈ :=
  toLex (view.preferenceKey candidate, OrderDual.toDual (view.loads candidate.1).capacity)

def deterministicKey : PreferenceKey ×ₗ ℕᵒᵈ ×ₗ (ℕ ×ₗ ℕ ×ₗ ℕ) ×ₗ ℕ :=
  toLex (view.preferenceKey candidate,
    toLex (OrderDual.toDual (view.loads candidate.1).capacity,
      toLex (candidate.2.addr.sortKey, candidate.1)))

variable (candidates : List Candidate)

def sortCandidates : List Candidate :=
  if view.policy.deterministicWriterSort then sortByKey view.deterministicKey candidates
  else sortByKey view.capacityKey candidates

def writerPickScore : Nat :=
  let load := view.loads candidate.1
  let contourPenalty :=
    match candidate.2.contour with
    | .active => 0
    | .warm => pickPenaltyWarm
    | .draining => pickPenaltyDraining
  let stalePenalty := if view.isStale candidate.2 then pickPenaltyStale else 0
  let degradedPenalty := if load.degraded then pickPenaltyDegraded else 0
  let idlePenalty := view.idleRank candidate.1 * 100
  let queueCap := max view.policy.writerCmdChannelCapacity 1
  let queueUsed := queueCap - min load.capacity queueCap
  let queuePenalty := min (queueUsed * 100) (2 ^ 64 - 1) / queueCap * 4
  let rttPenalty := min ((load.rttEmaMsX10 + 5) / 10) 400
  contourPenalty + stalePenalty + degradedPenalty + idlePenalty + queuePenalty + rttPenalty

-- The sample is a stretch of the rotated candidates, so the rest follows in rotated order.
def p2cOrdered (start : Nat) : List Candidate :=
  let rotated := candidates.rotate start
  let sampleSize := max 2 (min view.policy.writerPickSampleSize 4)
  sortByKey
      (fun candidate : Candidate =>
        (toLex (view.writerPickScore candidate, toLex (candidate.2.addr.sortKey, candidate.1)) :
          ℕ ×ₗ (ℕ ×ₗ ℕ ×ₗ ℕ) ×ₗ ℕ))
      (rotated.take sampleSize) ++
    rotated.drop sampleSize

def orderedCandidates (rr : Nat) : List Candidate :=
  let start := rr % candidates.length
  match view.policy.writerPickMode with
  | .p2c => view.p2cOrdered candidates start
  | .sortedRr => (view.sortCandidates candidates).rotate start

end PickView

inductive RoundOutcome
  | bound (candidate : Candidate)
  -- Everybody was full. The source waits for this one.
  | blocked (candidate : Candidate)
  | again
  deriving DecidableEq, Repr

section Offer
variable (policy : SelectionPolicy) (request : SendRequest) (slots : WriterId → Slot)
  (nowEpochSecs : Nat)

def offer (p : WriterPool) : List Candidate → Option Candidate → WriterPool × RoundOutcome
  | [], none => (p, .again)
  | [], some fallback =>
    (p, if policy.writerAcceptsNewBinding nowEpochSecs fallback.2 then .blocked fallback else .again)
  | candidate :: rest, fallback =>
    if !policy.writerAcceptsNewBinding nowEpochSecs candidate.2 then offer p rest fallback
    else
      match slots candidate.1 with
      | .free =>
        let (registry, bound) := p.registry.bindWriter request.connId candidate.1
          (request.metaFor candidate.2) nowEpochSecs
        let p := { p with registry := registry }
        if bound then (p, .bound candidate)
        else offer (p.removeWriterAndCloseClients candidate.1) rest fallback
      | .full => offer p rest (fallback.or (some candidate))
      | .closed => offer (p.removeWriterAndCloseClients candidate.1) rest fallback

end Offer

end Telemt.MePool
