import Mathlib.Data.Int.Log
import Mathlib.Data.Rat.Floor
import Telemt.MePool.Model

namespace Telemt.MePool
open Foundation

/-!
# `zero_downtime_reinit_after_map_change`

A reinit opens writers of a new generation (or for a new endpoint map), looks at how many data
centres are covered, and then closes the stale writers.
-/

/-- The nearest `f32` of a rational between the smallest and the largest normal one, ties to even. -/
def toF32 (q : Rat) : Rat :=
  if q = 0 then 0
  else
    let ulp : Rat := 2 ^ (Int.log 2 q - 23)
    let below := ⌊q / ulp⌋
    let rest := q / ulp - below
    if rest < 1 / 2 ∨ (rest = 1 / 2 ∧ below % 2 = 0) then below * ulp else (below + 1) * ulp

def divF32 (a b : Nat) : Rat := toF32 (toF32 a / toF32 b)

def permilleToRatio (permille : Nat) : Rat := divF32 (min permille 1000) 1000

abbrev ProxyMap := Dict Int (List (IpAddr × UInt16))

abbrev DesiredMap := Dict Int (Finset SocketAddr)

inductive MeDrainGateReason
  | open
  | coverageQuorum
  | redundancy
  | suppressionActive
  deriving DecidableEq, Repr

structure DrainGate where
  routeQuorumOk : Bool
  redundancyOk : Bool
  blockReason : MeDrainGateReason
  updatedAtEpochSecs : Nat

structure ReinitState where
  hardswap : Bool
  generation : Nat := 1
  activeGeneration : Nat := 1
  warmGeneration : Nat := 0
  pendingHardswapGeneration : Nat := 0
  pendingHardswapStartedAtEpochSecs : Nat := 0
  pendingHardswapMapHash : Nat := 0

structure Pool extends WriterPool where
  proxyMapV4 : ProxyMap := ∅
  proxyMapV6 : ProxyMap := ∅
  ipv4Me : Bool := true
  ipv6Me : Bool := false
  suppressedUntilV4 : Nat := 0
  suppressedUntilV6 : Nat := 0
  minFreshRatioPermille : Nat := 800
  forceCloseSecs : Nat := 300
  reinit : ReinitState
  lastDrainGate : Option DrainGate := none

def addEndpoints (out : DesiredMap) (map : ProxyMap) : DesiredMap :=
  map.entries.foldl
    (fun out entry =>
      out.insert entry.1
        ((out.lookup entry.1).getD ∅ ∪ (entry.2.map fun at_ => SocketAddr.mk at_.1 at_.2).toFinset))
    out

def writerAddrs (writers : Dict WriterId MeWriter) (counted : MeWriter → Bool) :
    Finset (Int × SocketAddr) :=
  ((writers.entries.filter fun entry => !entry.2.draining && counted entry.2).map fun entry =>
    (entry.2.writerDc, entry.2.addr)).toFinset

variable (desired : DesiredMap)

def coverageRatio (active : Finset (Int × SocketAddr)) : Rat × List Int :=
  let groups := desired.entries.filter fun entry => entry.2 ≠ ∅
  let covered := groups.filter fun entry => ∃ addr ∈ entry.2, (entry.1, addr) ∈ active
  let missing := groups.filter fun entry => ¬ ∃ addr ∈ entry.2, (entry.1, addr) ∈ active
  (if groups = [] then 1 else divF32 covered.length groups.length,
    (missing.map fun entry => entry.1).mergeSort)

def requiredDcs : Finset Int :=
  ((desired.entries.filter fun entry => entry.2 ≠ ∅).map fun entry => entry.1).toFinset

def hasNonDrainingWriterPerDesiredDcGroup (writers : Dict WriterId MeWriter) : Bool :=
  decide (∀ dc ∈ requiredDcs desired, ∃ entry ∈ writers.entries,
    entry.2.draining = false ∧ entry.2.writerDc = dc)

def meHardswapPendingTtlSecs : Nat := 1800

def meForceCloseSafetyFallbackSecs : Nat := 300

namespace Pool
variable (p : Pool)

def desiredDcEndpoints (now : Nat) : DesiredMap :=
  let v4 := if p.ipv4Me ∧ ¬ now < p.suppressedUntilV4 then addEndpoints ∅ p.proxyMapV4 else ∅
  if p.ipv6Me ∧ ¬ now < p.suppressedUntilV6 then addEndpoints v4 p.proxyMapV6 else v4

def setLastDrainGate (gate : DrainGate) : Pool := { p with lastDrainGate := some gate }

def clearPendingHardswapState : Pool :=
  { p with
    reinit := { p.reinit with
      pendingHardswapGeneration := 0
      pendingHardswapStartedAtEpochSecs := 0
      pendingHardswapMapHash := 0
      warmGeneration := 0 } }

def pendingReusable (r : ReinitState) (mapHash now : Nat) : Bool :=
  let expired := decide (0 < r.pendingHardswapStartedAtEpochSecs) &&
    decide (meHardswapPendingTtlSecs < now - r.pendingHardswapStartedAtEpochSecs)
  r.pendingHardswapGeneration ≠ 0 &&
    decide (r.activeGeneration ≤ r.pendingHardswapGeneration) &&
    (r.pendingHardswapMapHash ≠ 0 && r.pendingHardswapMapHash = mapHash) && !expired

def beginGeneration (mapHash now : Nat) : Nat × Pool :=
  if p.reinit.hardswap then
    if pendingReusable p.reinit mapHash now then
      (p.reinit.pendingHardswapGeneration,
        { p with reinit := { p.reinit with
            warmGeneration := p.reinit.pendingHardswapGeneration } })
    else
      let next := p.reinit.generation + 1
      (next,
        { p with reinit := { p.reinit with
            generation := next
            pendingHardswapGeneration := next
            pendingHardswapStartedAtEpochSecs := now
            pendingHardswapMapHash := mapHash
            warmGeneration := next } })
  else
    let cleared := p.clearPendingHardswapState
    let next := p.reinit.generation + 1
    (next, { cleared with reinit := { cleared.reinit with generation := next } })

variable (desired : DesiredMap) (hardswap : Bool)

def evaluateDrainGate (generation now : Nat) : DrainGate × Bool :=
  let minRatio := permilleToRatio p.minFreshRatioPermille
  let (ratio, missing) :=
    coverageRatio desired
      (writerAddrs p.writers fun writer => !hardswap || writer.generation = generation)
  if ratio < minRatio then (⟨false, missing.isEmpty, .coverageQuorum, now⟩, false)
  else (⟨true, missing.isEmpty, .open, now⟩, true)

variable (generation : Nat)

def promoteWriter (writer : MeWriter) : MeWriter :=
  if !writer.draining ∧ writer.generation = generation then { writer with contour := .active }
  else writer

def promoteWarmGenerationToActive : Pool :=
  { p with
    reinit := { p.reinit with activeGeneration := generation, warmGeneration := 0 }
    writers := Dict.mapValues (promoteWriter generation) p.writers }

def isStale (writer : MeWriter) : Bool :=
  if hardswap then decide (writer.generation < generation)
  else decide (writer.addr ∉ (desired.lookup writer.writerDc).getD ∅)

def staleWriterIds : List WriterId :=
  (p.writers.entries.filter fun entry =>
    !entry.2.draining && isStale desired hardswap generation entry.2).map fun entry => entry.1

def forceCloseTimeout : Option Nat :=
  some (if p.forceCloseSecs = 0 then meForceCloseSafetyFallbackSecs else p.forceCloseSecs)

def closeStale (canDropWithReplacement hardswap : Bool) (timeoutSecs : Option Nat) (now : Nat)
    (p : WriterPool) (writerId : WriterId) : WriterPool :=
  let marked := p.markWriterDrainingWithTimeout writerId timeoutSecs (!hardswap) now
  if canDropWithReplacement then marked.removeWriterAndCloseClients writerId else marked

/-- From the drain gate on. The endpoint map is read again, at `later`, for the replacements. -/
def drainStaleWriters (generation now later : Nat) : Pool × Bool :=
  let (gate, opens) := p.evaluateDrainGate desired hardswap generation now
  let p := p.setLastDrainGate gate
  if !opens then (p, false)
  else
    let p := if hardswap then p.promoteWarmGenerationToActive generation else p
    let stale := p.staleWriterIds desired hardswap generation
    let finish := fun p : Pool => if hardswap then p.clearPendingHardswapState else p
    if stale = [] then (finish p, true)
    else
      let canDrop := hasNonDrainingWriterPerDesiredDcGroup (p.desiredDcEndpoints later) p.writers
      let closed := stale.foldl (closeStale canDrop hardswap p.forceCloseTimeout later)
        p.toWriterPool
      (finish { p with toWriterPool := closed }, true)

/-- The reinit; `connect` is what warmup or reconcile and the rest of the program do to the pool
until the gate is evaluated. -/
def zeroDowntimeReinitAfterMapChange (mapHash : DesiredMap → Nat) (connect : Pool → Pool)
    (now later : Nat) : Pool × Bool :=
  let desired := p.desiredDcEndpoints now
  if desired.entries = [] then
    let suppressed := (p.ipv4Me && decide (now < p.suppressedUntilV4)) ||
      (p.ipv6Me && decide (now < p.suppressedUntilV6))
    (p.setLastDrainGate
      ⟨false, false, if suppressed then .suppressionActive else .coverageQuorum, now⟩, false)
  else
    let (generation, begun) := p.beginGeneration (mapHash desired) now
    (connect begun).drainStaleWriters desired p.reinit.hardswap generation now later

end Pool

end Telemt.MePool
