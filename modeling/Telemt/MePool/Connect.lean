import Telemt.MePool.FloorPlan
import Telemt.MePool.Selection

namespace Telemt.MePool
open Foundation

/-! # Opening a writer -/

structure ConnectingPool extends Pool where
  floor : FloorRuntime
  endpointQuarantine : Dict SocketAddr Instant := ∅
  singleEndpointOutageDisableQuarantine : Bool := true
  rr : Nat := 0
  nextWriterId : WriterId := 1
  proxySecretLen : Nat

-- What becomes of a connection and its handshake: the source address, or a failure.
abbrev Network := SocketAddr → Option IpAddr

inductive ConnectError
  | proxy (message : String)
  | link

def WriterContour.debug : WriterContour → String
  | .warm => "Warm"
  | .active => "Active"
  | .draining => "Draining"

def ConnRegistry.markWriterIdle (r : ConnRegistry) (writerId : WriterId) (now : Nat) :
    ConnRegistry :=
  let conns := (r.connsForWriter.lookup writerId).getD ∅
  { r with connsForWriter := r.connsForWriter.insert writerId conns }.setWriterBoundCount writerId
    conns.card now

namespace ConnectingPool
variable (p : ConnectingPool)

def activeContourWriterCountTotal : Nat := (nonDrainingWriterCountsByContour p.writers).1

def activeCoverageRequiredTotal (now : Nat) : Nat :=
  ((p.desiredDcEndpoints now).entries.map fun entry =>
    p.floor.requiredWritersForDcWithFloorMode entry.2.card false).sum

def endpointsLen (writerDc : Int) (now : Nat) : Nat :=
  (if p.ipv4Me ∧ ¬ now < p.suppressedUntilV4 then ((p.proxyMapV4.lookup writerDc).getD []).length
    else 0) +
  (if p.ipv6Me ∧ ¬ now < p.suppressedUntilV6 then ((p.proxyMapV6.lookup writerDc).getD []).length
    else 0)

def activeForDc (writerDc : Int) : Nat :=
  p.writers.entries.countP fun entry =>
    !entry.2.draining && (entry.2.writerDc = writerDc && entry.2.contour = .active)

def canOpenWriterForContour (contour : WriterContour) (allowCoverageOverride : Bool)
    (writerDc : Int) (now : Nat) : Bool :=
  let (activeWriters, warmWriters) := nonDrainingWriterCountsByContour p.writers
  match contour with
  | .active =>
    if activeWriters < p.floor.adaptiveFloorActiveCapConfiguredTotal then true
    else if !allowCoverageOverride then false
    else
      let endpointsLen := p.endpointsLen writerDc now
      if 0 < endpointsLen ∧
          p.activeForDc writerDc < p.floor.requiredWritersForDcWithFloorMode endpointsLen false then
        true
      else activeWriters < p.activeCoverageRequiredTotal now
  | .warm => warmWriters < p.floor.adaptiveFloorWarmCapConfiguredTotal
  | .draining => true

def addWriter (writer : MeWriter) (now : Nat) : ConnectingPool :=
  { p with
    writers := p.writers.insert p.nextWriterId writer
    registry := (p.registry.registerWriter p.nextWriterId now).markWriterIdle p.nextWriterId now
    nextWriterId := (p.nextWriterId + 1) % 2 ^ 64 }

variable (network : Network) (clock : Clock) (addr : SocketAddr) (generation : Nat)

def connectOneWithGenerationContourForDcWithCapPolicy (contour : WriterContour) (writerDc : Int)
    (allowCoverageOverride : Bool) : ConnectingPool × Except ConnectError Unit :=
  if !p.canOpenWriterForContour contour allowCoverageOverride writerDc clock.epochSecs then
    (p, .error (.proxy ("ME " ++ contour.debug ++ " writer cap reached")))
  else if p.proxySecretLen < 32 then (p, .error (.proxy "proxy-secret too short for ME auth"))
  else
    match network addr with
    | none => (p, .error .link)
    | some sourceIp =>
      (p.addWriter
        { addr := addr, sourceIp := sourceIp, writerDc := writerDc, generation := generation,
          contour := contour } clock.epochSecs, .ok ())

def connectOneWithGenerationContourForDc (contour : WriterContour) (writerDc : Int) :
    ConnectingPool × Except ConnectError Unit :=
  p.connectOneWithGenerationContourForDcWithCapPolicy network clock addr generation contour writerDc
    false

def connectOneWithGenerationContour (contour : WriterContour) (writerDc : Int) :
    ConnectingPool × Except ConnectError Unit :=
  p.connectOneWithGenerationContourForDc network clock addr generation contour writerDc

def connectOneForDc (writerDc : Int) : ConnectingPool × Except ConnectError Unit :=
  p.connectOneWithGenerationContour network clock addr p.reinit.activeGeneration .active writerDc

def earliestQuarantine (quarantine : Dict SocketAddr Instant) (endpoints : List SocketAddr) :
    Option (SocketAddr × Instant) :=
  endpoints.foldl
    (fun earliest addr =>
      match quarantine.lookup addr with
      | none => earliest
      | some expiry =>
        match earliest with
        | none => some (addr, expiry)
        | some current => if current.2 ≤ expiry then earliest else some (addr, expiry))
    none

-- Where every endpoint is quarantined, the source sleeps until the first of them is free.
def connectableEndpoints (endpoints : List SocketAddr) (now : Instant) :
    ConnectingPool × List SocketAddr :=
  if endpoints = [] then (p, [])
  else
    let quarantine := Dict.retain (fun _ expiry => decide (now < expiry)) p.endpointQuarantine
    let ready := endpoints.filter fun addr => addr ∉ quarantine
    ({ p with endpointQuarantine := quarantine },
      if endpoints.length = 1 ∧ p.singleEndpointOutageDisableQuarantine then endpoints
      else if ready ≠ [] then ready
      else ((earliestQuarantine quarantine endpoints).map Prod.fst).toList)

def activeByEndpoint (dc : Int) (addr : SocketAddr) : Nat :=
  p.writers.entries.countP fun entry =>
    !entry.2.draining && (entry.2.writerDc = dc && (entry.2.contour = .active && entry.2.addr = addr))

def connectFirst (generation : Nat) (contour : WriterContour) (dc : Int)
    (allowCoverageOverride : Bool) : ConnectingPool → List SocketAddr → ConnectingPool × Bool
  | p, [] => (p, false)
  | p, addr :: rest =>
    match p.connectOneWithGenerationContourForDcWithCapPolicy network clock addr generation contour
      dc allowCoverageOverride with
    | (p, .ok _) => (p, true)
    | (p, .error _) => connectFirst generation contour dc allowCoverageOverride p rest

def connectEndpointsRoundRobinWithGenerationContour (dc : Int) (endpoints : List SocketAddr)
    (generation : Nat) (contour : WriterContour) (allowCoverageOverride : Bool) :
    ConnectingPool × Bool :=
  let (p, candidates) := p.connectableEndpoints endpoints clock.now
  if candidates = [] then (p, false)
  else
    let ordered :=
      if 1 < candidates.length then
        sortByKey (fun addr => toLex (p.activeByEndpoint dc addr, addr.sortKey)) candidates
      else candidates
    connectFirst network clock generation contour dc allowCoverageOverride
      { p with rr := (p.rr + 1) % 2 ^ 64 } (ordered.rotate (p.rr % candidates.length))

def connectEndpointsRoundRobin (dc : Int) (endpoints : List SocketAddr) : ConnectingPool × Bool :=
  p.connectEndpointsRoundRobinWithGenerationContour network clock dc endpoints
    p.reinit.activeGeneration .active false

end ConnectingPool

end Telemt.MePool
