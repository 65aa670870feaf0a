import Mathlib.Data.Finset.Sort
import Telemt.Basic
import Telemt.Foundation.Dict

namespace Telemt.MePool
open Foundation

/-!
# Middle proxy writers and the connections bound to them

The pool keeps a vector of writers with distinct ids, here a table by id. The registry knows which
client connections exist (`routing`), which writers it can hand out and who is bound to whom. The two
are changed one after the other, not together.
-/

abbrev ConnId := Nat

abbrev WriterId := Nat

structure ConnMeta where
  targetDc : Int
  clientAddr : SocketAddr
  ourAddr : SocketAddr
  protoFlags : UInt32
  deriving DecidableEq, Repr

structure BoundConn where
  connId : ConnId
  info : ConnMeta

structure HotConnBinding where
  writerId : WriterId
  info : ConnMeta
  deriving DecidableEq, Repr

structure ConnRegistry where
  routing : Finset ConnId := ∅
  writers : Finset WriterId := ∅
  hotBinding : Dict ConnId HotConnBinding := ∅
  writerForConn : Dict ConnId WriterId := ∅
  connsForWriter : Dict WriterId (Finset ConnId) := ∅
  info : Dict ConnId ConnMeta := ∅
  writerIdleSinceEpochSecs : Dict WriterId Nat := ∅
  boundClientsByWriter : Dict WriterId Nat := ∅
  activeSessionsByTargetDc : Dict Int Nat := ∅
  lastMetaForWriter : Dict WriterId ConnMeta := ∅

namespace ConnRegistry
variable (r : ConnRegistry) (connId : ConnId) (writerId : WriterId)

def setWriterBoundCount (count now : Nat) : ConnRegistry :=
  { r with
    boundClientsByWriter := r.boundClientsByWriter.insert writerId count
    writerIdleSinceEpochSecs :=
      if count = 0 then
        r.writerIdleSinceEpochSecs.insert writerId
          ((r.writerIdleSinceEpochSecs.lookup writerId).getD now)
      else r.writerIdleSinceEpochSecs.erase writerId }

def addActiveTargetDc (targetDc : Int) : ConnRegistry :=
  if targetDc = 0 then r
  else
    { r with
      activeSessionsByTargetDc := r.activeSessionsByTargetDc.insert targetDc
        ((r.activeSessionsByTargetDc.lookup targetDc).getD 0 + 1) }

def dropActiveTargetDc (targetDc : Int) : ConnRegistry :=
  if targetDc = 0 then r
  else
    match r.activeSessionsByTargetDc.lookup targetDc with
    | none => r
    | some count =>
      { r with
        activeSessionsByTargetDc :=
          if count - 1 = 0 then r.activeSessionsByTargetDc.erase targetDc
          else r.activeSessionsByTargetDc.insert targetDc (count - 1) }

def dropMeta : ConnRegistry :=
  let dropped := { r with info := r.info.erase connId }
  match r.info.lookup connId with
  | none => dropped
  | some previous => dropped.dropActiveTargetDc previous.targetDc

def register : ConnRegistry :=
  { r with routing := insert connId r.routing }

def registerWriter (now : Nat) : ConnRegistry :=
  { r with
    connsForWriter :=
      r.connsForWriter.insert writerId ((r.connsForWriter.lookup writerId).getD ∅)
    boundClientsByWriter :=
      r.boundClientsByWriter.insert writerId ((r.boundClientsByWriter.lookup writerId).getD 0)
    writerIdleSinceEpochSecs :=
      r.writerIdleSinceEpochSecs.insert writerId
        ((r.writerIdleSinceEpochSecs.lookup writerId).getD now)
    writers := insert writerId r.writers }

def detach (now : Nat) : ConnRegistry :=
  match r.connsForWriter.lookup writerId with
  | none => r.setWriterBoundCount writerId 0 now
  | some conns =>
    { r with connsForWriter := r.connsForWriter.insert writerId (conns.erase connId) }
      |>.setWriterBoundCount writerId (conns.erase connId).card now

def unregister (now : Nat) : ConnRegistry × Option WriterId :=
  let r := { r with
    routing := r.routing.erase connId
    hotBinding := r.hotBinding.erase connId }.dropMeta connId
  match r.writerForConn.lookup connId with
  | none => (r, none)
  | some writerId =>
    ({ r with writerForConn := r.writerForConn.erase connId }.detach connId writerId now,
      some writerId)

variable (info : ConnMeta)

def attach (now : Nat) : ConnRegistry :=
  let conns := insert connId ((r.connsForWriter.lookup writerId).getD ∅)
  let r := { r with
    lastMetaForWriter := r.lastMetaForWriter.insert writerId info
    connsForWriter := r.connsForWriter.insert writerId conns }.setWriterBoundCount writerId
      conns.card now
  { r with hotBinding := r.hotBinding.insert connId ⟨writerId, info⟩ }

def commitBinding (now : Nat) : ConnRegistry :=
  let bound := { r with writerForConn := r.writerForConn.insert connId writerId }
  let left :=
    match r.writerForConn.lookup connId with
    | none => bound
    | some previous => if previous = writerId then bound else bound.detach connId previous now
  let counted := left.dropMeta connId
  ({ counted with info := counted.info.insert connId info }.addActiveTargetDc info.targetDc).attach
    connId writerId info now

/-- The answer `false` stands for a connection that is gone as well as for a writer that is gone. -/
def bindWriter (now : Nat) : ConnRegistry × Bool :=
  if connId ∉ r.routing then (r, false)
  else if writerId ∉ r.writers then (r, false)
  else (r.commitBinding connId writerId info now, true)

def getWriterWithMeta : Option HotConnBinding :=
  if connId ∉ r.routing then none
  else
    match r.hotBinding.lookup connId with
    | none => none
    | some hot => if hot.writerId ∈ r.writers then some hot else none

def loseConn (r : ConnRegistry) (connId : ConnId) : ConnRegistry :=
  if r.writerForConn.lookup connId ≠ some writerId then r
  else
    let r := { r with writerForConn := r.writerForConn.erase connId }.dropMeta connId
    if (r.hotBinding.lookup connId).map HotConnBinding.writerId = some writerId then
      { r with hotBinding := r.hotBinding.erase connId }
    else r

def connsOf : List ConnId :=
  ((r.connsForWriter.lookup writerId).getD ∅).sort (· ≤ ·)

def lostConns : List BoundConn :=
  (r.connsOf writerId).filterMap fun connId =>
    if r.writerForConn.lookup connId = some writerId then
      (r.info.lookup connId).map fun info => ⟨connId, info⟩
    else none

def writerLost : ConnRegistry × List BoundConn :=
  let gone := { r with
    writers := r.writers.erase writerId
    lastMetaForWriter := r.lastMetaForWriter.erase writerId
    writerIdleSinceEpochSecs := r.writerIdleSinceEpochSecs.erase writerId
    boundClientsByWriter := r.boundClientsByWriter.erase writerId
    connsForWriter := r.connsForWriter.erase writerId }
  ((r.connsOf writerId).foldl (loseConn writerId) gone, r.lostConns writerId)

end ConnRegistry

inductive WriterContour
  | warm
  | active
  | draining
  deriving DecidableEq, Repr

structure MeWriter where
  addr : SocketAddr
  sourceIp : IpAddr
  writerDc : Int
  generation : Nat
  contour : WriterContour := .active
  draining : Bool := false
  drainingStartedAtEpochSecs : Nat := 0
  drainDeadlineEpochSecs : Nat := 0
  allowDrainFallback : Bool := false
  deriving DecidableEq, Repr

def MeWriter.startDraining (writer : MeWriter) (timeoutSecs : Option Nat)
    (allowDrainFallback : Bool) (now : Nat) : MeWriter :=
  { writer with
    draining := true
    allowDrainFallback := allowDrainFallback
    drainingStartedAtEpochSecs := now
    drainDeadlineEpochSecs :=
      ((timeoutSecs.filter (· ≠ 0)).map fun secs => min (now + secs) (2 ^ 64 - 1)).getD 0
    contour := .draining }

inductive WriterTeardownMode
  | any
  | drainingOnly
  deriving DecidableEq, Repr

structure WriterPool where
  writers : Dict WriterId MeWriter := ∅
  registry : ConnRegistry := {}

namespace WriterPool
variable (p : WriterPool) (writerId : WriterId)

-- The two halves of a removal. The lock of the writers is released between them.
def dropWriter : WriterPool :=
  { p with writers := p.writers.erase writerId }

def loseWriter : WriterPool :=
  { p with registry := (p.registry.writerLost writerId).1 }

def removeWriterWithMode (mode : WriterTeardownMode) : WriterPool × Bool :=
  match p.writers.lookup writerId with
  | none => (p.loseWriter writerId, false)
  | some writer =>
    if mode = .drainingOnly ∧ !writer.draining then (p, false)
    else ((p.dropWriter writerId).loseWriter writerId, true)

def removeWriterAndCloseClients : WriterPool :=
  (p.removeWriterWithMode writerId .any).1

def markWriterDrainingWithTimeout (timeoutSecs : Option Nat) (allowDrainFallback : Bool)
    (now : Nat) : WriterPool :=
  match p.writers.lookup writerId with
  | none => p
  | some writer =>
    { p with
      writers := p.writers.insert writerId
        (writer.startDraining timeoutSecs allowDrainFallback now) }

theorem removeWriterAndCloseClients_eq :
    p.removeWriterAndCloseClients writerId = (p.dropWriter writerId).loseWriter writerId := by
  unfold removeWriterAndCloseClients removeWriterWithMode
  split
  · rename_i absent
    have erased : p.writers.erase writerId = p.writers :=
      AList.ext (List.kerase_of_notMem_keys (AList.lookup_eq_none.mp absent))
    rw [dropWriter, erased]
  · rfl

theorem lookup_removeWriterAndCloseClients (writerId other : WriterId) :
    (p.removeWriterAndCloseClients writerId).writers.lookup other =
      if other = writerId then none else p.writers.lookup other := by
  rw [removeWriterAndCloseClients_eq]
  exact Dict.lookup_erase_ite _ _ _

theorem lookup_markWriterDrainingWithTimeout (writerId other : WriterId)
    (timeoutSecs : Option Nat) (allowDrainFallback : Bool) (now : Nat) :
    (p.markWriterDrainingWithTimeout writerId timeoutSecs allowDrainFallback now).writers.lookup
        other =
      if other = writerId then
        (p.writers.lookup writerId).map (·.startDraining timeoutSecs allowDrainFallback now)
      else p.writers.lookup other := by
  unfold markWriterDrainingWithTimeout
  split
  · rename_i absent
    split_ifs with same
    · rw [same, absent]
      rfl
    · rfl
  · rename_i writer found
    rw [Dict.lookup_insert_ite, found]
    rfl

end WriterPool

end Telemt.MePool
