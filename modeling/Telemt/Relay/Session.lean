import Telemt.Foundation.Run
import Telemt.Relay.ClientRead

namespace Telemt.Relay
open Foundation

/-!
# The client loop of a relayed session

A move is one thing that can happen between two awaits; a branch of the select other than its own
drops the read future.
-/

inductive RelayRouteMode
  | direct
  | middle
  deriving DecidableEq, Repr

structure RouteCutoverState where
  mode : RelayRouteMode
  generation : Nat

def RouteCutoverState.setMode (state : RouteCutoverState) (mode : RelayRouteMode) :
    Option RouteCutoverState :=
  if state.mode = mode then none else some ⟨mode, min (state.generation + 1) (2 ^ 64 - 1)⟩

def isSessionAffectedByCutover (current : RouteCutoverState) (sessionMode : RelayRouteMode)
    (sessionGeneration : Nat) : Bool :=
  decide (sessionGeneration < current.generation) && current.mode != sessionMode

def affectedCutoverState (current : RouteCutoverState) (sessionMode : RelayRouteMode)
    (sessionGeneration : Nat) : Option RouteCutoverState :=
  if isSessionAffectedByCutover current sessionMode sessionGeneration then some current else none

inductive C2MeCommand
  | data (payload : Bytes) (flags : UInt32)
  | close

def rpcFlagNotEncrypted : UInt32 := 0x2

def rpcFlagQuickack : UInt32 := 0x80000000

def dataCommand (protoFlags : UInt32) (frame : Frame) : C2MeCommand :=
  let flags := if frame.quickack then protoFlags ||| rpcFlagQuickack else protoFlags
  let flags :=
    if 8 ≤ frame.payload.length ∧ (frame.payload.take 8).all (· == 0) then
      flags ||| rpcFlagNotEncrypted
    else flags
  .data frame.payload flags

-- `takes` decides for the traffic budget, the quota, the byte permit and the command channel.
structure SessionConfig where
  read : ReadConfig
  protoFlags : UInt32
  generation : Nat
  takes : List C2MeCommand → C2MeCommand → Bool

inductive SessionEnd
  | evicted
  | routeSwitched
  | userDisabled
  | clientClosed
  | refused
  | readFailed (reason : FrameError)
  | ioError
  deriving DecidableEq, Repr

inductive Stage
  | top
  | selecting
  | ended (reason : SessionEnd)
  deriving DecidableEq, Repr

structure Session where
  route : RouteCutoverState
  unseen : Bool
  controllerAlive : Bool
  watchOpen : Bool
  reader : ReadState
  sent : List C2MeCommand
  stage : Stage

inductive SessionMove
  | setMode (mode : RelayRouteMode)
  | dropController
  | loopTop (pressure : Bool)
  | cancelled
  | changed
  | read (bytes : Bytes)
  | eof
  | ioError
  deriving DecidableEq, Repr

section
variable (cfg : SessionConfig) (s : Session)

def Session.close (reason : SessionEnd) : Session :=
  { s with
    sent := if cfg.takes s.sent .close then s.sent ++ [.close] else s.sent
    stage := .ended reason }

def Session.loopTop (pressure : Bool) : Session :=
  if cfg.read.idleEnabled && pressure then s.close cfg .evicted
  else if (affectedCutoverState s.route .middle cfg.generation).isSome then
    s.close cfg .routeSwitched
  else { s with stage := .selecting }

def Session.onRead (bytes : Bytes) : Session :=
  match onBytes cfg.read s.reader bytes with
  | .reading reader => { s with reader }
  | .frame frame reader =>
    let command := dataCommand cfg.protoFlags frame
    if cfg.takes s.sent command then
      { s with reader, sent := s.sent ++ [command], stage := .top }
    else { s with reader, stage := .ended .refused }
  | .failed reason => { s with stage := .ended (.readFailed reason) }

def Session.onEof : Session :=
  match Relay.onEof s.reader with
  | .ok () => s.close cfg .clientClosed
  | .error reason => { s with stage := .ended (.readFailed reason) }

-- The watch reports an unseen value before it reports that the controller is gone.
def Session.onChanged : Session :=
  { s with
    unseen := false
    watchOpen := s.unseen
    reader := newCall cfg.read.tag s.reader
    stage := .top }

def Session.step : SessionMove → Option Session
  | .setMode mode =>
    if s.controllerAlive then
      some (match s.route.setMode mode with
        | none => s
        | some route => { s with route, unseen := true })
    else none
  | .dropController => some { s with controllerAlive := false }
  | .loopTop pressure => if s.stage = .top then some (s.loopTop cfg pressure) else none
  | .cancelled => if s.stage = .selecting then some (s.close cfg .userDisabled) else none
  | .changed =>
    if s.stage = .selecting ∧ s.watchOpen ∧ (s.unseen ∨ ¬ s.controllerAlive) then
      some (s.onChanged cfg)
    else none
  | .read bytes =>
    if s.stage = .selecting ∧ bytes ≠ [] ∧ bytes.length ≤ s.reader.phase.wanted then
      some (s.onRead cfg bytes)
    else none
  | .eof => if s.stage = .selecting then some (s.onEof cfg) else none
  | .ioError =>
    if s.stage = .selecting then some { s with stage := .ended .ioError } else none

end

def Session.start (tag : ProtoTag) (route : RouteCutoverState) (unseen : Bool) : Session :=
  ⟨route, unseen, true, true, freshReader tag, [], .top⟩

def C2MeCommand.payload? : C2MeCommand → Option (Bytes × UInt32)
  | .data payload flags => some (payload, flags)
  | .close => none

def payloads (sent : List C2MeCommand) : List (Bytes × UInt32) := sent.filterMap (·.payload?)

def Session.forwarded (s : Session) : List (Bytes × UInt32) := payloads s.sent

def SessionMove.bytes : SessionMove → Bytes
  | .read bytes => bytes
  | _ => []

def bytesRead (moves : List SessionMove) : Bytes := moves.flatMap (·.bytes)

end Telemt.Relay
