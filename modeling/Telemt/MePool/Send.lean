import Telemt.Foundation.Run
import Telemt.MePool.Model

namespace Telemt.MePool
open Foundation

/-!
# `send_proxy_req`

One call of the send path as a machine that takes turns with the rest of the program. A turn ends
where the source awaits or where another task can get in between, so the pool and the registry may
be different ones at every step. `send_proxy_req_pooled` makes one more round of the bound path
before this loop.

A command channel is named by its writer. Once closed it stays closed. Which writers are candidates,
in which order they are tried, and how full their channels are is left open.
-/

structure SendRequest where
  connId : ConnId
  targetDc : Int
  clientAddr : SocketAddr
  ourAddr : SocketAddr
  protoFlags : UInt32

def SendRequest.metaFor (request : SendRequest) (writer : MeWriter) : ConnMeta where
  targetDc := request.targetDc
  clientAddr := request.clientAddr
  ourAddr := ⟨writer.sourceIp, request.ourAddr.port⟩
  protoFlags := request.protoFlags

abbrev Candidate := WriterId × MeWriter

-- What `try_send`, `try_reserve_owned` and `reserve_owned` answer.
inductive Slot
  | free
  | full
  | closed
  deriving DecidableEq, Repr

inductive Reserved
  | granted
  | closed
  | timedOut
  deriving DecidableEq, Repr

inductive SendPhase
  | lookUp
  | blockedOnBound (writerId : WriterId)
  | choosing
  | offering (candidates : List Candidate) (fallback : Option Candidate)
  | blockedOnFallback (candidate : Candidate)
  | binding (candidate : Candidate) (next : SendPhase)
  -- The two halves of `remove_writer_and_close_clients`.
  | dropping (writerId : WriterId) (next : SendPhase)
  | losing (writerId : WriterId) (next : SendPhase)
  | returned (sent : Bool)

structure SendState where
  pool : WriterPool
  closed : Finset WriterId := ∅
  phase : SendPhase := .lookUp

inductive SendEvent
  | environment (pool : WriterPool) (closed : Finset WriterId)
  | trySend (slot : Slot)
  | reserve (reserved : Reserved)
  | noWriter (again : Bool)
  | candidates (ordered : List Candidate)
  | skip
  | tryReserve (slot : Slot)
  | endRound (accepts : Bool)
  | bind (now : Nat)
  | dropWriter
  | loseWriter

namespace SendState
variable (s : SendState)

def goto (phase : SendPhase) : SendState := { s with phase := phase }

variable (writerId : WriterId)

def slotAnswers (slot : Slot) : Prop :=
  slot = .closed ↔ writerId ∈ s.closed

def reserveAnswers (reserved : Reserved) : Prop :=
  (reserved = .closed → writerId ∈ s.closed) ∧ (reserved = .granted → writerId ∉ s.closed)

instance (slot : Slot) : Decidable (s.slotAnswers writerId slot) :=
  inferInstanceAs (Decidable (_ ↔ _))

instance (reserved : Reserved) : Decidable (s.reserveAnswers writerId reserved) :=
  inferInstanceAs (Decidable ((_ → _) ∧ (_ → _)))

def onBound : Slot → SendState
  | .free => s.goto (.returned true)
  | .full => s.goto (.blockedOnBound writerId)
  | .closed => s.goto (.dropping writerId .lookUp)

def onBoundReserved : Reserved → SendState
  | .granted => s.goto (.returned true)
  | .timedOut => s.goto (.returned false)
  | .closed => s.goto (.dropping writerId .lookUp)

def onFallbackReserved (candidate : Candidate) : Reserved → SendState
  | .granted => s.goto (.binding candidate .lookUp)
  | .timedOut => s.goto .lookUp
  | .closed => s.goto (.dropping candidate.1 .lookUp)

def onOffer (candidate : Candidate) (rest : List Candidate) (fallback : Option Candidate) :
    Slot → SendState
  | .free => s.goto (.binding candidate (.offering rest fallback))
  | .full => s.goto (.offering rest (fallback.or (some candidate)))
  | .closed => s.goto (.dropping candidate.1 (.offering rest fallback))

def onBind (request : SendRequest) (candidate : Candidate) (next : SendPhase) (now : Nat) :
    SendState :=
  let (registry, bound) :=
    s.pool.registry.bindWriter request.connId candidate.1 (request.metaFor candidate.2) now
  { s with
    pool := { s.pool with registry := registry }
    phase := if bound then .returned true else .dropping candidate.1 next }

def step (request : SendRequest) (s : SendState) : SendEvent → Option SendState
  | .environment pool closed =>
    if s.closed ⊆ closed then some { s with pool := pool, closed := closed } else none
  | .trySend slot =>
    match s.phase with
    | .lookUp =>
      match s.pool.registry.getWriterWithMeta request.connId with
      | none => some (s.goto .choosing)
      | some hot =>
        if s.slotAnswers hot.writerId slot then some (s.onBound hot.writerId slot) else none
    | _ => none
  | .reserve reserved =>
    match s.phase with
    | .blockedOnBound writerId =>
      if s.reserveAnswers writerId reserved then some (s.onBoundReserved writerId reserved)
      else none
    | .blockedOnFallback candidate =>
      if s.reserveAnswers candidate.1 reserved then some (s.onFallbackReserved candidate reserved)
      else none
    | _ => none
  | .noWriter again =>
    match s.phase with
    | .choosing => some (s.goto (if again then .lookUp else .returned false))
    | _ => none
  | .candidates ordered =>
    match s.phase with
    | .choosing =>
      if ordered ≠ [] ∧ ∀ candidate ∈ ordered,
          s.pool.writers.lookup candidate.1 = some candidate.2 then
        some (s.goto (.offering ordered none))
      else none
    | _ => none
  | .skip =>
    match s.phase with
    | .offering (_ :: rest) fallback => some (s.goto (.offering rest fallback))
    | _ => none
  | .tryReserve slot =>
    match s.phase with
    | .offering (candidate :: rest) fallback =>
      if s.slotAnswers candidate.1 slot then some (s.onOffer candidate rest fallback slot)
      else none
    | _ => none
  | .endRound accepts =>
    match s.phase with
    | .offering [] none => some (s.goto .lookUp)
    | .offering [] (some candidate) =>
      some (s.goto (if accepts then .blockedOnFallback candidate else .lookUp))
    | _ => none
  | .bind now =>
    match s.phase with
    | .binding candidate next => some (s.onBind request candidate next now)
    | _ => none
  | .dropWriter =>
    match s.phase with
    | .dropping writerId next =>
      some { s with pool := s.pool.dropWriter writerId, phase := .losing writerId next }
    | _ => none
  | .loseWriter =>
    match s.phase with
    | .losing writerId next =>
      some { s with pool := s.pool.loseWriter writerId, phase := next }
    | _ => none

end SendState

end Telemt.MePool
