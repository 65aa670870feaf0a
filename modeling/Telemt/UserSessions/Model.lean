import Telemt.Foundation.Dict
import Telemt.Foundation.Run

namespace Telemt.UserSessions
open Foundation

/-!
# Sessions and disabled users

`handle_authenticated_static_with_shared` is cut at its accesses to the shared state and at the await
of the connection reservation. A disable is two accesses of the caller, the insertion into
`disabled_users` and the cancellation of the registered sessions; `cancels` lists the disables whose
cancellation is still to come. The token of a session is known by the position of the session.
-/

variable {υ : Type} [DecidableEq υ]

inductive SessionPhase
  | authenticated
  | enabled
  | reserved
  | relaying (sessionId : UInt64)
  | ended
  deriving DecidableEq, Repr

structure Session (υ : Type) where
  user : υ
  phase : SessionPhase := .authenticated
  cancelled : Bool := false
  deriving DecidableEq, Repr

structure ProxySharedState (υ : Type) where
  disabledUsers : Dict υ Unit := ∅
  activeUserSessions : Dict (υ × UInt64) Nat := ∅

namespace ProxySharedState
variable (shared : ProxySharedState υ) (user : υ)

def isUserEnabled : Bool := !decide (user ∈ shared.disabledUsers)

def setUserEnabled (enabled : Bool) : ProxySharedState υ × Bool :=
  if enabled then ({ shared with disabledUsers := shared.disabledUsers.erase user }, false)
  else
    ({ shared with disabledUsers := shared.disabledUsers.insert user () },
      shared.isUserEnabled user)

/-- The second component lists the users that were not disabled before. -/
def applyUserEnabledConfig (userEnabled : Dict υ Bool) : ProxySharedState υ × List υ :=
  let desired := (userEnabled.entries.filter fun row => !row.2).map Sigma.fst
  let kept := Dict.retain (fun user _ => decide (user ∈ desired)) shared.disabledUsers
  ({ shared with disabledUsers := desired.foldl (fun users user => users.insert user ()) kept },
    desired.filter shared.isUserEnabled)

def registerUserSession (sessionId : UInt64) (token : Nat) : ProxySharedState υ :=
  { shared with activeUserSessions := shared.activeUserSessions.insert (user, sessionId) token }

def dropUserSession (sessionId : UInt64) : ProxySharedState υ :=
  { shared with activeUserSessions := shared.activeUserSessions.erase (user, sessionId) }

def userTokens : List Nat :=
  (shared.activeUserSessions.entries.filter fun row => decide (row.1.1 = user)).map Sigma.snd

end ProxySharedState

structure System (υ : Type) where
  shared : ProxySharedState υ := {}
  sessions : List (Session υ) := []
  cancels : List υ := []

/-- `disable` and `reload` insert, `cancel` is their second half. Deleting a user enables it and then
cancels its sessions with `cancelDeleted`. -/
inductive Event (υ : Type)
  | authenticate (user : υ)
  | checkEnabled (session : Nat)
  | acquire (session : Nat) (granted : Bool)
  | register (session : Nat) (sessionId : UInt64)
  | finish (session : Nat)
  | enable (user : υ)
  | disable (user : υ)
  | reload (userEnabled : Dict υ Bool)
  | cancel (user : υ)
  | cancelDeleted (user : υ)

namespace System
variable (s : System υ)

def setPhase (i : Nat) (session : Session υ) (phase : SessionPhase) : System υ :=
  { s with sessions := s.sessions.set i { session with phase := phase } }

def cancelUserSessions (user : υ) : System υ :=
  { s with
    sessions := s.sessions.mapIdx fun i session =>
      if i ∈ s.shared.userTokens user then { session with cancelled := true } else session }

def step : Event υ → Option (System υ)
  | .authenticate user => some { s with sessions := s.sessions ++ [{ user := user }] }
  | .checkEnabled i =>
    s.sessions[i]?.bind fun session =>
      if session.phase = .authenticated then
        some (s.setPhase i session
          (if s.shared.isUserEnabled session.user then .enabled else .ended))
      else none
  | .acquire i granted =>
    s.sessions[i]?.bind fun session =>
      if session.phase = .enabled then
        some (s.setPhase i session (if granted then .reserved else .ended))
      else none
  | .register i sessionId =>
    s.sessions[i]?.bind fun session =>
      if session.phase = .reserved then
        some { s with
          shared := s.shared.registerUserSession session.user sessionId i
          sessions := s.sessions.set i
            { session with phase := .relaying sessionId, cancelled := false } }
      else none
  | .finish i =>
    s.sessions[i]?.bind fun session =>
      match session.phase with
      | .relaying sessionId =>
        some { s.setPhase i session .ended with
          shared := s.shared.dropUserSession session.user sessionId }
      | _ => none
  | .enable user => some { s with shared := (s.shared.setUserEnabled user true).1 }
  | .disable user =>
    some { s with
      shared := (s.shared.setUserEnabled user false).1
      cancels := user :: s.cancels }
  | .reload userEnabled =>
    let (shared, newlyDisabled) := s.shared.applyUserEnabledConfig userEnabled
    some { s with shared := shared, cancels := newlyDisabled ++ s.cancels }
  | .cancel user =>
    if user ∈ s.cancels then
      some { s.cancelUserSessions user with cancels := s.cancels.erase user }
    else none
  | .cancelDeleted user => some (s.cancelUserSessions user)

end System

end Telemt.UserSessions
