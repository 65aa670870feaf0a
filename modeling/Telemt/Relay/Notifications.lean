import Telemt.Relay.Session

namespace Telemt.Relay
open Foundation

/-! # Route notifications and the client's bytes -/

def Stage.live : Stage → Bool
  | .top => true
  | .selecting => true
  | .ended _ => false

def deliver (cfg : SessionConfig) : List C2MeCommand → List Frame → List C2MeCommand
  | sent, [] => sent
  | sent, frame :: later =>
    let command := dataCommand cfg.protoFlags frame
    if cfg.takes sent command then deliver cfg (sent ++ [command]) later else sent

def AtFrameStart (tag : ProtoTag) (reader : ReadState) : Prop :=
  reader.phase = startPhase tag ∧ reader.zeroLenFrames = 0

instance (tag : ProtoTag) (reader : ReadState) : Decidable (AtFrameStart tag reader) :=
  inferInstanceAs (Decidable (_ ∧ _))

theorem AtFrameStart.newCall_eq {tag : ProtoTag} {reader : ReadState}
    (start : AtFrameStart tag reader) : newCall tag reader = reader := by
  obtain ⟨phase, zeroLenFrames⟩ := start
  unfold newCall
  rw [← phase, ← zeroLenFrames]

-- The read that a notification drops has consumed nothing that its successor needs.
def DropsNothing (cfg : SessionConfig) (s : Session) (move : SessionMove) : Prop :=
  move = .changed → AtFrameStart cfg.read.tag s.reader

instance (cfg : SessionConfig) (s : Session) (move : SessionMove) :
    Decidable (DropsNothing cfg s move) :=
  inferInstanceAs (Decidable (_ → _))

structure Accounted (cfg : SessionConfig) (first : ReadState) (consumed : Bytes) (s : Session) :
    Prop where
  forwarded : s.forwarded = payloads (deliver cfg [] (decodeBytes cfg.read first consumed).1)
  future : s.stage.live → ∀ rest,
    deliver cfg [] (decodeBytes cfg.read first (consumed ++ rest)).1 =
      deliver cfg s.sent (decodeBytes cfg.read s.reader rest).1

section
variable {cfg : SessionConfig} {first : ReadState} {consumed : Bytes} {s t : Session}

theorem Accounted.of_future
    (future : ∀ rest, deliver cfg [] (decodeBytes cfg.read first (consumed ++ rest)).1 =
      deliver cfg s.sent (decodeBytes cfg.read s.reader rest).1) :
    Accounted cfg first consumed s := by
  refine ⟨?_, fun _ => future⟩
  have now := future []
  rw [List.append_nil] at now
  rw [now]
  rfl

theorem Accounted.start (route : RouteCutoverState) (unseen : Bool) :
    Accounted cfg (freshReader cfg.read.tag) [] (.start cfg.read.tag route unseen) :=
  .of_future fun _ => rfl

theorem Accounted.of_ended (ended : s.stage.live = false)
    (forwarded : s.forwarded = payloads (deliver cfg [] (decodeBytes cfg.read first consumed).1)) :
    Accounted cfg first consumed s :=
  ⟨forwarded, fun live => absurd live (by rw [ended]; exact Bool.false_ne_true)⟩

theorem Accounted.keep (accounted : Accounted cfg first consumed s) (reader : t.reader = s.reader)
    (sent : t.sent = s.sent) (live : t.stage.live → s.stage.live) :
    Accounted cfg first consumed t := by
  refine ⟨?_, ?_⟩
  · rw [Session.forwarded, sent]
    exact accounted.forwarded
  · intro running rest
    rw [reader, sent]
    exact accounted.future (live running) rest

theorem payloads_close (sent : List C2MeCommand) : payloads (sent ++ [.close]) = payloads sent := by
  rw [payloads, List.filterMap_append]
  exact List.append_nil _

section
variable (accounted : Accounted cfg first consumed s)
include accounted

theorem Accounted.close (reason : SessionEnd) :
    Accounted cfg first consumed (s.close cfg reason) := by
  apply Accounted.of_ended rfl
  rw [← accounted.forwarded, Session.forwarded, Session.close]
  split_ifs with taken
  · exact payloads_close s.sent
  · rfl

theorem Accounted.loopTop (top : s.stage = .top) (pressure : Bool) :
    Accounted cfg first consumed (s.loopTop cfg pressure) := by
  unfold Session.loopTop
  split_ifs with evicted affected
  · exact accounted.close _
  · exact accounted.close _
  · exact accounted.keep rfl rfl fun _ => by rw [top]; rfl

theorem Accounted.onEof : Accounted cfg first consumed (s.onEof cfg) := by
  unfold Session.onEof
  cases Relay.onEof s.reader with
  | ok => exact accounted.close _
  | error => exact accounted.keep rfl rfl nofun

theorem Accounted.onRead (selecting : s.stage = .selecting) {bytes : Bytes} (nonempty : bytes ≠ [])
    (fits : bytes.length ≤ s.reader.phase.wanted) :
    Accounted cfg first (consumed ++ bytes) (s.onRead cfg bytes) := by
  have read (rest : Bytes) :
      deliver cfg [] (decodeBytes cfg.read first (consumed ++ bytes ++ rest)).1 =
        deliver cfg s.sent (resume cfg.read (onBytes cfg.read s.reader bytes) rest).1 := by
    rw [List.append_assoc, accounted.future (by rw [selecting]; rfl),
      decodeBytes_read nonempty fits]
  have done := read []
  rw [List.append_nil] at done
  unfold Session.onRead
  cases outcome : onBytes cfg.read s.reader bytes with
  | reading reader =>
    rw [outcome] at read
    exact .of_future read
  | frame =>
    rw [outcome] at read done
    dsimp only
    split_ifs with taken
    · apply Accounted.of_future
      intro rest
      rw [read, resume, deliver, if_pos taken]
    · apply Accounted.of_ended rfl
      rw [done, resume, deliver, if_neg taken]
      rfl
  | failed =>
    apply Accounted.of_ended rfl
    rw [done, outcome]
    rfl

end

theorem step_accounted {move : SessionMove} (harmless : DropsNothing cfg s move)
    (accounted : Accounted cfg first consumed s) (moved : s.step cfg move = some t) :
    Accounted cfg first (consumed ++ move.bytes) t := by
  have unread (none : move.bytes = []) (accounted : Accounted cfg first consumed t) :
      Accounted cfg first (consumed ++ move.bytes) t := by
    rw [none, List.append_nil]
    exact accounted
  cases move with
  | read =>
    rw [Session.step] at moved
    split_ifs at moved with enabled
    obtain ⟨selecting, nonempty, fits⟩ := enabled
    exact Option.some.inj moved ▸ accounted.onRead selecting nonempty fits
  | setMode mode =>
    apply unread rfl
    rw [Session.step] at moved
    split_ifs at moved with alive
    rw [← Option.some.inj moved]
    cases s.route.setMode mode with
    | none => exact accounted
    | some => exact accounted.keep rfl rfl id
  | dropController =>
    apply unread rfl
    rw [← Option.some.inj moved]
    exact accounted.keep rfl rfl id
  | loopTop pressure =>
    apply unread rfl
    rw [Session.step] at moved
    split_ifs at moved with top
    exact Option.some.inj moved ▸ accounted.loopTop top pressure
  | cancelled =>
    apply unread rfl
    rw [Session.step] at moved
    split_ifs at moved with selecting
    exact Option.some.inj moved ▸ accounted.close _
  | changed =>
    apply unread rfl
    rw [Session.step] at moved
    split_ifs at moved with enabled
    rw [← Option.some.inj moved]
    exact accounted.keep (harmless rfl).newCall_eq rfl fun _ => by rw [enabled.1]; rfl
  | eof =>
    apply unread rfl
    rw [Session.step] at moved
    split_ifs at moved with selecting
    exact Option.some.inj moved ▸ accounted.onEof
  | ioError =>
    apply unread rfl
    rw [Session.step] at moved
    split_ifs at moved with selecting
    rw [← Option.some.inj moved]
    exact accounted.keep rfl rfl nofun

theorem run_accounted {moves : List SessionMove}
    (harmless : Guarded (Session.step cfg) (DropsNothing cfg) s moves)
    (accounted : Accounted cfg first consumed s)
    (run : runFrom (Session.step cfg) s moves = some t) :
    Accounted cfg first (consumed ++ bytesRead moves) t := by
  induction moves generalizing s consumed with
  | nil =>
    rw [← Option.some.inj run, bytesRead, List.flatMap_nil, List.append_nil]
    exact accounted
  | cons _ _ ih =>
    obtain ⟨next, moved, rest⟩ := runFrom_cons_eq_some.mp run
    have later := ih (harmless.2 next moved) (step_accounted harmless.1 accounted moved) rest
    rw [List.append_assoc] at later
    exact later

theorem notifications_between_frames_lose_nothing {route route' : RouteCutoverState}
    {unseen unseen' : Bool} {noisy quiet : List SessionMove}
    (harmless : Guarded (Session.step cfg) (DropsNothing cfg)
      (.start cfg.read.tag route unseen) noisy)
    (ran : runFrom (Session.step cfg) (.start cfg.read.tag route unseen) noisy = some s)
    (silent : ∀ move ∈ quiet, move ≠ .changed)
    (ran' : runFrom (Session.step cfg) (.start cfg.read.tag route' unseen') quiet = some t)
    (same : bytesRead noisy = bytesRead quiet) : s.forwarded = t.forwarded := by
  have noisyAccounted := run_accounted harmless (.start route unseen) ran
  have quietAccounted := run_accounted
    (guarded_of_mem (fun move member _ notified => absurd notified (silent move member)) _)
    (.start route' unseen') ran'
  rw [noisyAccounted.forwarded, quietAccounted.forwarded, same]

end

def abridgedSession : SessionConfig := ⟨⟨.abridged, 4096, true⟩, 0, 0, fun _ _ => true⟩

def startedSession : Session := .start .abridged ⟨.middle, 0⟩ false

def oneFrameRead : List SessionMove := [.loopTop false, .read [1], .read [1, 5, 6, 7]]

-- The route goes to direct and back before the loop looks at it, so the session stays.
def routeFlip : List SessionMove := [.setMode .direct, .setMode .middle, .changed, .loopTop false]

theorem flip_before_frame_loses_nothing :
    (runFrom (Session.step abridgedSession) startedSession
      (.loopTop false :: routeFlip ++ oneFrameRead.tail)).map Session.forwarded =
        some [([1, 5, 6, 7], 0)] := by
  have harmless : Guarded (Session.step abridgedSession) (DropsNothing abridgedSession)
      startedSession (.loopTop false :: routeFlip ++ oneFrameRead.tail) := by decide +kernel
  have quiet : (runFrom (Session.step abridgedSession) startedSession oneFrameRead).map
      Session.forwarded = some [([1, 5, 6, 7], 0)] := by decide +kernel
  obtain ⟨t, ran', forwarded⟩ := Option.map_eq_some_iff.mp quiet
  have defined : (runFrom (Session.step abridgedSession) startedSession
      (.loopTop false :: routeFlip ++ oneFrameRead.tail)).isSome := by decide +kernel
  obtain ⟨s, ran⟩ := Option.isSome_iff_exists.mp defined
  rw [ran, ← forwarded, Option.map_some,
    notifications_between_frames_lose_nothing harmless ran (by decide) ran' (by decide)]

-- The length byte goes with the dropped read, and the first byte of the payload is taken for it.
theorem flip_inside_frame_loses_frame :
    ∃ s t,
      runFrom (Session.step abridgedSession) startedSession
        ([.loopTop false, .read [1]] ++ routeFlip ++ [.read [1], .read [5, 6, 7]]) = some s ∧
      runFrom (Session.step abridgedSession) startedSession oneFrameRead = some t ∧
      bytesRead ([.loopTop false, .read [1]] ++ routeFlip ++ [.read [1], .read [5, 6, 7]]) =
        bytesRead oneFrameRead ∧
      s.stage = .selecting ∧ s.forwarded = [] ∧ t.forwarded = [([1, 5, 6, 7], 0)] := by
  refine ⟨_, _, rfl, rfl, ?_, ?_, ?_, ?_⟩ <;> decide +kernel

end Telemt.Relay
