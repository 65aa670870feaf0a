import Telemt.Foundation.Bytes

namespace Telemt.Relay
open Foundation

/-!
# Reading client frames

`read_client_payload_with_idle_policy_in` as a machine that is cut at its socket reads: a state holds
what the running call has consumed so far, and one read hands it between one byte and as many as it
still wants. The clocks of the idle policy and the idle candidate table are not modelled.
-/

inductive ProtoTag
  | abridged
  | intermediate
  | secure
  deriving DecidableEq, Repr

structure ReadConfig where
  tag : ProtoTag
  maxFrame : Nat
  idleEnabled : Bool

inductive ReadPhase
  | firstByte
  | extended (quickack : Bool) (filled : Bytes) (short : filled.length < 3)
  | lengthBytes (filled : Bytes) (short : filled.length < 4)
  | payload (len : Nat) (quickack : Bool) (filled : Bytes) (short : filled.length < len)
  deriving DecidableEq, Repr

-- `phase` and `zeroLenFrames` belong to the running call, the other two to the session.
structure ReadState where
  phase : ReadPhase
  zeroLenFrames : Nat
  tinyFrameDebt : Nat
  frameCounter : Nat
  deriving DecidableEq, Repr

structure Frame where
  payload : Bytes
  quickack : Bool
  deriving DecidableEq, Repr

inductive FrameError
  | tinyFrameOverhead (debt : Nat)
  | excessiveZeroLength
  | tooSmall (len : Nat)
  | tooLarge (len maxFrame frameCounter : Nat)
  | invalidSecureLength (len : Nat)
  | unexpectedEof
  deriving DecidableEq, Repr

inductive ReadOutcome
  | reading (s : ReadState)
  | frame (frame : Frame) (s : ReadState)
  | failed (reason : FrameError)

def tinyFrameDebtPerTiny : Nat := 8

def tinyFrameDebtLimit : Nat := 512

def legacyMaxConsecutiveZeroLenFrames : Nat := 4

def ReadPhase.wanted : ReadPhase → Nat
  | .firstByte => 1
  | .extended _ filled _ => 3 - filled.length
  | .lengthBytes filled _ => 4 - filled.length
  | .payload len _ filled _ => len - filled.length

theorem ReadPhase.wanted_pos (phase : ReadPhase) : 0 < phase.wanted := by
  cases phase with
  | firstByte => exact Nat.one_pos
  | extended quickack filled short | lengthBytes filled short
  | payload _ _ _ short => exact Nat.sub_pos_of_lt short

def startPhase : ProtoTag → ReadPhase
  | .abridged => .firstByte
  | .intermediate => .lengthBytes [] (by decide)
  | .secure => .lengthBytes [] (by decide)

def freshReader (tag : ProtoTag) : ReadState := ⟨startPhase tag, 0, 0, 0⟩

def newCall (tag : ProtoTag) (s : ReadState) : ReadState :=
  { s with phase := startPhase tag, zeroLenFrames := 0 }

def securePayloadLenFromWireLen (wireLen : Nat) : Option Nat :=
  if wireLen < 4 then none else some (wireLen - wireLen % 4)

def isValidSecurePayloadLen (dataLen : Nat) : Bool := dataLen % 4 == 0

section
variable (cfg : ReadConfig)

variable (s : ReadState)

def onZeroLength : ReadOutcome :=
  let debt := s.tinyFrameDebt + tinyFrameDebtPerTiny
  if tinyFrameDebtLimit ≤ debt then .failed (.tinyFrameOverhead debt)
  else if cfg.idleEnabled then
    .reading { s with phase := startPhase cfg.tag, tinyFrameDebt := debt }
  else if legacyMaxConsecutiveZeroLenFrames < s.zeroLenFrames + 1 then
    .failed .excessiveZeroLength
  else
    .reading { s with
      phase := startPhase cfg.tag
      zeroLenFrames := s.zeroLenFrames + 1
      tinyFrameDebt := debt }

def onHeader (len : Nat) (quickack : Bool) : ReadOutcome :=
  if empty : len = 0 then onZeroLength cfg s
  else if len < 4 ∧ cfg.tag ≠ .abridged then .failed (.tooSmall len)
  else if cfg.maxFrame < len then .failed (.tooLarge len cfg.maxFrame s.frameCounter)
  else if cfg.tag = .secure ∧ (securePayloadLenFromWireLen len).isNone then
    .failed (.invalidSecureLength len)
  else .reading { s with phase := .payload len quickack [] (Nat.pos_of_ne_zero empty) }

def onPayload (wire : Bytes) (quickack : Bool) : ReadOutcome :=
  let payload :=
    if cfg.tag = .secure then
      wire.take ((securePayloadLenFromWireLen wire.length).getD wire.length)
    else wire
  .frame ⟨payload, quickack⟩ (newCall cfg.tag { s with
    tinyFrameDebt := s.tinyFrameDebt - 1
    frameCounter := s.frameCounter + 1 })

def onFirstByte (first : UInt8) : ReadOutcome :=
  let quickack := decide (128 ≤ first.toNat)
  if first.toNat % 128 = 127 then
    .reading { s with phase := .extended quickack [] (by decide) }
  else onHeader cfg s (first.toNat % 128 * 4) quickack

def onBytes (bytes : Bytes) : ReadOutcome :=
  match s.phase with
  | .firstByte =>
    match bytes with
    | [] => .reading s
    | first :: _ => onFirstByte cfg s first
  | .extended quickack filled _ =>
    if short : (filled ++ bytes).length < 3 then
      .reading { s with phase := .extended quickack (filled ++ bytes) short }
    else onHeader cfg s (leNat (filled ++ bytes) * 4) quickack
  | .lengthBytes filled _ =>
    if short : (filled ++ bytes).length < 4 then
      .reading { s with phase := .lengthBytes (filled ++ bytes) short }
    else
      onHeader cfg s (leNat (filled ++ bytes) % 2 ^ 31)
        (decide (128 ≤ ((filled ++ bytes).getD 3 0).toNat))
  | .payload len quickack filled _ =>
    if short : (filled ++ bytes).length < len then
      .reading { s with phase := .payload len quickack (filled ++ bytes) short }
    else onPayload cfg s (filled ++ bytes) quickack

-- An end of the stream inside a length prefix is a clean close; later it is an error.
def onEof : Except FrameError Unit :=
  match s.phase with
  | .firstByte => .ok ()
  | .lengthBytes _ _ => .ok ()
  | .extended _ _ _ => .error .unexpectedEof
  | .payload _ _ _ _ => .error .unexpectedEof

end

inductive DecodeEnd
  | exhausted (s : ReadState)
  | failed (reason : FrameError)
  deriving DecidableEq, Repr

def restOf (chunk : Bytes) (taken : Nat) (later : List Bytes) : List Bytes :=
  if taken < chunk.length then chunk.drop taken :: later else later

-- Call after call on a stream that arrives in `chunks`; a read takes what it wants of the first one.
def decodeChunks (cfg : ReadConfig) (keystream : Nat → UInt8) :
    Nat → Nat → ReadState → List Bytes → List Frame × DecodeEnd
  | 0, _, s, _ => ([], .exhausted s)
  | _ + 1, _, s, [] => ([], .exhausted s)
  | reads + 1, pos, s, chunk :: later =>
    let taken := min s.phase.wanted chunk.length
    match onBytes cfg s (xorFrom keystream pos (chunk.take taken)) with
    | .reading s => decodeChunks cfg keystream reads (pos + taken) s (restOf chunk taken later)
    | .frame frame s =>
      let next := decodeChunks cfg keystream reads (pos + taken) s (restOf chunk taken later)
      (frame :: next.1, next.2)
    | .failed reason => ([], .failed reason)

section
variable {cfg : ReadConfig}

def decodeBytes (cfg : ReadConfig) : ReadState → Bytes → List Frame × DecodeEnd
  | s, [] => ([], .exhausted s)
  | s, b :: bytes =>
    match onBytes cfg s [b] with
    | .reading s => decodeBytes cfg s bytes
    | .frame frame s =>
      let next := decodeBytes cfg s bytes
      (frame :: next.1, next.2)
    | .failed reason => ([], .failed reason)

def resume (cfg : ReadConfig) (outcome : ReadOutcome) (rest : Bytes) : List Frame × DecodeEnd :=
  match outcome with
  | .reading s => decodeBytes cfg s rest
  | .frame frame s =>
    let next := decodeBytes cfg s rest
    (frame :: next.1, next.2)
  | .failed reason => ([], .failed reason)

theorem decodeBytes_cons (s : ReadState) (b : UInt8) (bytes : Bytes) :
    decodeBytes cfg s (b :: bytes) = resume cfg (onBytes cfg s [b]) bytes := by
  rw [decodeBytes]
  cases onBytes cfg s [b] <;> rfl

theorem onBytes_short {s : ReadState} {bytes : Bytes} (nonempty : bytes ≠ [])
    (short : bytes.length < s.phase.wanted) :
    ∃ next, onBytes cfg s bytes = .reading next ∧
      next.phase.wanted + bytes.length = s.phase.wanted ∧
      ∀ more, onBytes cfg next more = onBytes cfg s (bytes ++ more) := by
  have shorter (filled : Bytes) (target : Nat) (short : bytes.length < target - filled.length) :
      (filled ++ bytes).length < target ∧
        target - (filled ++ bytes).length + bytes.length = target - filled.length := by
    rw [List.length_append]
    omega
  obtain ⟨phase, _, _, _⟩ := s
  cases phase with
  | firstByte => exact absurd (List.eq_nil_of_length_eq_zero (Nat.lt_one_iff.mp short)) nonempty
  | extended quickack filled bound =>
    obtain ⟨still, left⟩ := shorter filled 3 short
    refine ⟨_, dif_pos still, left, fun more => ?_⟩
    simp only [onBytes, List.append_assoc]
    rfl
  | lengthBytes filled bound =>
    obtain ⟨still, left⟩ := shorter filled 4 short
    refine ⟨_, dif_pos still, left, fun more => ?_⟩
    simp only [onBytes, List.append_assoc]
    rfl
  | payload len _ filled =>
    obtain ⟨still, left⟩ := shorter filled len short
    refine ⟨_, dif_pos still, left, fun more => ?_⟩
    simp only [onBytes, List.append_assoc]
    rfl

theorem decodeBytes_read {s : ReadState} {bytes : Bytes} (nonempty : bytes ≠ [])
    (fits : bytes.length ≤ s.phase.wanted) (rest : Bytes) :
    decodeBytes cfg s (bytes ++ rest) = resume cfg (onBytes cfg s bytes) rest := by
  induction bytes generalizing s with
  | nil => exact absurd rfl nonempty
  | cons b bytes ih =>
    rw [List.cons_append, decodeBytes_cons]
    cases bytes with
    | nil => rfl
    | cons c bytes =>
      have short : [b].length < s.phase.wanted :=
        Nat.lt_of_lt_of_le (Nat.succ_lt_succ (Nat.succ_pos bytes.length)) fits
      obtain ⟨next, first, wanted, later⟩ := @onBytes_short cfg s [b] (List.cons_ne_nil _ _) short
      have fits' : (c :: bytes).length ≤ next.phase.wanted := by
        simp only [List.length_cons, List.length_nil] at fits wanted ⊢
        omega
      rw [first, resume, ih (List.cons_ne_nil _ _) fits', later]
      rfl

theorem restOf_flatten (chunk : Bytes) (taken : Nat) (later : List Bytes) :
    (restOf chunk taken later).flatten = chunk.drop taken ++ later.flatten := by
  unfold restOf
  split_ifs with remains
  · rw [List.flatten_cons]
  · rw [List.drop_eq_nil_of_le (Nat.le_of_not_lt remains), List.nil_append]

theorem restOf_nonempty {chunk : Bytes} {taken : Nat} {later : List Bytes}
    (nonempty : ∀ piece ∈ later, piece ≠ []) : ∀ piece ∈ restOf chunk taken later, piece ≠ [] := by
  unfold restOf
  split_ifs with remains
  · intro piece member
    rcases List.mem_cons.mp member with rfl | member
    · exact List.ne_nil_of_length_pos (by rw [List.length_drop]; exact Nat.sub_pos_of_lt remains)
    · exact nonempty piece member
  · exact nonempty

theorem decodeChunks_eq_decodeBytes (keystream : Nat → UInt8) {reads pos : Nat} {s : ReadState}
    {chunks : List Bytes} (nonempty : ∀ chunk ∈ chunks, chunk ≠ [])
    (enough : chunks.flatten.length ≤ reads) :
    decodeChunks cfg keystream reads pos s chunks =
      decodeBytes cfg s (xorFrom keystream pos chunks.flatten) := by
  induction reads generalizing pos s chunks with
  | zero =>
    rw [List.eq_nil_of_length_eq_zero (Nat.le_zero.mp enough)]
    rfl
  | succ reads ih =>
    cases chunks with
    | nil => rfl
    | cons chunk later =>
      have wanted := s.phase.wanted_pos
      have chunkPos : 0 < chunk.length :=
        List.length_pos_of_ne_nil (nonempty chunk List.mem_cons_self)
      generalize takenEq : min s.phase.wanted chunk.length = taken
      have takenPos : 0 < taken := takenEq ▸ Nat.lt_min.mpr ⟨wanted, chunkPos⟩
      have takenLe : taken ≤ chunk.length := takenEq ▸ Nat.min_le_right _ _
      have takenLen : (chunk.take taken).length = taken := List.length_take_of_le takenLe
      have split : xorFrom keystream pos (chunk :: later).flatten =
          xorFrom keystream pos (chunk.take taken) ++
            xorFrom keystream (pos + taken) (restOf chunk taken later).flatten := by
        rw [restOf_flatten, List.flatten_cons]
        nth_rewrite 1 [← List.take_append_drop taken chunk]
        rw [List.append_assoc, xorFrom_append, takenLen]
      have shorter : (restOf chunk taken later).flatten.length ≤ reads := by
        rw [restOf_flatten, List.length_append, List.length_drop]
        rw [List.flatten_cons, List.length_append] at enough
        omega
      have next (s : ReadState) := @ih (pos + taken) s _
        (restOf_nonempty fun piece member => nonempty piece (List.mem_cons_of_mem _ member))
        shorter
      have nonemptyRead : xorFrom keystream pos (chunk.take taken) ≠ [] :=
        List.ne_nil_of_length_pos (by rw [xorFrom_length, takenLen]; exact takenPos)
      have fits : (xorFrom keystream pos (chunk.take taken)).length ≤ s.phase.wanted := by
        rw [xorFrom_length, takenLen, ← takenEq]
        exact Nat.min_le_left _ _
      rw [split, decodeBytes_read nonemptyRead fits, decodeChunks, takenEq]
      cases onBytes cfg s (xorFrom keystream pos (chunk.take taken)) with
      | reading s => exact next s
      | frame _ s => simp only [resume, next]
      | failed => rfl

end

end Telemt.Relay
