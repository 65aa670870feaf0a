import Telemt.MiddleProxy.Codec
import Telemt.MiddleProxy.FrameReader

namespace Telemt.MiddleProxy
open Foundation

/-! # Staying in step with the writer -/

def numbered : UInt32 → List Bytes → List RpcFrame
  | _, [] => []
  | seqNo, payload :: payloads => ⟨seqNo, payload⟩ :: numbered (seqNo + 1) payloads

section
variable {crc : Bytes → UInt32}

theorem parseFrame_noop {expectedSeq : UInt32} {dec later rest : Bytes} (large : 12 ≤ dec.length)
    (front : dec ++ later = 4 :: 0 :: 0 :: 0 :: rest) :
    parseFrame crc expectedSeq dec = .noop (dec.drop 4) ∧ dec.drop 4 ++ later = rest := by
  have word : dec.take 4 = [4, 0, 0, 0] := by
    rw [← List.take_append_of_le_length (by omega : 4 ≤ dec.length), front]
    rfl
  constructor
  · rw [parseFrame, if_neg (Nat.not_lt.mpr large), word]
    rfl
  · rw [← List.drop_append_of_le_length (by omega : 4 ≤ dec.length), front]
    rfl

variable {seqNo : UInt32} {payload : Bytes}

theorem buildRpcFrame_take_four {rest : Bytes} :
    (buildRpcFrame crc seqNo payload ++ rest).take 4 = leBytes 4 (payload.length + 12) := by
  rw [buildRpcFrame, appendCrc, List.append_assoc, List.append_assoc, List.append_assoc,
    show 4 + 4 + payload.length + 4 = payload.length + 12 by omega,
    ← leBytes_length 4 (payload.length + 12)]
  exact List.take_left

variable {later : Bytes}

theorem parseFrame_incomplete {expectedSeq : UInt32} {dec rest : Bytes}
    (fits : payload.length + 12 ≤ 2 ^ 24) (short : dec.length < payload.length + 12)
    (front : dec ++ later = buildRpcFrame crc seqNo payload ++ rest) :
    parseFrame crc expectedSeq dec = .wait := by
  unfold parseFrame
  by_cases small : dec.length < 12
  · exact if_pos small
  · have word : leNat (dec.take 4) = payload.length + 12 := by
      rw [← List.take_append_of_le_length (by omega : 4 ≤ dec.length), front,
        buildRpcFrame_take_four]
      exact leNat_leBytes (by omega)
    rw [if_neg small, word]
    rw [if_neg (by omega), if_neg (by omega), if_pos short]

theorem parseFrame_complete (fits : payload.length + 12 ≤ 2 ^ 24) (rest : Bytes) :
    parseFrame crc seqNo (buildRpcFrame crc seqNo payload ++ rest) = .frame payload rest := by
  have size : (buildRpcFrame crc seqNo payload).length = payload.length + 12 :=
    buildRpcFrame_length seqNo payload
  have word : leNat ((buildRpcFrame crc seqNo payload ++ rest).take 4) = payload.length + 12 := by
    rw [buildRpcFrame_take_four]
    exact leNat_leBytes (by omega)
  have frame : (buildRpcFrame crc seqNo payload ++ rest).take (payload.length + 12) =
      buildRpcFrame crc seqNo payload := by
    rw [← size]
    exact List.take_left
  have remains : (buildRpcFrame crc seqNo payload ++ rest).drop (payload.length + 12) = rest := by
    rw [← size]
    exact List.drop_left
  generalize headEq : leBytes 4 (4 + 4 + payload.length + 4) ++ leBytes 4 seqNo.toNat ++ payload = head
  have headSize : head.length = payload.length + 12 - 4 := by
    rw [← headEq, List.length_append, List.length_append, leBytes_length, leBytes_length]
    omega
  have built : buildRpcFrame crc seqNo payload = head ++ leBytes 4 (crc head).toNat := by
    rw [← headEq]
    rfl
  have body : (buildRpcFrame crc seqNo payload).take (payload.length + 12 - 4) = head := by
    rw [built, ← headSize]
    exact List.take_left
  have tail : (buildRpcFrame crc seqNo payload).drop (payload.length + 12 - 4) =
      leBytes 4 (crc head).toNat := by
    rw [built, ← headSize]
    exact List.drop_left
  have number : ((buildRpcFrame crc seqNo payload).drop 4).take 4 = leBytes 4 seqNo.toNat := rfl
  have checksum : UInt32.ofNat (leNat (leBytes 4 (crc head).toNat)) = crc head := by
    rw [leNat_leBytes (crc head).toNat_lt, UInt32.ofNat_toNat]
  have sequence : UInt32.ofNat (leNat (leBytes 4 seqNo.toNat)) = seqNo := by
    rw [leNat_leBytes seqNo.toNat_lt, UInt32.ofNat_toNat]
  have contents : head.drop 8 = payload := by
    rw [← headEq]
    rfl
  unfold parseFrame
  rw [if_neg (by rw [List.length_append]; omega), word]
  dsimp only
  rw [if_neg (by omega), if_neg (by omega), if_neg (by rw [List.length_append]; omega), frame,
    body, tail, number, checksum, sequence, if_neg (not_not.mpr rfl), if_neg (not_not.mpr rfl),
    contents, remains]

def padOf (payload : Bytes) : Nat := (16 - (payload.length + 12) % 16) % 16

theorem plainStream_cons (seqNo : UInt32) (payload : Bytes) (payloads : List Bytes) :
    plainStream crc seqNo (payload :: payloads) =
      buildRpcFrame crc seqNo payload ++
        (padBytes (padOf payload) ++ plainStream crc (seqNo + 1) payloads) := by
  rw [plainStream, padFrame, buildRpcFrame_length, List.append_assoc, padOf]

structure Ahead (crc : Bytes → UInt32) (seqNo : UInt32) (payloads : List Bytes) (pad : Nat)
    (bytes : Bytes) : Prop where
  bytes : bytes = padBytes pad ++ plainStream crc seqNo payloads
  whole : payloads ≠ [] → pad % 4 = 0
  fits : ∀ payload ∈ payloads, payload.length + 12 ≤ 2 ^ 24
  aligned : ∀ payload ∈ payloads.dropLast, payload.length % 4 = 0

variable {payloads : List Bytes}

theorem Ahead.next {bytes : Bytes} (ahead : Ahead crc seqNo (payload :: payloads) 0 bytes) :
    Ahead crc (seqNo + 1) payloads (padOf payload)
      (padBytes (padOf payload) ++ plainStream crc (seqNo + 1) payloads) := by
  refine ⟨rfl, ?_, ?_, ?_⟩
  · intro more
    have aligned := ahead.aligned payload (by
      rw [List.dropLast_cons_of_ne_nil more]
      exact List.mem_cons_self)
    unfold padOf
    omega
  · intro later member
    exact ahead.fits later (List.mem_cons_of_mem _ member)
  · intro later member
    refine ahead.aligned later ?_
    rw [List.dropLast_cons_of_ne_nil (List.ne_nil_of_mem (List.dropLast_subset _ member))]
    exact List.mem_cons_of_mem _ member

theorem Ahead.large {pad : Nat} {bytes : Bytes}
    (ahead : Ahead crc seqNo (payload :: payloads) pad bytes) :
    pad + payload.length + 12 ≤ bytes.length := by
  rw [ahead.bytes, plainStream_cons, List.length_append, List.length_append, padBytes_length,
    buildRpcFrame_length]
  omega

theorem append_split {first second left right : Bytes} (same : first ++ second = left ++ right)
    (longer : left.length ≤ first.length) : ∃ more, first = left ++ more ∧ more ++ second = right := by
  have taken : first.take left.length = left := by
    rw [← List.take_append_of_le_length longer, same]
    exact List.take_left
  refine ⟨first.drop left.length, ?_, ?_⟩
  · nth_rewrite 1 [← taken]
    exact (List.take_append_drop left.length first).symm
  · rw [← List.drop_append_of_le_length longer, same]
    exact List.drop_left

theorem drainAll_ahead {pad : Nat} {dec : Bytes}
    (ahead : Ahead crc seqNo payloads pad (dec ++ later)) :
    ∃ emitted seqNo' dec' rest pad',
      drainAll crc seqNo dec = (emitted, .waiting seqNo' dec') ∧
      numbered seqNo payloads = emitted ++ numbered seqNo' rest ∧
      Ahead crc seqNo' rest pad' (dec' ++ later) ∧ (later = [] → rest = []) := by
  induction size : dec.length using Nat.strong_induction_on generalizing seqNo payloads pad dec with
  | _ size ih =>
    subst size
    by_cases stop : parseFrame crc seqNo dec = .wait ∧ (later = [] → payloads = [])
    · refine ⟨[], seqNo, dec, payloads, pad, ?_, rfl, ahead, stop.2⟩
      rw [drainAll_eq, stop.1]
    by_cases large : 12 ≤ dec.length
    · by_cases padded : 4 ≤ pad
      · obtain ⟨less, rfl⟩ : ∃ less, pad = less + 4 := ⟨pad - 4, by omega⟩
        obtain ⟨parsed, rest⟩ := @parseFrame_noop crc seqNo dec later
          (padBytes less ++ plainStream crc seqNo payloads) large
          (by rw [ahead.bytes, padBytes_add_four]; rfl)
        have ahead' : Ahead crc seqNo payloads less (dec.drop 4 ++ later) :=
          ⟨rest, fun more => by have := ahead.whole more; omega, ahead.fits, ahead.aligned⟩
        obtain ⟨emitted, seqNo', dec', rest, pad', drained, conclusion⟩ :=
          ih _ (by rw [List.length_drop]; omega) ahead' rfl
        refine ⟨emitted, seqNo', dec', rest, pad', ?_, conclusion⟩
        rw [drainAll_eq, parsed]
        exact drained
      · cases payloads with
        | nil =>
          have short := congrArg List.length ahead.bytes
          rw [List.length_append, plainStream, List.append_nil, padBytes_length] at short
          omega
        | cons payload payloads =>
          have unpadded : pad = 0 := by
            have := ahead.whole (List.cons_ne_nil _ _)
            omega
          subst unpadded
          have fits := ahead.fits payload List.mem_cons_self
          have front : dec ++ later = buildRpcFrame crc seqNo payload ++
              (padBytes (padOf payload) ++ plainStream crc (seqNo + 1) payloads) := by
            rw [ahead.bytes, ← plainStream_cons]
            rfl
          by_cases short : dec.length < payload.length + 12
          · refine absurd ⟨parseFrame_incomplete fits short front, ?_⟩ stop
            rintro rfl
            have := ahead.large
            rw [List.append_nil] at this
            omega
          · obtain ⟨dec, rfl, rest⟩ := append_split front
              (by rw [buildRpcFrame_length]; exact Nat.le_of_not_lt short)
            obtain ⟨emitted, seqNo', dec', pending, pad', drained, emits, conclusion⟩ :=
              ih dec.length (by rw [List.length_append, buildRpcFrame_length]; omega)
                (rest ▸ ahead.next) rfl
            refine ⟨⟨seqNo, payload⟩ :: emitted, seqNo', dec', pending, pad', ?_, ?_, conclusion⟩
            · rw [drainAll_eq, parseFrame_complete fits]
              dsimp only
              rw [drained]
            · rw [numbered, emits, List.cons_append]
    · refine absurd ⟨if_pos (Nat.lt_of_not_le large), ?_⟩ stop
      rintro rfl
      cases payloads with
      | nil => rfl
      | cons =>
        have := ahead.large
        rw [List.append_nil] at this
        omega

structure InStep (crc : Bytes → UInt32) (frames : List RpcFrame) (st : FrameReader) (later : Bytes) :
    Prop where
  running : st.failure = none
  valid : st.invalidLens = 0
  pending : ∃ rest pad, frames = st.emitted ++ numbered st.expectedSeq rest ∧
    Ahead crc st.expectedSeq rest pad (st.dec ++ later) ∧ (later = [] → rest = [])

variable {frames : List RpcFrame} {st : FrameReader}

theorem InStep.feed {piece : Bytes} (inStep : InStep crc frames st (piece ++ later)) :
    InStep crc frames (st.feed crc piece) later := by
  obtain ⟨running, valid, _, _, emits, ahead, _⟩ := inStep
  rw [← List.append_assoc] at ahead
  obtain ⟨emitted, seqNo, dec, rest', pad', drained, more, ahead', finished⟩ := drainAll_ahead ahead
  have fed : st.feed crc piece =
      { st with emitted := st.emitted ++ emitted, expectedSeq := seqNo, dec } := by
    rw [FrameReader.feed, running]
    rw [drained]
  rw [fed]
  refine ⟨running, valid, rest', pad', ?_, ahead', finished⟩
  rw [emits, more, List.append_assoc]

theorem InStep.feeds {pieces : List Bytes} (inStep : InStep crc frames st pieces.flatten) :
    InStep crc frames (pieces.foldl (FrameReader.feed crc) st) [] := by
  induction pieces generalizing st with
  | nil => exact inStep
  | cons _ _ ih => exact ih inStep.feed

theorem InStep.start
    (fits : ∀ payload ∈ payloads, payload.length + 12 ≤ 2 ^ 24)
    (aligned : ∀ payload ∈ payloads.dropLast, payload.length % 4 = 0) :
    InStep crc (numbered seqNo payloads) (.new seqNo) (plainStream crc seqNo payloads) := by
  have ahead : Ahead crc seqNo payloads 0 (plainStream crc seqNo payloads) :=
    ⟨rfl, fun _ => rfl, fits, aligned⟩
  refine ⟨rfl, rfl, payloads, 0, rfl, ahead, ?_⟩
  intro empty
  cases payloads with
  | nil => rfl
  | cons =>
    have large := ahead.large
    rw [empty, List.length_nil] at large
    omega

theorem InStep.finish (inStep : InStep crc frames st []) : st.emitted = frames := by
  obtain ⟨_, _, emits, _, finished⟩ := inStep.pending
  rw [emits, finished rfl]
  exact (List.append_nil _).symm

end

end Telemt.MiddleProxy
