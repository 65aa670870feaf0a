import Telemt.MiddleProxy.Alignment
import Telemt.Relay.ClientRead

namespace Telemt.MiddleProxy
open Foundation

/-! # Falling out of step -/

section
variable {crc : Bytes → UInt32}

variable {dec : Bytes}

theorem drainAll_noop {expectedSeq : UInt32} (large : 12 ≤ dec.length)
    (word : leNat (dec.take 4) = 4) :
    drainAll crc expectedSeq dec = drainAll crc expectedSeq (dec.drop 4) := by
  rw [drainAll_eq, parseFrame, if_neg (Nat.not_lt.mpr large), word]
  rfl

theorem drainAll_skip (expectedSeq : UInt32) (pad words : Nat) (large : 12 ≤ dec.length) :
    drainAll crc expectedSeq (padBytes (pad + 4 * words) ++ dec) =
      drainAll crc expectedSeq (padBytes pad ++ dec) := by
  induction words with
  | zero => rfl
  | succ _ ih =>
    rw [Nat.mul_succ, ← Nat.add_assoc, padBytes_add_four, drainAll_noop _ rfl]
    · exact ih
    · simp only [List.cons_append, List.length_cons, List.length_append]
      omega

theorem head_ne {expectedSeq seqNo : UInt32} {payload : Bytes} (noop : leNat (dec.take 4) ≠ 4)
    (other : payload.length + 12 = leNat (dec.take 4) → payload ≠ (dec.take (leNat (dec.take 4) -
      4)).drop 8) :
    (drainAll crc expectedSeq dec).1.head? ≠ some ⟨seqNo, payload⟩ := by
  rw [drainAll_eq]
  cases parsed : parseFrame crc expectedSeq dec with
  | wait | invalid frameLen | failed reason => exact nofun
  | noop rest => exact absurd (parseFrame_noop_shape parsed).2 noop
  | frame =>
    obtain ⟨_, content, length⟩ := parseFrame_frame_shape parsed
    intro same
    cases same
    exact other length content

section
variable {a b c d : UInt8} {rest : Bytes}

theorem drainAll_word {expectedSeq : UInt32} (large : 8 ≤ rest.length)
    (noop : a.toNat + 256 * (b.toNat + 256 * (c.toNat + 256 * d.toNat)) = 4) :
    drainAll crc expectedSeq (a :: b :: c :: d :: rest) = drainAll crc expectedSeq rest :=
  drainAll_noop (Nat.add_le_add_right large 4) noop

theorem head_ne_word {expectedSeq seqNo : UInt32} {payload : Bytes}
    (noop : a.toNat + 256 * (b.toNat + 256 * (c.toNat + 256 * d.toNat)) ≠ 4)
    (length : payload.length + 12 ≠
      a.toNat + 256 * (b.toNat + 256 * (c.toNat + 256 * d.toNat))) :
    (drainAll crc expectedSeq (a :: b :: c :: d :: rest)).1.head? ≠ some ⟨seqNo, payload⟩ :=
  head_ne noop fun same => absurd same length

end

section
variable {expectedSeq seqNo : UInt32} {b0 b1 b2 b3 s0 s1 s2 s3 : UInt8} {payload more : Bytes}
  (length : payload.length + 12 =
    b0.toNat + 256 * (b1.toNat + 256 * (b2.toNat + 256 * b3.toNat)))
  (fits : payload.length + 12 ≤ 2 ^ 24)
include length fits

theorem head_ne_one_late :
    (drainAll crc expectedSeq
      (4 :: b0 :: b1 :: b2 :: b3 :: s0 :: s1 :: s2 :: s3 :: 0xee :: 0xf1 :: 0xce :: more)).1.head? ≠
        some ⟨seqNo, payload⟩ := by
  have four : (4 : UInt8).toNat = 4 := rfl
  by_cases largest : b0.toNat + 256 * (b1.toNat + 256 * b2.toNat) = 0
  · -- Only a frame of 2^24 bytes makes another no-op word; the word behind it is odd.
    rw [drainAll_word (Nat.le_add_left 8 _) (by omega)]
    exact head_ne_word (by omega) (by omega)
  · exact head_ne_word (by omega) (by omega)

theorem head_ne_two_late (enough : 3 ≤ more.length) (starts : payload.getD 2 0 = 0xce) :
    (drainAll crc expectedSeq
      (4 :: 0 :: b0 :: b1 :: b2 :: b3 :: s0 :: s1 :: s2 :: s3 :: 0xee :: 0xf1 :: 0xce ::
        more)).1.head? ≠ some ⟨seqNo, payload⟩ := by
  have values : (4 : UInt8).toNat = 4 ∧ (0 : UInt8).toNat = 0 ∧ (0xee : UInt8).toNat = 0xee ∧
    (0xf1 : UInt8).toNat = 0xf1 := ⟨rfl, rfl, rfl, rfl⟩
  by_cases multiple : b0.toNat + 256 * b1.toNat = 0
  · rw [drainAll_word (Nat.le_add_left 8 _) (by omega)]
    by_cases noop : b2.toNat + 256 * (b3.toNat + 256 * (s0.toNat + 256 * s1.toNat)) = 4
    · rw [drainAll_word (by simp only [List.length_cons]; omega) noop]
      exact head_ne_word (by omega) (by omega)
    · exact head_ne_word noop (by omega)
  · -- The word can be the length (both are 0x40004); then the payload starts two bytes early.
    apply head_ne
    · show (4 : UInt8).toNat + 256 * ((0 : UInt8).toNat + 256 * (b0.toNat + 256 * b1.toNat)) ≠ 4
      omega
    · intro _ content
      obtain ⟨later, cut⟩ : ∃ later, leNat [4, 0, b0, b1] - 4 = later + 11 := by
        refine ⟨leNat [4, 0, b0, b1] - 15, ?_⟩
        simp only [leNat]
        omega
      change payload = (List.take (leNat [4, 0, b0, b1] - 4) _).drop 8 at content
      rw [content, cut] at starts
      exact absurd (show (0xee : UInt8) = 0xce from starts) (by decide)

theorem head_ne_three_late (enough : 3 ≤ more.length) :
    (drainAll crc expectedSeq
      (4 :: 0 :: 0 :: b0 :: b1 :: b2 :: b3 :: s0 :: s1 :: s2 :: s3 :: 0xee :: 0xf1 :: 0xce ::
        more)).1.head? ≠ some ⟨seqNo, payload⟩ := by
  have values : (4 : UInt8).toNat = 4 ∧ (0 : UInt8).toNat = 0 ∧ (0xee : UInt8).toNat = 0xee :=
    ⟨rfl, rfl, rfl⟩
  by_cases multiple : b0.toNat = 0
  · rw [drainAll_word (Nat.le_add_left 8 _) (by omega)]
    by_cases noop : b1.toNat + 256 * (b2.toNat + 256 * (b3.toNat + 256 * s0.toNat)) = 4
    · rw [drainAll_word (by simp only [List.length_cons]; omega) noop]
      exact head_ne_word (by omega) (by omega)
    · exact head_ne_word noop (by omega)
  · exact head_ne_word (by omega) (by omega)

end

theorem head_ne_late (seqNo : UInt32) {pad : Nat} {payload tail : Bytes} (rest : Bytes)
    (late : pad % 4 ≠ 0) (starts : payload = 0xee :: 0xf1 :: 0xce :: tail)
    (enough : 3 ≤ tail.length) (fits : payload.length + 12 ≤ 2 ^ 24) :
    (drainAll crc seqNo (padBytes pad ++ (buildRpcFrame crc seqNo payload ++ rest))).1.head? ≠
      some ⟨seqNo, payload⟩ := by
  obtain ⟨b0, b1, b2, b3, lengthBytes⟩ :
      ∃ b0 b1 b2 b3, leBytes 4 (payload.length + 12) = [b0, b1, b2, b3] := ⟨_, _, _, _, rfl⟩
  obtain ⟨s0, s1, s2, s3, seqBytes⟩ :
      ∃ s0 s1 s2 s3, leBytes 4 seqNo.toNat = [s0, s1, s2, s3] := ⟨_, _, _, _, rfl⟩
  have length : payload.length + 12 = leNat [b0, b1, b2, b3] := by
    rw [← lengthBytes, leNat_leBytes (by omega)]
  obtain ⟨more, long, frame⟩ : ∃ more : Bytes, 3 ≤ more.length ∧
      buildRpcFrame crc seqNo payload ++ rest =
        b0 :: b1 :: b2 :: b3 :: s0 :: s1 :: s2 :: s3 :: 0xee :: 0xf1 :: 0xce :: more := by
    refine ⟨tail ++ leBytes 4 (crc ([b0, b1, b2, b3] ++ [s0, s1, s2, s3] ++ payload)).toNat ++ rest,
      ?_, ?_⟩
    · simp only [List.length_append]
      omega
    · rw [buildRpcFrame, show 4 + 4 + payload.length + 4 = payload.length + 12 by omega,
        lengthBytes, seqBytes]
      subst starts
      rfl
  have large : 12 ≤ (buildRpcFrame crc seqNo payload ++ rest).length := by
    rw [List.length_append, buildRpcFrame_length]
    omega
  rw [← Nat.mod_add_div pad 4, drainAll_skip seqNo (pad % 4) (pad / 4) large, frame]
  have cases : pad % 4 = 1 ∨ pad % 4 = 2 ∨ pad % 4 = 3 := by omega
  rcases cases with one | two | three
  · rw [one]
    exact head_ne_one_late length fits
  · rw [two]
    exact head_ne_two_late length fits long (by rw [starts]; rfl)
  · rw [three]
    exact head_ne_three_late length fits long

theorem aligned_of_drainAll {seqNo : UInt32} {pad : Nat} {payloads : List Bytes}
    (whole : pad % 4 = 0) (fits : ∀ payload ∈ payloads, payload.length + 12 ≤ 2 ^ 24)
    (starts : ∀ payload ∈ payloads, ∃ tail : Bytes,
      payload = 0xee :: 0xf1 :: 0xce :: tail ∧ 3 ≤ tail.length)
    (drained : (drainAll crc seqNo (padBytes pad ++ plainStream crc seqNo payloads)).1 =
      numbered seqNo payloads) :
    ∀ payload ∈ payloads.dropLast, payload.length % 4 = 0 := by
  induction payloads generalizing seqNo pad with
  | nil => exact nofun
  | cons payload payloads ih =>
    cases payloads with
    | nil => exact nofun
    | cons next payloads =>
      have large (rest : Bytes) : 12 ≤ (buildRpcFrame crc seqNo payload ++ rest).length := by
        rw [List.length_append, buildRpcFrame_length]
        omega
      rw [← Nat.mod_add_div pad 4, whole, plainStream_cons,
        drainAll_skip seqNo 0 (pad / 4) (large _)] at drained
      change (drainAll crc seqNo (buildRpcFrame crc seqNo payload ++ _)).1 = _ at drained
      rw [drainAll_eq, parseFrame_complete (fits payload List.mem_cons_self), numbered] at drained
      have later := (List.cons.inj drained).2
      have fits' : ∀ payload ∈ next :: payloads, payload.length + 12 ≤ 2 ^ 24 :=
        fun payload member => fits payload (List.mem_cons_of_mem _ member)
      obtain ⟨tail, head, enough⟩ := starts next (List.mem_cons_of_mem _ List.mem_cons_self)
      by_cases aligned : padOf payload % 4 = 0
      · have rest := ih aligned fits'
          (fun payload member => starts payload (List.mem_cons_of_mem _ member)) later
        intro found member
        rcases List.mem_cons.mp member with rfl | member
        · unfold padOf at aligned
          omega
        · exact rest found member
      · rw [plainStream_cons] at later
        have wrong := @head_ne_late crc (seqNo + 1) (padOf payload) next tail
          (padBytes (padOf next) ++ plainStream crc (seqNo + 1 + 1) payloads)
          aligned head enough (fits' next List.mem_cons_self)
        rw [later] at wrong
        exact absurd rfl wrong

end

end Telemt.MiddleProxy
