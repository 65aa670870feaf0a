import Telemt.Relay.ClientRead

namespace Telemt.Relay
open Foundation

/-! # What the reader accepts -/

structure AcceptedLen (cfg : ReadConfig) (len : Nat) : Prop where
  large : 4 ≤ len
  within : len ≤ cfg.maxFrame
  aligned : cfg.tag = .abridged → len % 4 = 0

structure AcceptedPayload (cfg : ReadConfig) (payload : Bytes) : Prop where
  large : 4 ≤ payload.length
  within : payload.length ≤ cfg.maxFrame
  aligned : cfg.tag ≠ .intermediate → payload.length % 4 = 0

-- A call that has begun to read a payload has checked its length, and the abridged transport has read
-- its length in words.
def ReadPhase.Checked (cfg : ReadConfig) : ReadPhase → Prop
  | .payload len _ _ _ => AcceptedLen cfg len
  | .lengthBytes _ _ => cfg.tag ≠ .abridged
  | .firstByte => cfg.tag = .abridged
  | .extended _ _ _ => cfg.tag = .abridged

def ReadOutcome.Checked (cfg : ReadConfig) : ReadOutcome → Prop
  | .reading s => s.phase.Checked cfg
  | .frame done s => AcceptedPayload cfg done.payload ∧ s.phase.Checked cfg
  | .failed _ => True

section
variable {cfg : ReadConfig}

theorem startPhase_checked : (startPhase cfg.tag).Checked cfg := by
  cases tag : cfg.tag with
  | abridged => exact tag
  | intermediate | secure => exact fun abridged => nomatch tag.symm.trans abridged

variable (s : ReadState)

theorem onZeroLength_checked : (onZeroLength cfg s).Checked cfg := by
  unfold onZeroLength
  dsimp only
  split_ifs
  · trivial
  · exact startPhase_checked
  · trivial
  · exact startPhase_checked

theorem onHeader_checked {len : Nat} (quickack : Bool)
    (words : cfg.tag = .abridged → len % 4 = 0) : (onHeader cfg s len quickack).Checked cfg := by
  unfold onHeader
  split_ifs with empty small large invalid
  · exact onZeroLength_checked s
  · trivial
  · trivial
  · trivial
  · refine ⟨?_, Nat.le_of_not_lt large, words⟩
    by_cases abridged : cfg.tag = .abridged
    · have := words abridged
      omega
    · exact Nat.le_of_not_lt fun few => small ⟨few, abridged⟩

theorem onPayload_checked {wire : Bytes} (quickack : Bool)
    (accepted : AcceptedLen cfg wire.length) : (onPayload cfg s wire quickack).Checked cfg := by
  obtain ⟨large, within, words⟩ := accepted
  refine ⟨?_, startPhase_checked⟩
  by_cases secure : cfg.tag = .secure
  · rw [if_pos secure, securePayloadLenFromWireLen, if_neg (Nat.not_lt.mpr large), Option.getD_some]
    have size : (wire.take (wire.length - wire.length % 4)).length =
        wire.length - wire.length % 4 := List.length_take_of_le (Nat.sub_le _ _)
    refine ⟨?_, ?_, fun _ => ?_⟩
    all_goals
      rw [size]
      omega
  · rw [if_neg secure]
    refine ⟨large, within, fun notIntermediate => ?_⟩
    cases tag : cfg.tag with
    | abridged => exact words tag
    | intermediate => exact absurd tag notIntermediate
    | secure => exact absurd tag secure

theorem onFirstByte_checked (first : UInt8) (abridged : cfg.tag = .abridged) :
    (onFirstByte cfg s first).Checked cfg := by
  unfold onFirstByte
  split_ifs
  · exact abridged
  · exact onHeader_checked s _ fun _ => Nat.mul_mod_left _ 4

theorem onBytes_checked {s : ReadState} {bytes : Bytes} (checked : s.phase.Checked cfg)
    (fits : bytes.length ≤ s.phase.wanted) : (onBytes cfg s bytes).Checked cfg := by
  obtain ⟨phase, _, _, _⟩ := s
  cases phase with
  | firstByte =>
    cases bytes with
    | nil => exact checked
    | cons first bytes => exact onFirstByte_checked _ first checked
  | extended quickack filled short =>
    unfold onBytes
    dsimp only
    split_ifs
    · exact checked
    · exact onHeader_checked _ _ fun _ => Nat.mul_mod_left _ 4
  | lengthBytes filled short =>
    unfold onBytes
    dsimp only
    split_ifs
    · exact checked
    · exact onHeader_checked _ _ fun abridged => absurd abridged checked
  | payload len _ filled =>
    unfold onBytes
    dsimp only
    split_ifs with missing
    · exact checked
    · have filledUp : (filled ++ bytes).length = len := by
        rw [List.length_append] at missing ⊢
        dsimp only [ReadPhase.wanted] at fits
        omega
      exact onPayload_checked _ _ (filledUp ▸ checked)

theorem decodeBytes_accepted {s : ReadState} {bytes : Bytes} (checked : s.phase.Checked cfg) :
    ∀ frame ∈ (decodeBytes cfg s bytes).1, AcceptedPayload cfg frame.payload := by
  induction bytes generalizing s with
  | nil => exact nofun
  | cons b _ ih =>
    have outcome := @onBytes_checked cfg s [b] checked s.phase.wanted_pos
    rw [decodeBytes_cons]
    cases read : onBytes cfg s [b] with
    | reading next =>
      rw [read] at outcome
      exact ih outcome
    | frame =>
      rw [read] at outcome
      intro found member
      rcases List.mem_cons.mp member with rfl | member
      · exact outcome.1
      · exact ih outcome.2 found member
    | failed => exact nofun

end

end Telemt.Relay
