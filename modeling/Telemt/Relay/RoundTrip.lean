import Telemt.Relay.ClientWrite

namespace Telemt.Relay
open Foundation

/-! # Client frames survive the trip -/

def wireLen (tag : ProtoTag) (out : Outgoing) : Nat :=
  out.frame.payload.length + if tag = .secure then out.padding.bytes.length else 0

structure Sendable (cfg : ReadConfig) (out : Outgoing) : Prop where
  large : 4 ≤ out.frame.payload.length
  aligned : cfg.tag ≠ .intermediate → out.frame.payload.length % 4 = 0
  within : wireLen cfg.tag out ≤ cfg.maxFrame

def afterFrames (tag : ProtoTag) (s : ReadState) (n : Nat) : ReadState :=
  newCall tag { s with
    tinyFrameDebt := s.tinyFrameDebt - n
    frameCounter := s.frameCounter + n }

section
variable {cfg : ReadConfig}

theorem decodeBytes_lengthWord {s : ReadState} {len : Nat} (quickack : Bool) (rest : Bytes)
    (fresh : s.phase = .lengthBytes [] (by decide)) (small : len < 2 ^ 31) :
    decodeBytes cfg s (lengthWord quickack len ++ rest) =
      resume cfg (onHeader cfg s len quickack) rest := by
  have word : leNat (lengthWord quickack len) = if quickack then len + 0x80000000 else len := by
    apply leNat_leBytes
    split_ifs <;> omega
  have length : (lengthWord quickack len).length = 4 := leBytes_length 4 _
  have masked : leNat (lengthWord quickack len) % 2 ^ 31 = len := by
    rw [word]
    split_ifs <;> omega
  have top : decide (128 ≤ ((lengthWord quickack len).getD 3 0).toNat) = quickack := by
    cases quickack with
    | false =>
      show decide (128 ≤ (UInt8.ofNat (len / 256 / 256 / 256)).toNat) = false
      rw [UInt8.toNat_ofNat', decide_eq_false_iff_not]
      omega
    | true =>
      show decide (128 ≤ (UInt8.ofNat ((len + 0x80000000) / 256 / 256 / 256)).toNat) = true
      rw [UInt8.toNat_ofNat', decide_eq_true_iff]
      omega
  have wanted : s.phase.wanted = 4 := by
    rw [fresh]
    rfl
  rw [decodeBytes_read (List.ne_nil_of_length_pos (by omega)) (by omega)]
  apply congrArg (resume cfg · rest)
  unfold onBytes
  rw [fresh]
  simp only [List.nil_append, length, Nat.lt_irrefl, dite_false, masked, top]

section
variable (s : ReadState) (quickack : Bool) (rest : Bytes)

theorem onFirstByte_abridgedFirst {first : Nat} (small : first < 128) :
    onFirstByte cfg s (abridgedFirst first quickack) =
      if first = 127 then .reading { s with phase := .extended quickack [] (by decide) }
      else onHeader cfg s (first * 4) quickack := by
  have value : (abridgedFirst first quickack).toNat = if quickack then first + 128 else first := by
    rw [abridgedFirst, UInt8.toNat_ofNat']
    split_ifs <;> omega
  have low : (abridgedFirst first quickack).toNat % 128 = first := by
    rw [value]
    split_ifs <;> omega
  have high : decide (128 ≤ (abridgedFirst first quickack).toNat) = quickack := by
    rw [value]
    cases quickack with
    | false => exact decide_eq_false (Nat.not_le.mpr small)
    | true => exact decide_eq_true (Nat.le_add_left 128 first)
  simp only [onFirstByte, low, high]

theorem decodeBytes_abridgedHeader {s : ReadState} {len : Nat} (fresh : s.phase = .firstByte)
    (aligned : len % 4 = 0) (small : len < 2 ^ 26) :
    decodeBytes cfg s (abridgedHeader quickack len ++ rest) =
      resume cfg (onHeader cfg s len quickack) rest := by
  have whole : len / 4 * 4 = len := by omega
  unfold abridgedHeader
  split_ifs with short
  · rw [List.singleton_append, decodeBytes_cons, onBytes, fresh]
    rw [onFirstByte_abridgedFirst s quickack (by omega), if_neg (by omega), whole]
  · have words : leNat (leBytes 3 (len / 4)) = len / 4 := leNat_leBytes (by omega)
    rw [List.cons_append, decodeBytes_cons, onBytes, fresh]
    dsimp only
    rw [onFirstByte_abridgedFirst s quickack (by decide), if_pos rfl, resume,
      @decodeBytes_read _ _ (leBytes 3 (len / 4)) (List.cons_ne_nil _ _)
        (Nat.le_of_eq (leBytes_length 3 _))]
    apply congrArg (resume cfg · rest)
    simp only [onBytes, List.nil_append, leBytes_length, Nat.lt_irrefl, dite_false, words, whole]
    rfl

theorem decodeBytes_payload {wire : Bytes} (large : 4 ≤ wire.length)
    (within : wire.length ≤ cfg.maxFrame) :
    resume cfg (onHeader cfg s wire.length quickack) (wire ++ rest) =
      resume cfg (onPayload cfg s wire quickack) rest := by
  have known : (securePayloadLenFromWireLen wire.length).isNone = false := by
    rw [securePayloadLenFromWireLen, if_neg (Nat.not_lt.mpr large)]
    rfl
  unfold onHeader
  rw [dif_neg (by omega), if_neg (fun bad => Nat.not_lt.mpr large bad.1),
    if_neg (Nat.not_lt.mpr within), if_neg (by rw [known]; exact fun bad => Bool.noConfusion bad.2),
    resume, decodeBytes_read (List.ne_nil_of_length_pos (by omega)) (Nat.le_refl _)]
  apply congrArg (resume cfg · rest)
  simp only [onBytes, List.nil_append, Nat.lt_irrefl, dite_false]
  rfl

theorem take_securePayloadLen (payload : Bytes) (padding : SecurePadding)
    (large : 4 ≤ payload.length) (aligned : payload.length % 4 = 0) :
    (payload ++ padding.bytes).take ((securePayloadLenFromWireLen
      (payload ++ padding.bytes).length).getD (payload ++ padding.bytes).length) = payload := by
  have few := padding.few
  rw [List.length_append, securePayloadLenFromWireLen, if_neg (by omega), Option.getD_some,
    show payload.length + padding.bytes.length -
      (payload.length + padding.bytes.length) % 4 = payload.length by omega]
  exact List.take_left

theorem decodeBytes_frame {out : Outgoing} (bounded : cfg.maxFrame < 2 ^ 26)
    (sendable : Sendable cfg out) :
    ∃ sent,
      writeClientPayload cfg.tag out.frame.quickack out.frame.payload out.padding = .ok sent ∧
      ∀ rest, decodeBytes cfg (newCall cfg.tag s) (sent.2.flatten ++ rest) =
        resume cfg (.frame out.frame (afterFrames cfg.tag s 1)) rest := by
  obtain ⟨large, aligned, within⟩ := sendable
  obtain ⟨tag, maxFrame, _⟩ := cfg
  obtain ⟨⟨payload, quickack⟩, padding⟩ := out
  cases tag with
  | abridged =>
    have aligned : payload.length % 4 = 0 := aligned nofun
    have small : payload.length < 2 ^ 26 := Nat.lt_of_le_of_lt within bounded
    obtain ⟨sent, written, bytes⟩ := writeAbridged_bytes quickack aligned small
    refine ⟨sent, written, fun rest => ?_⟩
    rw [bytes, List.append_assoc, decodeBytes_abridgedHeader quickack _ rfl aligned small,
      decodeBytes_payload _ quickack rest large within]
    rfl
  | intermediate =>
    have small : payload.length < 2 ^ 31 :=
      Nat.lt_of_le_of_lt within (Nat.lt_trans bounded (by decide))
    obtain ⟨sent, written, bytes⟩ := @writeIntermediate_bytes quickack payload [] small
    refine ⟨sent, written, fun rest => ?_⟩
    rw [List.append_nil] at bytes
    rw [bytes, List.append_assoc, decodeBytes_lengthWord quickack _ rfl small,
      decodeBytes_payload _ quickack rest large within]
    rfl
  | secure =>
    have aligned : payload.length % 4 = 0 := aligned nofun
    have within : (payload ++ padding.bytes).length ≤ maxFrame := by
      rw [List.length_append]
      exact within
    have small : (payload ++ padding.bytes).length < 2 ^ 31 := by
      dsimp only at bounded
      omega
    have large' : 4 ≤ (payload ++ padding.bytes).length := by
      rw [List.length_append]
      exact Nat.le_add_right_of_le large
    obtain ⟨sent, written, bytes⟩ := writeIntermediate_bytes quickack
      (List.length_append ▸ small)
    refine ⟨sent, ?_, fun rest => ?_⟩
    · rw [writeClientPayload, if_pos (by rw [isValidSecurePayloadLen, aligned]; rfl)]
      exact written
    · rw [bytes, List.append_assoc, decodeBytes_lengthWord quickack _ rfl small,
        decodeBytes_payload _ quickack rest large' within, onPayload, if_pos rfl,
        take_securePayloadLen payload padding large aligned]
      rfl

theorem decodeBytes_writeAll {outs : List Outgoing} (bounded : cfg.maxFrame < 2 ^ 26)
    (sendable : ∀ out ∈ outs, Sendable cfg out) :
    ∃ writes, writeAll cfg.tag outs = .ok writes ∧
      decodeBytes cfg (newCall cfg.tag s) writes.flatten =
        (outs.map (·.frame), .exhausted (afterFrames cfg.tag s outs.length)) := by
  induction outs generalizing s with
  | nil => exact ⟨[], rfl, rfl⟩
  | cons out later ih =>
    obtain ⟨sent, written, decoded⟩ := decodeBytes_frame s bounded
      (sendable out List.mem_cons_self)
    obtain ⟨writes, restWritten, restDecoded⟩ := ih (afterFrames cfg.tag s 1)
      fun out member => sendable out (List.mem_cons_of_mem _ member)
    have counted : afterFrames cfg.tag (afterFrames cfg.tag s 1) later.length =
        afterFrames cfg.tag s (later.length + 1) := by
      simp only [afterFrames, newCall, Nat.sub_sub, Nat.add_assoc, Nat.add_comm 1]
    refine ⟨sent.2 ++ writes, ?_, ?_⟩
    · simp only [writeAll, written, restWritten, bind, Except.bind]
    · rw [List.flatten_append, decoded, resume, List.length_cons, ← counted]
      change decodeBytes cfg (afterFrames cfg.tag s 1) writes.flatten = _ at restDecoded
      rw [restDecoded]
      rfl

end

theorem client_frames_round_trip (keystream : Nat → UInt8) (pos : Nat) (s : ReadState)
    {outs : List Outgoing} (bounded : cfg.maxFrame < 2 ^ 26)
    (sendable : ∀ out ∈ outs, Sendable cfg out) :
    ∃ writes, writeAll cfg.tag outs = .ok writes ∧
      ∀ chunks reads, (∀ chunk ∈ chunks, chunk ≠ []) →
        chunks.flatten = encryptWrites keystream pos writes → chunks.flatten.length ≤ reads →
        decodeChunks cfg keystream reads pos (newCall cfg.tag s) chunks =
          (outs.map (·.frame), .exhausted (afterFrames cfg.tag s outs.length)) := by
  obtain ⟨writes, written, decoded⟩ := decodeBytes_writeAll s bounded sendable
  refine ⟨writes, written, ?_⟩
  intro chunks reads nonempty arrived enough
  rw [decodeChunks_eq_decodeBytes keystream nonempty enough, arrived, encryptWrites_eq,
    xorFrom_xorFrom, decoded]

end

def shortPadding : SecurePadding := ⟨[7], by decide, by decide⟩

def twoFrames : List Outgoing :=
  [⟨⟨[1, 2, 3, 4], true⟩, shortPadding⟩, ⟨⟨[5, 6, 7, 8], false⟩, shortPadding⟩]

def twoFramesArriving : List Bytes :=
  [[5, 1, 2], [131, 5, 7], [5, 3, 15, 12, 10, 11, 12, 8, 8, 8, 24, 22]]

theorem two_secure_frames_round_trip :
    decodeChunks ⟨.secure, 4096, true⟩ UInt8.ofNat 18 0 (freshReader .secure) twoFramesArriving =
      (twoFrames.map (·.frame), .exhausted ⟨startPhase .secure, 0, 0, 2⟩) := by
  have sendable : ∀ out ∈ twoFrames, Sendable ⟨.secure, 4096, true⟩ out := by
    simp only [twoFrames, List.forall_mem_cons]
    exact ⟨⟨by decide, by decide, by decide⟩, ⟨by decide, by decide, by decide⟩, nofun⟩
  obtain ⟨writes, written, decoded⟩ := client_frames_round_trip UInt8.ofNat 0 (freshReader .secure)
    (by decide) sendable
  have known : Except.ok [[5, 0, 0, 128, 1, 2, 3, 4, 7], [5, 0, 0, 0, 5, 6, 7, 8, 7]] =
      Except.ok writes := Eq.trans (by decide +kernel) written
  rw [← Except.ok.inj known] at decoded
  exact decoded twoFramesArriving 18 (by decide) (by decide) (by decide)

-- A payload of the maximal length fits, but its padding makes the frame one byte too long.
theorem padding_exceeds_max_frame :
    let cfg : ReadConfig := ⟨.secure, 4096, true⟩
    let out : Outgoing := ⟨⟨List.replicate 4096 0, false⟩, shortPadding⟩
    4 ≤ out.frame.payload.length ∧ out.frame.payload.length % 4 = 0 ∧
      out.frame.payload.length ≤ cfg.maxFrame ∧
      (writeAll cfg.tag [out]).map
          (fun writes => decodeChunks cfg (fun _ => 0) 4101 0 (freshReader .secure)
            [encryptWrites (fun _ => 0) 0 writes]) =
        .ok ([], .failed (.tooLarge 4097 4096 0)) := by
  decide +kernel

end Telemt.Relay
