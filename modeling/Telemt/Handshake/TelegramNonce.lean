import Telemt.Handshake.Mtproto

namespace Telemt.Handshake
open Foundation ClientHello
open Relay (ProtoTag)

/-! # The nonce for a data centre -/

def handshakeLen : Nat := 64

def keyLen : Nat := 32

def reservedNonceFirstBytes : List UInt8 := [0xef]

def reservedNonceBeginnings : List Bytes :=
  [[0x48, 0x45, 0x41, 0x44], [0x50, 0x4f, 0x53, 0x54], [0x47, 0x45, 0x54, 0x20],
    [0xee, 0xee, 0xee, 0xee], [0xdd, 0xdd, 0xdd, 0xdd], [0x16, 0x03, 0x01, 0x02]]

def reservedNonceContinues : List Bytes := [[0, 0, 0, 0]]

def nonceReserved (nonce : Bytes) : Bool :=
  reservedNonceFirstBytes.contains (byteAt nonce 0) ||
    reservedNonceBeginnings.contains (slice nonce 0 4) ||
    reservedNonceContinues.contains (slice nonce 4 4)

def protoTagToBytes (tag : ProtoTag) : Bytes :=
  leBytes 4 (match tag with
    | .abridged => 0xefefefef
    | .intermediate => 0xeeeeeeee
    | .secure => 0xdddddddd)

def copyFromSlice (bytes : Bytes) (pos : Nat) (part : Bytes) : Bytes :=
  bytes.take pos ++ part ++ bytes.drop (pos + part.length)

/-- A cipher in counter mode; `position` counts the bytes of the keystream that are used up. -/
structure AesCtr where
  key : Bytes
  iv : Nat
  position : Nat := 0

namespace AesCtr

def ofKeyIv (keyIv : Bytes) : AesCtr where
  key := keyIv.take keyLen
  iv := beNat (keyIv.drop keyLen)

def encrypt (keystream : Bytes → Nat → Nat → UInt8) (cipher : AesCtr) (data : Bytes) :
    AesCtr × Bytes :=
  ({ cipher with position := cipher.position + data.length },
    xorFrom (keystream cipher.key cipher.iv) cipher.position data)

end AesCtr

-- Each draw is one answer of the random source; a key and an IV are given as the cipher they make.
def generateTgNonce (protoTag : ProtoTag) (dcIdx : BitVec 16) (clientEncKey : Vector UInt8 32)
    (clientEncIv : BitVec 128) (fastMode : Bool) : List Bytes → Option (Bytes × AesCtr × AesCtr)
  | [] => none
  | nonce :: draws =>
    if nonce.length ≠ handshakeLen ∨ nonceReserved nonce then
      generateTgNonce protoTag dcIdx clientEncKey clientEncIv fastMode draws
    else
      let nonce := copyFromSlice nonce protoTagPos (protoTagToBytes protoTag)
      let nonce := copyFromSlice nonce dcIdxPos (leBytes 2 dcIdx.toNat)
      let nonce :=
        if fastMode then
          let keyIv := clientEncKey.toList ++ (leBytes ivLen clientEncIv.toNat).reverse
          copyFromSlice nonce skipLen keyIv.reverse
        else nonce
      let encKeyIv := slice nonce skipLen (keyLen + ivLen)
      some (nonce, .ofKeyIv encKeyIv, .ofKeyIv encKeyIv.reverse)

def encryptTgNonceWithCiphers (keystream : Bytes → Nat → Nat → UInt8) (nonce : Bytes) :
    Bytes × AesCtr × AesCtr :=
  let encKeyIv := slice nonce skipLen (keyLen + ivLen)
  let (encryptor, encryptedFull) := (AesCtr.ofKeyIv encKeyIv).encrypt keystream nonce
  (nonce.take protoTagPos ++ encryptedFull.drop protoTagPos, encryptor, .ofKeyIv encKeyIv.reverse)

attribute [local simp] handshakeLen skipLen keyLen ivLen protoTagPos dcIdxPos List.take_append
  List.drop_append List.take_of_length_le List.drop_of_length_le

theorem exists_parts {bytes : Bytes} {m n : Nat} (sized : bytes.length = m + n) :
    ∃ front back, bytes = front ++ back ∧ front.length = m ∧ back.length = n :=
  ⟨bytes.take m, bytes.drop m, (List.take_append_drop m bytes).symm, by simp [sized], by simp [sized]⟩

theorem nonceReserved_append {head : Bytes} (sized : head.length = skipLen) (rest : Bytes) :
    nonceReserved (head ++ rest) = nonceReserved head := by
  cases head with
  | nil => cases sized
  | cons b head =>
    have sized : head.length = 7 := Nat.succ.inj sized
    simp [nonceReserved, byteAt, slice, sized]

section
variable {protoTag : ProtoTag} {dcIdx : BitVec 16} {clientEncKey : Vector UInt8 32}
  {clientEncIv : BitVec 128} {fastMode : Bool} {draws : List Bytes}

theorem isSome_generateTgNonce :
    (generateTgNonce protoTag dcIdx clientEncKey clientEncIv fastMode draws).isSome = true ↔
      ∃ draw ∈ draws, draw.length = handshakeLen ∧ nonceReserved draw = false := by
  induction draws with
  | nil => simp [generateTgNonce]
  | cons =>
    rw [generateTgNonce, List.exists_mem_cons_iff]
    split
    · next refused => grind
    · next free => grind

theorem generateTgNonce_eq_some {result : Bytes × AesCtr × AesCtr}
    (generated : generateTgNonce protoTag dcIdx clientEncKey clientEncIv fastMode draws = some result) :
    ∃ head keyIv tail, head.length = skipLen ∧ keyIv.length = keyLen + ivLen ∧ tail.length = 2 ∧
      nonceReserved head = false ∧
      (fastMode = true →
        keyIv.reverse = clientEncKey.toList ++ (leBytes ivLen clientEncIv.toNat).reverse) ∧
      result = (head ++ (keyIv ++ (protoTagToBytes protoTag ++ (leBytes 2 dcIdx.toNat ++ tail))),
        .ofKeyIv keyIv, .ofKeyIv keyIv.reverse) := by
  induction draws with
  | nil => cases generated
  | cons _ _ ih =>
    rw [generateTgNonce] at generated
    split at generated
    · exact ih generated
    · next allowed =>
      obtain ⟨sized, free⟩ := not_or.mp allowed
      obtain ⟨head, rest, rfl, headLen, sized⟩ := exists_parts (m := 8) (n := 56) (not_not.mp sized)
      obtain ⟨keyIv, rest, rfl, keyIvLen, sized⟩ := exists_parts (m := 48) (n := 8) sized
      obtain ⟨_, _, rfl, _, sized⟩ := exists_parts (m := 4) (n := 4) sized
      obtain ⟨_, tail, rfl, _, tailLen⟩ := exists_parts (m := 2) (n := 2) sized
      have tagSize : (protoTagToBytes protoTag).length = 4 := leBytes_length _ _
      have unreserved := nonceReserved_append headLen _ ▸ eq_false_of_ne_true free
      cases fastMode with
      | false =>
        refine ⟨head, keyIv, tail, headLen, keyIvLen, tailLen, unreserved, nofun, ?_⟩
        simp [copyFromSlice, slice, *] at generated ⊢
        exact generated.symm
      | true =>
        refine ⟨head, _, tail, headLen, ?_, tailLen, unreserved, fun _ => List.reverse_reverse _, ?_⟩
        · simp
        · simp [copyFromSlice, slice, *] at generated ⊢
          exact generated.symm

end

theorem encryptTgNonceWithCiphers_parts (keystream : Bytes → Nat → Nat → UInt8)
    {head keyIv rest : Bytes} (headLen : head.length = skipLen) (keyIvLen : keyIv.length = keyLen + ivLen)
    (restLen : rest.length = 8) :
    let stream := keystream (keyIv.take keyLen) (beNat (keyIv.drop keyLen))
    let sent := head ++ (keyIv ++ xorFrom stream protoTagPos rest)
    let used : AesCtr := { AesCtr.ofKeyIv keyIv with position := handshakeLen }
    encryptTgNonceWithCiphers keystream (head ++ (keyIv ++ rest)) =
        (sent, used, .ofKeyIv keyIv.reverse) ∧
      slice sent 8 48 = keyIv ∧ (AesCtr.ofKeyIv keyIv).encrypt keystream sent =
        (used, xorFrom stream 0 (head ++ keyIv) ++ rest) := by
  have keyed (rest : Bytes) : slice (head ++ (keyIv ++ rest)) 8 48 = keyIv := by
    simp [slice, headLen, keyIvLen]
  refine ⟨?_, keyed _, ?_⟩
  · rw [encryptTgNonceWithCiphers,
      show slice (head ++ (keyIv ++ rest)) skipLen (keyLen + ivLen) = keyIv from keyed rest]
    simp [AesCtr.encrypt, AesCtr.ofKeyIv, xorFrom_append, *]
  · simp [AesCtr.encrypt, AesCtr.ofKeyIv, xorFrom_append, xorFrom_xorFrom, *]

theorem tg_nonce_received (keystream : Bytes → Nat → Nat → UInt8) (protoTag : ProtoTag)
    (dcIdx : BitVec 16) (clientEncKey : Vector UInt8 32) (clientEncIv : BitVec 128) (fastMode : Bool)
    (draws : List Bytes) :
    let generated := generateTgNonce protoTag dcIdx clientEncKey clientEncIv fastMode draws
    (generated.isSome = true ↔
        ∃ draw ∈ draws, draw.length = handshakeLen ∧ nonceReserved draw = false) ∧
      ∀ nonce tgEnc tgDec, generated = some (nonce, tgEnc, tgDec) →
        let (sent, encryptor, decryptor) := encryptTgNonceWithCiphers keystream nonce
        let keyIv := slice sent 8 48
        let (receiver, seen) := (AesCtr.ofKeyIv keyIv).encrypt keystream sent
        sent.length = 64 ∧ slice seen 56 4 = protoTagToBytes protoTag ∧
          slice seen 60 2 = leBytes 2 dcIdx.toNat ∧ nonceReserved (sent.take 8) = false ∧
          encryptor = receiver ∧ encryptor.position = 64 ∧ decryptor = .ofKeyIv keyIv.reverse ∧
          tgEnc = .ofKeyIv keyIv ∧ tgDec = decryptor ∧
          (fastMode = true → decryptor = ⟨clientEncKey.toList, clientEncIv.toNat, 0⟩) := by
  refine ⟨isSome_generateTgNonce, fun nonce tgEnc tgDec generated => ?_⟩
  obtain ⟨head, _, tail, headLen, keyIvLen, _, _, fast, same⟩ :=
    generateTgNonce_eq_some generated
  cases same
  have tagLen : (protoTagToBytes protoTag).length = 4 := leBytes_length _ _
  obtain ⟨encrypted, keyed, received⟩ := encryptTgNonceWithCiphers_parts keystream headLen keyIvLen
    (show (protoTagToBytes protoTag ++ (leBytes 2 dcIdx.toNat ++ tail)).length = 8 by simp [*])
  rw [encrypted]
  dsimp only
  rw [keyed, received]
  refine ⟨?_, ?_, ?_, ?_, rfl, rfl, rfl, rfl, rfl, fun quick => ?_⟩
  · simp [*]
  · simp [slice, *]
  · simp [slice, *]
  · rwa [List.take_left' (show head.length = 8 from headLen)]
  · have small : clientEncIv.toNat < 256 ^ ivLen := clientEncIv.isLt
    rw [fast quick, AesCtr.ofKeyIv]
    simpa [beNat] using leNat_leBytes small

end Telemt.Handshake
