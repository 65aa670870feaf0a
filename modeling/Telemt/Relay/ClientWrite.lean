import Telemt.Relay.ClientRead

namespace Telemt.Relay
open Foundation

/-!
# Writing client frames

`write_client_payload`. The random number generator is the argument `padding`; the result lists the
buffers handed to the encrypting writer, one for each write.
-/

structure SecurePadding where
  bytes : Bytes
  some : 1 ≤ bytes.length
  few : bytes.length ≤ 3

inductive WriteError
  | abridgedUnaligned (len : Nat)
  | abridgedTooLarge (len : Nat)
  | secureUnaligned (len : Nat)
  | tooLarge (wireLen : Nat)
  deriving DecidableEq, Repr

inductive WriteMode
  | coalesced
  | split
  deriving DecidableEq, Repr

def meD2cSingleWriteCoalesceMaxBytes : Nat := 128 * 1024

-- Returns the length word with the quickack bit and the number of bytes of the frame.
def computeIntermediateSecureWireLen (dataLen paddingLen : Nat) (quickack : Bool) :
    Except WriteError (Nat × Nat) :=
  let wireLen := dataLen + paddingLen
  if 0x7fffffff < wireLen then .error (.tooLarge wireLen)
  else .ok (if quickack then wireLen + 0x80000000 else wireLen, 4 + wireLen)

-- The pieces are the header, the payload and, where there is one, the padding.
def writePieces (total : Nat) (pieces : List Bytes) : WriteMode × List Bytes :=
  if total ≤ meD2cSingleWriteCoalesceMaxBytes then (.coalesced, [pieces.flatten])
  else (.split, pieces)

def abridgedFirst (lenWords : Nat) (quickack : Bool) : UInt8 :=
  UInt8.ofNat (if quickack then lenWords + 0x80 else lenWords)

variable (quickack : Bool)

def writeAbridged (data : Bytes) : Except WriteError (WriteMode × List Bytes) :=
  if data.length % 4 ≠ 0 then .error (.abridgedUnaligned data.length)
  else
    let lenWords := data.length / 4
    if lenWords < 0x7f then
      .ok (writePieces (1 + data.length) [[abridgedFirst lenWords quickack], data])
    else if lenWords < 2 ^ 24 then
      .ok (writePieces (4 + data.length)
        [abridgedFirst 0x7f quickack :: leBytes 3 lenWords, data])
    else .error (.abridgedTooLarge data.length)

def writeIntermediate (data padding : Bytes) : Except WriteError (WriteMode × List Bytes) := do
  let (lenVal, total) ← computeIntermediateSecureWireLen data.length padding.length quickack
  .ok (writePieces total
    (leBytes 4 lenVal :: data :: if padding.length = 0 then [] else [padding]))

def writeClientPayload (tag : ProtoTag) (quickack : Bool) (data : Bytes) (padding : SecurePadding) :
    Except WriteError (WriteMode × List Bytes) :=
  match tag with
  | .abridged => writeAbridged quickack data
  | .intermediate => writeIntermediate quickack data []
  | .secure =>
    if isValidSecurePayloadLen data.length then writeIntermediate quickack data padding.bytes
    else .error (.secureUnaligned data.length)

structure Outgoing where
  frame : Frame
  padding : SecurePadding

def writeAll (tag : ProtoTag) : List Outgoing → Except WriteError (List Bytes)
  | [] => .ok []
  | out :: later => do
      let (_, writes) ← writeClientPayload tag out.frame.quickack out.frame.payload out.padding
      let rest ← writeAll tag later
      .ok (writes ++ rest)

-- What the writes put on the socket, each encrypted where the one before it stopped.
def encryptWrites (keystream : Nat → UInt8) : Nat → List Bytes → Bytes
  | _, [] => []
  | pos, buffer :: later =>
    xorFrom keystream pos buffer ++ encryptWrites keystream (pos + buffer.length) later

theorem encryptWrites_eq (keystream : Nat → UInt8) (pos : Nat) (writes : List Bytes) :
    encryptWrites keystream pos writes = xorFrom keystream pos writes.flatten := by
  induction writes generalizing pos with
  | nil => rfl
  | cons _ _ ih => rw [encryptWrites, ih, List.flatten_cons, xorFrom_append]

@[simp] theorem writePieces_flatten (total : Nat) (pieces : List Bytes) :
    (writePieces total pieces).2.flatten = pieces.flatten := by
  unfold writePieces
  split_ifs with coalesce
  · exact List.flatten_singleton
  · rfl

def abridgedHeader (len : Nat) : Bytes :=
  if len / 4 < 0x7f then [abridgedFirst (len / 4) quickack]
  else abridgedFirst 0x7f quickack :: leBytes 3 (len / 4)

def lengthWord (wireLen : Nat) : Bytes :=
  leBytes 4 (if quickack then wireLen + 0x80000000 else wireLen)

theorem writeAbridged_bytes {data : Bytes} (aligned : data.length % 4 = 0)
    (small : data.length < 2 ^ 26) :
    ∃ sent, writeAbridged quickack data = .ok sent ∧
      sent.2.flatten = abridgedHeader quickack data.length ++ data := by
  have words : data.length / 4 < 2 ^ 24 := by omega
  unfold writeAbridged abridgedHeader
  rw [if_neg (not_not.mpr aligned)]
  dsimp only
  split_ifs with short
  · refine ⟨_, rfl, ?_⟩
    rw [writePieces_flatten, List.flatten_cons, List.flatten_singleton]
  · refine ⟨_, rfl, ?_⟩
    rw [writePieces_flatten, List.flatten_cons, List.flatten_singleton]

theorem writeIntermediate_bytes {data padding : Bytes}
    (small : data.length + padding.length < 2 ^ 31) :
    ∃ sent, writeIntermediate quickack data padding = .ok sent ∧
      sent.2.flatten = lengthWord quickack (data ++ padding).length ++ (data ++ padding) := by
  have fits : ¬ 0x7fffffff < data.length + padding.length := by omega
  have tail : (if padding.length = 0 then [] else [padding]).flatten = padding := by
    split_ifs with none
    · exact (List.eq_nil_of_length_eq_zero none).symm
    · exact List.flatten_singleton
  unfold writeIntermediate computeIntermediateSecureWireLen
  rw [if_neg fits]
  refine ⟨_, rfl, ?_⟩
  rw [writePieces_flatten, List.flatten_cons, List.flatten_cons, tail, ← List.length_append]
  rfl

end Telemt.Relay
