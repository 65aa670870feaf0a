import Telemt.Foundation.Cbc

namespace Telemt.MiddleProxy
open Foundation

/-! # The frame reader of a middle proxy connection -/

structure RpcFrame where
  seqNo : UInt32
  payload : Bytes
  deriving DecidableEq, Repr

inductive ReaderError
  | crcMismatch (expected actual : UInt32)
  | seqNoMismatch (expected got : UInt32)
  deriving DecidableEq, Repr

inductive Parsed
  | wait
  | noop (rest : Bytes)
  | invalid (frameLen : Nat)
  | failed (reason : ReaderError)
  | frame (payload rest : Bytes)
  deriving DecidableEq, Repr

inductive Drained
  | waiting (expectedSeq : UInt32) (dec : Bytes)
  | cleared (expectedSeq : UInt32)
  | failed (reason : ReaderError)
  deriving DecidableEq, Repr

structure FrameReader where
  dec : Bytes
  expectedSeq : UInt32
  emitted : List RpcFrame
  invalidLens : Nat
  failure : Option ReaderError

structure ReaderLoop where
  raw : Bytes
  iv : Block
  frames : FrameReader

section
variable (cipher : Equiv.Perm Block) (crc : Bytes → UInt32)

def parseFrame (expectedSeq : UInt32) (dec : Bytes) : Parsed :=
  if dec.length < 12 then .wait
  else
    let fl := leNat (dec.take 4)
    if fl = 4 then .noop (dec.drop 4)
    else if fl < 12 ∨ 2 ^ 24 < fl then .invalid fl
    else if dec.length < fl then .wait
    else
      let frame := dec.take fl
      let ec := UInt32.ofNat (leNat (frame.drop (fl - 4)))
      let actualCrc := crc (frame.take (fl - 4))
      if actualCrc ≠ ec then .failed (.crcMismatch ec actualCrc)
      else
        let seqNo := UInt32.ofNat (leNat ((frame.drop 4).take 4))
        if seqNo ≠ expectedSeq then .failed (.seqNoMismatch expectedSeq seqNo)
        else .frame ((frame.take (fl - 4)).drop 8) (dec.drop fl)

-- The inner loop; every round that goes on removes bytes, so the length of the buffer is fuel enough.
def drain : Nat → UInt32 → Bytes → List RpcFrame × Drained
  | 0, expectedSeq, dec => ([], .waiting expectedSeq dec)
  | fuel + 1, expectedSeq, dec =>
    match parseFrame crc expectedSeq dec with
    | .wait => ([], .waiting expectedSeq dec)
    | .noop rest => drain fuel expectedSeq rest
    | .invalid _ => ([], .cleared expectedSeq)
    | .failed reason => ([], .failed reason)
    | .frame payload rest =>
      let next := drain fuel (expectedSeq + 1) rest
      (⟨expectedSeq, payload⟩ :: next.1, next.2)

def drainAll (expectedSeq : UInt32) (dec : Bytes) : List RpcFrame × Drained :=
  drain crc dec.length expectedSeq dec

def FrameReader.feed (st : FrameReader) (plain : Bytes) : FrameReader :=
  match st.failure with
  | some _ => st
  | none =>
    let drained := drainAll crc st.expectedSeq (st.dec ++ plain)
    let st := { st with emitted := st.emitted ++ drained.1 }
    match drained.2 with
    | .waiting expectedSeq dec => { st with expectedSeq, dec }
    | .cleared expectedSeq =>
      { st with expectedSeq, dec := [], invalidLens := st.invalidLens + 1 }
    | .failed reason => { st with failure := some reason }

def ReaderLoop.onRead (st : ReaderLoop) (chunk : Bytes) : ReaderLoop :=
  let raw := st.raw ++ chunk
  let count := raw.length / 16
  let blocks := blocksOf count raw
  { raw := raw.drop (16 * count)
    iv := blocks.getLastD st.iv
    frames := st.frames.feed crc (bytesOf (cbcDecrypt Block.xor cipher st.iv blocks)) }

def ReaderLoop.readAll (st : ReaderLoop) (chunks : List Bytes) : ReaderLoop :=
  chunks.foldl (ReaderLoop.onRead cipher crc) st

end

def FrameReader.new (expectedSeq : UInt32) : FrameReader := ⟨[], expectedSeq, [], 0, none⟩

def ReaderLoop.new (iv : Block) (expectedSeq : UInt32) : ReaderLoop := ⟨[], iv, .new expectedSeq⟩

section
variable {cipher : Equiv.Perm Block} {crc : Bytes → UInt32}

variable {expectedSeq : UInt32} {dec : Bytes}

theorem parseFrame_noop_shape {rest : Bytes} (parsed : parseFrame crc expectedSeq dec = .noop rest) :
    rest.length < dec.length ∧ leNat (dec.take 4) = 4 := by
  unfold parseFrame at parsed
  dsimp only at parsed
  split_ifs at parsed with short noop
  cases parsed
  refine ⟨?_, noop⟩
  rw [List.length_drop]
  omega

theorem parseFrame_frame_shape {payload rest : Bytes}
    (parsed : parseFrame crc expectedSeq dec = .frame payload rest) :
    rest.length < dec.length ∧ payload = ((dec.take (leNat (dec.take 4) - 4)).drop 8) ∧
      payload.length + 12 = leNat (dec.take 4) := by
  unfold parseFrame at parsed
  dsimp only at parsed
  split_ifs at parsed with short noop invalid partly
  cases parsed
  rw [List.take_take, Nat.min_eq_left (Nat.sub_le _ 4)]
  refine ⟨?_, rfl, ?_⟩
  · rw [List.length_drop]
    omega
  · rw [List.length_drop, List.length_take]
    omega

theorem drain_fuel {fuel : Nat} (enough : dec.length ≤ fuel) :
    drain crc fuel expectedSeq dec = drainAll crc expectedSeq dec := by
  unfold drainAll
  generalize least : dec.length = count
  have enough' : dec.length ≤ count := Nat.le_of_eq least
  rw [least] at enough
  clear least
  induction count generalizing fuel expectedSeq dec with
  | zero =>
    have empty : parseFrame crc expectedSeq dec = .wait := if_pos (by omega)
    cases fuel with
    | zero => rfl
    | succ fuel => simp only [drain, empty]
  | succ _ ih =>
    obtain ⟨fuel, rfl⟩ : ∃ more, fuel = more + 1 := ⟨fuel - 1, by omega⟩
    rw [drain, drain]
    cases parsed : parseFrame crc expectedSeq dec with
    | wait | invalid frameLen | failed reason => rfl
    | noop rest =>
      have shorter := (parseFrame_noop_shape parsed).1
      exact ih (Nat.le_of_succ_le_succ enough) (by omega)
    | frame =>
      have shorter := (parseFrame_frame_shape parsed).1
      dsimp only
      rw [ih (Nat.le_of_succ_le_succ enough) (by omega)]

theorem drainAll_eq (expectedSeq : UInt32) (dec : Bytes) :
    drainAll crc expectedSeq dec =
      match parseFrame crc expectedSeq dec with
      | .wait => ([], .waiting expectedSeq dec)
      | .noop rest => drainAll crc expectedSeq rest
      | .invalid _ => ([], .cleared expectedSeq)
      | .failed reason => ([], .failed reason)
      | .frame payload rest =>
        let next := drainAll crc (expectedSeq + 1) rest
        (⟨expectedSeq, payload⟩ :: next.1, next.2) := by
  rw [← drain_fuel (Nat.le_succ dec.length), drain]
  cases parsed : parseFrame crc expectedSeq dec with
  | wait | invalid frameLen | failed reason => rfl
  | noop rest => exact drain_fuel (Nat.le_of_lt (parseFrame_noop_shape parsed).1)
  | frame =>
    have shorter := (parseFrame_frame_shape parsed).1
    dsimp only
    rw [drain_fuel (Nat.le_of_lt shorter)]

def plainBlocks (cipher : Equiv.Perm Block) (iv : Block) (stream : Bytes) : List Block :=
  cbcDecrypt Block.xor cipher iv (blocksOf (stream.length / 16) stream)

theorem plainBlocks_short {iv : Block} {stream : Bytes} (short : stream.length < 16) :
    plainBlocks cipher iv stream = [] := by
  unfold plainBlocks
  rw [Nat.div_eq_of_lt short]
  rfl

theorem plainBlocks_append {count : Nat} {iv : Block} {bytes : Bytes}
    (enough : 16 * count ≤ bytes.length) (more : Bytes) :
    plainBlocks cipher iv (bytes ++ more) =
      cbcDecrypt Block.xor cipher iv (blocksOf count bytes) ++
        plainBlocks cipher ((blocksOf count bytes).getLastD iv)
          (bytes.drop (16 * count) ++ more) := by
  have split : (bytes ++ more).length / 16 =
      count + (bytes.drop (16 * count) ++ more).length / 16 := by
    rw [List.length_append, List.length_append, List.length_drop]
    omega
  unfold plainBlocks
  rw [split, blocksOf_add, cbcDecrypt_append, blocksOf_append enough,
    List.drop_append_of_le_length enough]

theorem readAll_eq_pieces {st : ReaderLoop} (short : st.raw.length < 16) (chunks : List Bytes) :
    ∃ pieces : List (List Block),
      pieces.flatten = plainBlocks cipher st.iv (st.raw ++ chunks.flatten) ∧
      (st.readAll cipher crc chunks).frames =
        (pieces.map bytesOf).foldl (FrameReader.feed crc) st.frames ∧
      ∀ limit, (∀ chunk ∈ chunks, chunk.length ≤ 16 * limit) → ∀ piece ∈ pieces, piece.length ≤ limit := by
  induction chunks generalizing st with
  | nil =>
    refine ⟨[], ?_, rfl, nofun⟩
    rw [List.flatten_nil, List.flatten_nil, List.append_nil, plainBlocks_short short]
  | cons chunk _ ih =>
    generalize countEq : (st.raw ++ chunk).length / 16 = count
    have enough : 16 * count ≤ (st.raw ++ chunk).length := by omega
    have left : ((st.raw ++ chunk).drop (16 * count)).length < 16 := by
      rw [List.length_drop]
      omega
    have next : st.onRead cipher crc chunk =
        { raw := (st.raw ++ chunk).drop (16 * count)
          iv := (blocksOf count (st.raw ++ chunk)).getLastD st.iv
          frames := st.frames.feed crc
            (bytesOf (cbcDecrypt Block.xor cipher st.iv (blocksOf count (st.raw ++ chunk)))) } := by
      rw [← countEq]
      rfl
    obtain ⟨pieces, flat, fed, sizes⟩ := @ih (st.onRead cipher crc chunk) (by rw [next]; exact left)
    rw [next] at flat fed
    refine ⟨cbcDecrypt Block.xor cipher st.iv (blocksOf count (st.raw ++ chunk)) :: pieces, ?_, ?_, ?_⟩
    · rw [List.flatten_cons, flat, List.flatten_cons, ← List.append_assoc, plainBlocks_append enough]
    · rw [List.map_cons, List.foldl_cons, ← fed, ReaderLoop.readAll, List.foldl_cons, next]
      rfl
    · intro limit bounded piece member
      rcases List.mem_cons.mp member with rfl | behind
      · have size := bounded chunk List.mem_cons_self
        rw [cbcDecrypt_length, blocksOf_length]
        rw [List.length_append] at countEq
        omega
      · exact sizes limit (fun chunk member => bounded chunk (List.mem_cons_of_mem _ member)) piece behind

theorem bytesOf_flatten (pieces : List (List Block)) :
    (pieces.map bytesOf).flatten = bytesOf pieces.flatten := by
  induction pieces with
  | nil => rfl
  | cons _ _ ih =>
    rw [List.map_cons, List.flatten_cons, List.flatten_cons, bytesOf_append, ih]

theorem readAll_eq_feeds {st : ReaderLoop} {chunks : List Bytes} {blocks : List Block}
    (short : st.raw.length < 16) (arrived : st.raw ++ chunks.flatten = bytesOf blocks) :
    ∃ pieces : List Bytes, pieces.flatten = bytesOf (cbcDecrypt Block.xor cipher st.iv blocks) ∧
      (st.readAll cipher crc chunks).frames = pieces.foldl (FrameReader.feed crc) st.frames := by
  obtain ⟨pieces, flat, fed, _⟩ := @readAll_eq_pieces cipher crc st short chunks
  have cut := blocksOf_append_bytesOf blocks []
  rw [List.append_nil] at cut
  refine ⟨pieces.map bytesOf, ?_, fed⟩
  rw [bytesOf_flatten, flat, arrived, plainBlocks, bytesOf_length,
    Nat.mul_div_cancel_left _ (Nat.zero_lt_succ 15), cut]

end

end Telemt.MiddleProxy
