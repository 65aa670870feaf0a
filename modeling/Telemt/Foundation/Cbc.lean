import Telemt.Foundation.Bytes

namespace Telemt.Foundation

/-!
# Cipher block chaining

Chaining over any type of blocks with a mixing operation that undoes itself, and byte strings cut into
blocks of sixteen.
-/

section
variable {β : Type*} (mix : β → β → β) (cipher : Equiv.Perm β)

def cbcEncrypt : β → List β → List β
  | _, [] => []
  | prev, block :: blocks =>
    let encrypted := cipher (mix block prev)
    encrypted :: cbcEncrypt encrypted blocks

def cbcDecrypt : β → List β → List β
  | _, [] => []
  | prev, block :: blocks => mix (cipher.symm block) prev :: cbcDecrypt block blocks

variable {mix cipher}

theorem cbcDecrypt_cbcEncrypt (cancel : ∀ a b, mix (mix a b) b = a) (prev : β) (blocks : List β) :
    cbcDecrypt mix cipher prev (cbcEncrypt mix cipher prev blocks) = blocks := by
  induction blocks generalizing prev with
  | nil => rfl
  | cons _ _ ih => rw [cbcEncrypt, cbcDecrypt, ih, Equiv.symm_apply_apply, cancel]

section
variable (prev : β) (first blocks : List β)

@[simp] theorem cbcEncrypt_length : (cbcEncrypt mix cipher prev blocks).length = blocks.length := by
  induction blocks generalizing prev with
  | nil => rfl
  | cons _ _ ih => rw [cbcEncrypt, List.length_cons, List.length_cons, ih]

theorem cbcEncrypt_append (second : List β) :
    cbcEncrypt mix cipher prev (first ++ second) =
      cbcEncrypt mix cipher prev first ++
        cbcEncrypt mix cipher ((cbcEncrypt mix cipher prev first).getLastD prev) second := by
  induction first generalizing prev with
  | nil => rfl
  | cons _ _ ih =>
    rw [List.cons_append, cbcEncrypt, cbcEncrypt, ih, List.getLastD_cons, List.cons_append]

@[simp] theorem cbcDecrypt_length : (cbcDecrypt mix cipher prev blocks).length = blocks.length := by
  induction blocks generalizing prev with
  | nil => rfl
  | cons _ _ ih => rw [cbcDecrypt, List.length_cons, List.length_cons, ih]

theorem cbcDecrypt_append (second : List β) :
    cbcDecrypt mix cipher prev (first ++ second) =
      cbcDecrypt mix cipher prev first ++ cbcDecrypt mix cipher (first.getLastD prev) second := by
  induction first generalizing prev with
  | nil => rfl
  | cons _ _ ih =>
    rw [List.cons_append, cbcDecrypt, cbcDecrypt, ih, List.getLastD_cons, List.cons_append]

end

end

@[ext] structure Block where
  bytes : Bytes
  full : bytes.length = 16
  deriving DecidableEq, Repr

def Block.zero : Block := ⟨List.replicate 16 0, rfl⟩

def Block.ofBytes (bytes : Bytes) : Block :=
  if full : bytes.length = 16 then ⟨bytes, full⟩ else Block.zero

def Block.xor (a b : Block) : Block :=
  ⟨List.zipWith (· ^^^ ·) a.bytes b.bytes, by rw [List.length_zipWith, a.full, b.full]; rfl⟩

theorem zipWith_xor_cancel {first second : Bytes} (same : first.length = second.length) :
    List.zipWith (· ^^^ ·) (List.zipWith (· ^^^ ·) first second) second = first := by
  induction first generalizing second with
  | nil => rfl
  | cons a _ ih =>
    cases second with
    | nil => cases same
    | cons b =>
      rw [List.zipWith_cons_cons, List.zipWith_cons_cons, ih (Nat.succ.inj same),
        UInt8.xor_assoc, UInt8.xor_self, UInt8.xor_zero]

theorem Block.xor_cancel (a b : Block) : (a.xor b).xor b = a :=
  Block.ext (zipWith_xor_cancel (a.full.trans b.full.symm))

variable (blocks : List Block)

def bytesOf : Bytes := blocks.flatMap (·.bytes)

def blocksOf : Nat → Bytes → List Block
  | 0, _ => []
  | count + 1, bytes => Block.ofBytes (bytes.take 16) :: blocksOf count (bytes.drop 16)

@[simp] theorem bytesOf_length : (bytesOf blocks).length = 16 * blocks.length := by
  induction blocks with
  | nil => rfl
  | cons block _ ih =>
    rw [bytesOf, List.flatMap_cons, List.length_append, block.full, ← bytesOf, ih,
      List.length_cons, Nat.mul_succ, Nat.add_comm]

theorem bytesOf_append (first second : List Block) :
    bytesOf (first ++ second) = bytesOf first ++ bytesOf second := List.flatMap_append

theorem bytesOf_blocksOf {count : Nat} {bytes : Bytes} (enough : 16 * count ≤ bytes.length) :
    bytesOf (blocksOf count bytes) = bytes.take (16 * count) := by
  induction count generalizing bytes with
  | zero => rfl
  | succ count ih =>
    have whole : (bytes.take 16).length = 16 := List.length_take_of_le (by omega)
    have rest : 16 * count ≤ (bytes.drop 16).length := by
      rw [List.length_drop]
      omega
    rw [blocksOf, bytesOf, List.flatMap_cons, ← bytesOf, ih rest, Block.ofBytes, dif_pos whole,
      Nat.mul_succ, Nat.add_comm (16 * count), List.take_add]

theorem blocksOf_append {count : Nat} {bytes : Bytes} (enough : 16 * count ≤ bytes.length)
    (rest : Bytes) : blocksOf count (bytes ++ rest) = blocksOf count bytes := by
  induction count generalizing bytes with
  | zero => rfl
  | succ count ih =>
    have later : 16 * count ≤ (bytes.drop 16).length := by
      rw [List.length_drop]
      omega
    rw [blocksOf, blocksOf, List.take_append_of_le_length (by omega),
      List.drop_append_of_le_length (by omega), ih later]

@[simp] theorem blocksOf_length (count : Nat) (bytes : Bytes) : (blocksOf count bytes).length = count := by
  induction count generalizing bytes with
  | zero => rfl
  | succ _ ih => rw [blocksOf, List.length_cons, ih]

theorem blocksOf_add (first second : Nat) (bytes : Bytes) :
    blocksOf (first + second) bytes =
      blocksOf first bytes ++ blocksOf second (bytes.drop (16 * first)) := by
  induction first generalizing bytes with
  | zero => rw [Nat.zero_add, Nat.mul_zero, List.drop_zero, blocksOf, List.nil_append]
  | succ _ ih =>
    rw [Nat.succ_add, blocksOf, blocksOf, ih, List.drop_drop, List.cons_append, Nat.mul_succ,
      Nat.add_comm 16]

theorem blocksOf_append_bytesOf (rest : Bytes) :
    blocksOf blocks.length (bytesOf blocks ++ rest) = blocks := by
  induction blocks with
  | nil => rfl
  | cons block blocks ih =>
    have first : (block.bytes ++ (bytesOf blocks ++ rest)).take 16 = block.bytes := by
      rw [← block.full]
      exact List.take_left
    have later : (block.bytes ++ (bytesOf blocks ++ rest)).drop 16 = bytesOf blocks ++ rest := by
      rw [← block.full]
      exact List.drop_left
    rw [bytesOf, List.flatMap_cons, ← bytesOf, List.append_assoc, List.length_cons, blocksOf,
      first, later, ih, Block.ofBytes, dif_pos block.full]

end Telemt.Foundation
