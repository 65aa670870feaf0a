import Mathlib.Algebra.BigOperators.Fin

namespace Telemt.Foundation

/-!
# Byte strings and fixed width integers in them
-/

abbrev Bytes := List UInt8

def leNat : Bytes → Nat
  | [] => 0
  | b :: bytes => b.toNat + 256 * leNat bytes

def leBytes : Nat → Nat → Bytes
  | 0, _ => []
  | width + 1, n => UInt8.ofNat n :: leBytes width (n / 256)

def beNat (bytes : Bytes) : Nat := leNat bytes.reverse

@[simp] theorem leBytes_length (width n : Nat) : (leBytes width n).length = width := by
  induction width generalizing n with
  | zero => rfl
  | succ _ ih => rw [leBytes, List.length_cons, ih]

theorem leNat_leBytes {width n : Nat} (fits : n < 256 ^ width) : leNat (leBytes width n) = n := by
  induction width generalizing n with
  | zero =>
    rw [Nat.pow_zero, Nat.lt_one_iff] at fits
    exact fits.symm
  | succ width ih =>
    have quotient : n / 256 < 256 ^ width := by
      rw [Nat.pow_succ] at fits
      omega
    rw [leBytes, leNat, ih quotient, UInt8.toNat_ofNat']
    omega

def xorFrom (keystream : Nat → UInt8) : Nat → Bytes → Bytes
  | _, [] => []
  | pos, b :: bytes => (b ^^^ keystream pos) :: xorFrom keystream (pos + 1) bytes

section
variable (keystream : Nat → UInt8) (pos : Nat) (bytes : Bytes)

@[simp] theorem xorFrom_length : (xorFrom keystream pos bytes).length = bytes.length := by
  induction bytes generalizing pos with
  | nil => rfl
  | cons b _ ih => rw [xorFrom, List.length_cons, List.length_cons, ih]

theorem xorFrom_append (first second : Bytes) :
    xorFrom keystream pos (first ++ second) =
      xorFrom keystream pos first ++ xorFrom keystream (pos + first.length) second := by
  induction first generalizing pos with
  | nil => rfl
  | cons b _ ih =>
    rw [List.cons_append, xorFrom, xorFrom, List.cons_append, ih, List.length_cons,
      Nat.add_right_comm, Nat.add_assoc]

theorem xorFrom_xorFrom : xorFrom keystream pos (xorFrom keystream pos bytes) = bytes := by
  induction bytes generalizing pos with
  | nil => rfl
  | cons b _ ih =>
    rw [xorFrom, xorFrom, ih, UInt8.xor_assoc, UInt8.xor_self, UInt8.xor_zero]

end

end Telemt.Foundation
