import Mathlib.Data.BitVec
import Mathlib.Tactic.Ring

/-!
# Byte strings

Little-endian words, the exclusive-or of a byte string, and the effect of a
copy into a fixed buffer. Nothing here depends on a particular protocol.
-/

namespace Slamkit.Library

/-- A byte. -/
abbrev Byte := BitVec 8

/-- The `n` low-order bytes of a number, least significant first. -/
def littleEndian : ℕ → ℕ → List Byte
  | 0, _ => []
  | n + 1, x => BitVec.ofNat 8 x :: littleEndian n (x / 256)

/-- The number whose bytes, least significant first, are given. -/
def fromLittleEndian : List Byte → ℕ
  | [] => 0
  | b :: bytes => b.toNat + 256 * fromLittleEndian bytes

@[simp] theorem littleEndian_length (n x : ℕ) : (littleEndian n x).length = n := by
  induction n generalizing x with
  | zero => rfl
  | succ n ih => simp [littleEndian, ih]

/-- Reading back `n` bytes of a number gives it modulo `256 ^ n`. -/
theorem fromLittleEndian_littleEndian (n x : ℕ) :
    fromLittleEndian (littleEndian n x) = x % 256 ^ n := by
  induction n generalizing x with
  | zero => simp [littleEndian, fromLittleEndian, Nat.mod_one]
  | succ n ih =>
    have hbyte : (BitVec.ofNat 8 x).toNat = x % 256 := by simp
    rw [littleEndian, fromLittleEndian, ih, hbyte, pow_succ', Nat.mod_mul]

/-- A byte string is the little-endian form of the number it denotes. -/
theorem littleEndian_fromLittleEndian (bytes : List Byte) :
    littleEndian bytes.length (fromLittleEndian bytes) = bytes := by
  induction bytes with
  | nil => rfl
  | cons b bytes ih =>
    have hb : b.toNat < 256 := b.isLt
    have hdiv : (b.toNat + 256 * fromLittleEndian bytes) / 256 = fromLittleEndian bytes := by omega
    have hhead : BitVec.ofNat 8 (b.toNat + 256 * fromLittleEndian bytes) = b := by
      apply BitVec.eq_of_toNat_eq
      rw [BitVec.toNat_ofNat]
      omega
    rw [List.length_cons, fromLittleEndian, littleEndian, hdiv, hhead, ih]

/-- `n` bytes denote a number below `256 ^ n`. -/
theorem fromLittleEndian_lt (bytes : List Byte) :
    fromLittleEndian bytes < 256 ^ bytes.length := by
  induction bytes with
  | nil => simp [fromLittleEndian]
  | cons b bytes ih =>
    have hb : b.toNat < 256 := b.isLt
    rw [fromLittleEndian, List.length_cons, pow_succ']
    omega

/-- The exclusive-or of all bytes of a string. -/
def xorBytes (bytes : List Byte) : Byte := bytes.foldr (· ^^^ ·) 0#8

@[simp] theorem xorBytes_nil : xorBytes [] = 0#8 := rfl

@[simp] theorem xorBytes_cons (b : Byte) (bytes : List Byte) :
    xorBytes (b :: bytes) = b ^^^ xorBytes bytes := rfl

/-- The exclusive-or of a concatenation. -/
@[simp] theorem xorBytes_append (left right : List Byte) :
    xorBytes (left ++ right) = xorBytes left ^^^ xorBytes right := by
  induction left with
  | nil => simp
  | cons b left ih => rw [List.cons_append, xorBytes_cons, ih, xorBytes_cons, BitVec.xor_assoc]

/-- Two byte strings that differ in one place, by different bytes, have
different exclusive-ors. -/
theorem xorBytes_ne_of_replace {front back : List Byte} {b c : Byte} (hne : b ≠ c) :
    xorBytes (front ++ b :: back) ≠ xorBytes (front ++ c :: back) := by
  intro h
  simp only [xorBytes_append, xorBytes_cons, BitVec.xor_right_inj, BitVec.xor_left_inj] at h
  exact hne h

/-- The buffer after `bytes` have been copied to its start. -/
def overlay (bytes buffer : List Byte) : List Byte := bytes ++ buffer.drop bytes.length

/-- In a buffer of zeros a copy leaves its own bytes, and zeros behind them. -/
theorem overlay_getD (bytes : List Byte) (n i : ℕ) :
    (overlay bytes (List.replicate n 0#8)).getD i 0#8 = bytes.getD i 0#8 := by
  simp only [overlay, List.getD_eq_getElem?_getD, List.drop_replicate]
  by_cases h : i < bytes.length
  · rw [List.getElem?_append_left h]
  · have hnone : bytes[i]? = none := List.getElem?_eq_none (by omega)
    rw [List.getElem?_append_right (by omega), hnone]
    cases hget : (List.replicate (n - bytes.length) 0#8)[i - bytes.length]? with
    | none => rfl
    | some b => exact List.eq_of_mem_replicate (List.mem_of_getElem? hget)

end Slamkit.Library
