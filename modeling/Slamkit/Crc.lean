import Slamkit.Library.ShiftRegister
import Slamkit.Protocol

/-!
# The checksum

The table-driven CRC of `sl_crc.cpp`, and what it computes: the reflected
remainder of the zero-padded message by `x ^ 32 + poly`.
-/

namespace Slamkit

open Library Polynomial

namespace Crc32

/-- `table`, as a function of its index. -/
abbrev Table := SlU8 → SlU32

/-- The body of the loop of `bitrev` on `input` and `var`. -/
def bitrevRound (bw : SlU16) (s : SlU32 × SlU32) (i : ℕ) : SlU32 × SlU32 :=
  (s.1 >>> 1,
    if s.1 &&& 0x01#32 ≠ 0#32 then s.2 ||| (1#32 <<< (bw.toNat - 1 - i)) else s.2)

/-- `bitrev`. -/
def bitrev (input : SlU32) (bw : SlU16) : SlU32 :=
  ((List.range bw.toNat).foldl (bitrevRound bw) (input, 0#32)).2

/-- `init`: the table of a polynomial. The outer loop assigns every entry once. -/
def init (poly : SlU32) : Table := fun i =>
  let poly := bitrev poly 32#16
  (List.range 8).foldl (fun c _ => if c &&& 1#32 ≠ 0#32 then poly ^^^ (c >>> 1) else c >>> 1)
    (i.setWidth 32)

/-- The body of both loops of `cal`; in the padding loop the byte is zero. -/
def calByte (table : Table) (crc : SlU32) (byte : SlU8) : SlU32 :=
  let index : SlU8 := (crc ^^^ byte.setWidth 32).setWidth 8
  (crc >>> 8) ^^^ table index

/-- `leftBytes`. -/
def leftBytes (len : SlU16) : SlU8 := ((4#32 - len.setWidth 32) &&& 0x3#32).setWidth 8

/-- `cal`, on a buffer with at least `len` bytes. -/
def cal (table : Table) (crc : SlU32) (input : List SlU8) (len : SlU16) : SlU32 :=
  let crc := (List.range len.toNat).foldl (fun crc i => calByte table crc (input.getD i 0#8)) crc
  let crc := (List.range (leftBytes len).toNat).foldl (fun crc _ => calByte table crc 0#8) crc
  crc ^^^ 0xffffffff#32

/-- `input & 1` tests the lowest bit. -/
theorem and_one_ne_zero (x : SlU32) : x &&& 1#32 ≠ 0#32 ↔ x.getLsbD 0 = true := by
  rw [BitVec.and_one_eq_setWidth_ofBool_getLsbD]
  cases x.getLsbD 0 <;> decide

/-- The state of the loop of `bitrev` after `k` rounds: the input is shifted out, and
its lowest `k` bits stand reversed in the upper places. -/
theorem bitrev_loop (x : SlU32) {k : ℕ} (hk : k ≤ 32) :
    let s := (List.range k).foldl (bitrevRound 32#16) (x, 0#32)
    s.1 = x >>> k ∧ ∀ i < 32, s.2.getLsbD (31 - i) = (decide (i < k) && x.getLsbD i) := by
  induction k with
  | zero => exact ⟨by simp, fun i hi => by simp⟩
  | succ k ih =>
    obtain ⟨hinput, hvar⟩ := ih (by omega)
    rw [List.range_succ, List.foldl_append, List.foldl_cons, List.foldl_nil]
    generalize (List.range k).foldl (bitrevRound 32#16) (x, 0#32) = s at hinput hvar
    refine ⟨by rw [bitrevRound, hinput, ← BitVec.shiftRight_add], fun i hi => ?_⟩
    have hlow : (x >>> k).getLsbD 0 = x.getLsbD k := by simp
    have hone : (1#32 <<< ((32#16).toNat - 1 - k)).getLsbD (31 - i) = decide (i = k) := by
      rw [BitVec.getLsbD_shiftLeft, BitVec.getLsbD_one, Bool.eq_iff_iff]
      simp
      omega
    simp only [bitrevRound, hinput, and_one_ne_zero, hlow]
    by_cases hbit : x.getLsbD k = true
    · rw [if_pos hbit, BitVec.getLsbD_or, hvar i hi, hone]
      by_cases heq : i = k
      · simp [heq, hbit]
      · simp [heq, show i < k + 1 ↔ i < k by omega]
    · rw [if_neg hbit, hvar i hi]
      by_cases heq : i = k
      · simp [heq, hbit]
      · simp [show i < k + 1 ↔ i < k by omega]

/-- `bitrev` reverses a word. -/
theorem bitrev_eq (x : SlU32) : bitrev x 32#16 = x.reverse := by
  obtain ⟨_, hvar⟩ := bitrev_loop x (Nat.le_refl 32)
  apply BitVec.eq_of_getLsbD_eq
  intro j hj
  have hbit := hvar (31 - j) (by omega)
  rw [show 31 - (31 - j) = j by omega, decide_eq_true (by omega), Bool.true_and] at hbit
  rw [BitVec.getLsbD_reverse, BitVec.getMsbD_eq_getLsbD, decide_eq_true hj, Bool.true_and]
  exact hbit

/-- An entry of the table is the effect of eight steps of the reflected register. -/
theorem init_eq (poly : SlU32) (index : SlU8) :
    init poly index = (shiftStep poly.reverse)^[8] (index.setWidth 32) := by
  have hstep : (fun (c : SlU32) (_ : ℕ) =>
      if c &&& 1#32 ≠ 0#32 then poly.reverse ^^^ (c >>> 1) else c >>> 1) =
      fun c _ => shiftStep poly.reverse c := by
    funext c _
    simp only [and_one_ne_zero, shiftStep]
  simp only [init, bitrev_eq, hstep]
  rfl

/-- One round of `cal` feeds one byte. -/
theorem calByte_eq (poly r : SlU32) (byte : SlU8) :
    calByte (init poly) r.reverse byte = (feed poly r (lsbFirst byte)).reverse := by
  rw [reverse_feed, foldl_lsbFirst (by decide), calByte, init_eq]

/-- The rounds of `cal` over a list of bytes feed all of them. -/
theorem foldl_calByte (poly r : SlU32) (bytes : List SlU8) :
    bytes.foldl (calByte (init poly)) r.reverse =
      (feed poly r (bytes.flatMap lsbFirst)).reverse := by
  induction bytes generalizing r with
  | nil => rfl
  | cons byte bytes ih =>
    rw [List.foldl_cons, calByte_eq, ih, List.flatMap_cons, feed_append]

/-- The padding makes the length a multiple of four. -/
theorem leftBytes_toNat (n : ℕ) (h : n ≤ 65535) :
    (leftBytes (BitVec.ofNat 16 n)).toNat = (4 - n % 4) % 4 := by
  have hlen : ((BitVec.ofNat 16 n).setWidth 32).toNat = n := by
    rw [BitVec.toNat_setWidth, BitVec.toNat_ofNat]
    omega
  have hmask : ∀ x : ℕ, x &&& 3 = x % 4 := fun x => Nat.and_two_pow_sub_one_eq_mod x 2
  rw [leftBytes, BitVec.toNat_setWidth, BitVec.toNat_and, BitVec.toNat_sub, hlen]
  simp only [BitVec.toNat_ofNat, Nat.reducePow, Nat.reduceMod, hmask]
  omega

/-- Reading every place of a list. -/
theorem range_map_getD (m : List SlU8) : (List.range m.length).map (m.getD · 0#8) = m := by
  apply List.ext_getElem
  · simp
  · intro i _ hi
    simp [List.getElem?_eq_getElem hi]

/-- The bytes `cal` works through: the message and zeros up to a multiple of four. -/
def padded (m : List SlU8) : List SlU8 := m ++ List.replicate ((4 - m.length % 4) % 4) 0#8

/-- The two loops of `cal` are one loop over the padded message. -/
theorem cal_eq_foldl (table : Table) (crc : SlU32) {m : List SlU8} (h : m.length ≤ 65535) :
    cal table crc m (BitVec.ofNat 16 m.length) =
      ~~~ (padded m).foldl (calByte table) crc := by
  have hlen : (BitVec.ofNat 16 m.length).toNat = m.length := by
    rw [BitVec.toNat_ofNat]
    omega
  have hmessage : (List.range m.length).foldl
      (fun crc i => calByte table crc (m.getD i 0#8)) crc = m.foldl (calByte table) crc := by
    rw [← List.foldl_map (f := fun i => m.getD i 0#8) (g := calByte table), range_map_getD]
  have hpadding : ∀ (n : ℕ) (crc : SlU32), (List.range n).foldl
      (fun crc _ => calByte table crc 0#8) crc =
      (List.replicate n 0#8).foldl (calByte table) crc := by
    intro n crc
    rw [← List.foldl_map (f := fun _ => 0#8) (g := calByte table), List.map_const',
      List.length_range]
  simp only [cal, hlen, leftBytes_toNat _ h, hmessage, hpadding, padded, List.foldl_append]
  exact BitVec.xor_allOnes

/-- The checksum of a message, whatever its length, by the shift register that starts from the
reversed start value: the complement of the reversed register after the padded message. -/
def checksum (poly c : SlU32) (m : List SlU8) : SlU32 :=
  ~~~ (feed poly c.reverse ((padded m).flatMap lsbFirst)).reverse

/-- The table-driven loops compute the checksum. -/
theorem cal_eq_checksum (poly c : SlU32) {m : List SlU8} (h : m.length ≤ 65535) :
    cal (init poly) c m (BitVec.ofNat 16 m.length) = checksum poly c m := by
  have hrounds := foldl_calByte poly c.reverse (padded m)
  rw [BitVec.reverse_reverse_eq] at hrounds
  rw [cal_eq_foldl (init poly) c h, hrounds, checksum]

/-- **The checksum is a remainder.** For every polynomial, start value and message: the
complement of the reversed register of the MSB-first division of the padded message,
and that register holds the remainder of the division by `x ^ 32 + poly`. -/
theorem cal_eq_remainder (poly c : SlU32) {m : List SlU8} (h : m.length ≤ 65535) :
    let bits := (m ++ List.replicate ((4 - m.length % 4) % 4) 0#8).flatMap lsbFirst
    let register := feed poly c.reverse bits
    cal (init poly) c m (BitVec.ofNat 16 m.length) = ~~~ register.reverse ∧
      toPoly register =
        (X ^ bits.length * toPoly c.reverse + X ^ 32 * bitsPoly bits) %ₘ
          (X ^ 32 + toPoly poly) :=
  ⟨cal_eq_checksum poly c h, toPoly_feed _ _ _⟩

/-- The polynomial of Ethernet on three digits, with one byte of padding. -/
theorem cal_eq_remainder_digits :
    cal (init 0x04c11db7#32) 0xffffffff#32 [0x31#8, 0x32#8, 0x33#8] 3#16 = 0xba571416#32 ∧
      toPoly (feed 0x04c11db7#32 0xffffffff#32
          ([0x31#8, 0x32#8, 0x33#8, 0x00#8].flatMap lsbFirst)) =
        (X ^ 32 * toPoly 0xffffffff#32 +
            X ^ 32 * bitsPoly ([0x31#8, 0x32#8, 0x33#8, 0x00#8].flatMap lsbFirst)) %ₘ
          (X ^ 32 + toPoly 0x04c11db7#32) := by
  obtain ⟨hcal, hremainder⟩ := cal_eq_remainder 0x04c11db7#32 0xffffffff#32
    (show [0x31#8, 0x32#8, 0x33#8].length ≤ 65535 by decide)
  have hreverse : (0xffffffff#32).reverse = 0xffffffff#32 := by decide +kernel
  rw [hreverse] at hremainder
  exact ⟨hcal.trans (by decide +kernel), hremainder⟩

end Crc32

end Slamkit
