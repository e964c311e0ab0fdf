import Slamkit.CrcDetection

/-!
# What a receiver can check

Whether `cal` tells two messages apart depends only on their difference, and a receiver that runs
`cal` over a message with the checksum behind it finds the same word whatever the message.
-/

namespace Slamkit

open Library Polynomial

namespace Crc32

/-- The difference of two messages. -/
def difference (m m' : List SlU8) : List SlU8 := List.zipWith (· ^^^ ·) m m'

/-- Padding two messages of one length pads their difference. -/
theorem padded_difference {m m' : List SlU8} (hlength : m.length = m'.length) :
    padded (difference m m') = difference (padded m) (padded m') := by
  have hdifference : (difference m m').length = m.length := by
    unfold difference
    rw [List.length_zipWith, ← hlength, Nat.min_self]
  unfold padded
  rw [hdifference, ← hlength]
  unfold difference
  rw [List.zipWith_append hlength, List.zipWith_replicate', BitVec.xor_zero]

/-- Checksums are equal exactly if the registers are. -/
theorem checksum_eq_iff (poly c : SlU32) (m m' : List SlU8) :
    checksum poly c m = checksum poly c m' ↔
      feed poly c.reverse ((padded m).flatMap lsbFirst) =
        feed poly c.reverse ((padded m').flatMap lsbFirst) := by
  refine ⟨feed_eq_of_checksum_eq, fun h => ?_⟩
  unfold checksum
  rw [h]

/-- **Which errors go undetected.** For every polynomial, every start value and every two messages
of one length, the checksums are equal exactly if `x ^ 32 + poly` divides `x ^ 32` times the padded
difference of the messages. -/
theorem cal_eq_iff_dvd (poly c : SlU32) {m m' : List SlU8} (hlength : m.length = m'.length)
    (h : m.length ≤ 65535) :
    cal (init poly) c m (BitVec.ofNat 16 m.length) =
        cal (init poly) c m' (BitVec.ofNat 16 m'.length) ↔
      X ^ 32 + toPoly poly ∣ X ^ 32 * bitsPoly ((padded (difference m m')).flatMap lsbFirst) := by
  have hpadded : (padded m).length = (padded m').length := by
    unfold padded
    rw [List.length_append, List.length_append, List.length_replicate, List.length_replicate,
      hlength]
  have hbits : ((padded m).flatMap lsbFirst).length = ((padded m').flatMap lsbFirst).length := by
    simp [List.length_flatMap, hpadded]
  rw [cal_eq_checksum poly c h, cal_eq_checksum poly c (hlength ▸ h), checksum_eq_iff,
    feed_eq_feed_iff poly c.reverse hbits, ← flatMap_zipWith_lsbFirst hpadded, ← feed_eq_zero_iff,
    padded_difference hlength]
  rfl

/-- Two messages whose difference is the polynomial of Ethernet itself, at a byte boundary. -/
theorem cal_eq_iff_dvd_generator :
    cal (init 0x04c11db7#32) 0xffffffff#32 [0x41#8, 0x20#8, 0x10#8, 0x00#8, 0x07#8] 5#16 =
        cal (init 0x04c11db7#32) 0xffffffff#32 [0x00#8, 0x26#8, 0x61#8, 0xdb#8, 0x06#8] 5#16 ∧
      X ^ 32 + toPoly 0x04c11db7#32 ∣ X ^ 32 * bitsPoly ((padded (difference
        [0x41#8, 0x20#8, 0x10#8, 0x00#8, 0x07#8]
        [0x00#8, 0x26#8, 0x61#8, 0xdb#8, 0x06#8])).flatMap lsbFirst) := by
  have hequal : cal (init 0x04c11db7#32) 0xffffffff#32
      [0x41#8, 0x20#8, 0x10#8, 0x00#8, 0x07#8] 5#16 = cal (init 0x04c11db7#32) 0xffffffff#32
      [0x00#8, 0x26#8, 0x61#8, 0xdb#8, 0x06#8] 5#16 := by decide +kernel
  have hlength : ([0x41#8, 0x20#8, 0x10#8, 0x00#8, 0x07#8] : List SlU8).length =
      ([0x00#8, 0x26#8, 0x61#8, 0xdb#8, 0x06#8] : List SlU8).length := rfl
  exact ⟨hequal, (cal_eq_iff_dvd 0x04c11db7#32 0xffffffff#32 hlength (by decide)).mp hequal⟩

/-- What `cal` returns for a whole message with its checksum behind it. -/
def residue (poly : SlU32) : SlU32 := ~~~ (feed poly 0#32 (List.replicate 32 true)).reverse

/-- The residue of Ethernet. -/
example : residue 0x04c11db7#32 = 0x2144df1c#32 := by decide +kernel

/-- The bytes of a number have its bits. -/
theorem flatMap_littleEndian (n x : ℕ) :
    (littleEndian n x).flatMap lsbFirst = (List.range (8 * n)).map x.testBit := by
  induction n generalizing x with
  | zero => rfl
  | succ n ih =>
    have hbyte : lsbFirst (BitVec.ofNat 8 x) = (List.range 8).map x.testBit := by
      apply List.map_congr_left
      intro i hi
      have hlt := List.mem_range.mp hi
      rw [BitVec.getLsbD_ofNat, decide_eq_true hlt, Bool.true_and]
    have hrest : (List.range (8 * n)).map (x / 256).testBit =
        (List.range (8 * n)).map (x.testBit ∘ (8 + ·)) := by
      apply List.map_congr_left
      intro i _
      rw [show x / 256 = x / 2 ^ 8 from rfl, Nat.testBit_div_two_pow, Function.comp_apply,
        Nat.add_comm]
    rw [littleEndian, List.flatMap_cons, ih, hbyte, hrest, Nat.mul_succ, Nat.add_comm (8 * n),
      List.range_add, List.map_append, List.map_map]

/-- The bytes of a word, lowest first, have its bits, lowest first. -/
theorem flatMap_littleEndian_word (x : SlU32) :
    (littleEndian 4 x.toNat).flatMap lsbFirst = lsbFirst x := flatMap_littleEndian 4 x.toNat

/-- A whole message needs no padding, and neither does one with four more bytes. -/
theorem padded_of_whole {m : List SlU8} (hwhole : m.length % 4 = 0) : padded m = m := by
  unfold padded
  rw [hwhole]
  exact List.append_nil m

/-- **The residue.** For every polynomial whose lowest bit is set, every start value and every
message of whole words: `cal` over the message with four more bytes returns the residue exactly if
these bytes are the checksum of the message, lowest byte first. -/
theorem cal_residue_iff {poly : SlU32} (hpoly : poly.getLsbD 0 = true) (c : SlU32)
    {m tail : List SlU8} (hwhole : m.length % 4 = 0) (htail : tail.length = 4)
    (h : (m ++ tail).length ≤ 65535) :
    cal (init poly) c (m ++ tail) (BitVec.ofNat 16 (m ++ tail).length) = residue poly ↔
      tail = littleEndian 4 (cal (init poly) c m (BitVec.ofNat 16 m.length)).toNat := by
  have hlength : m.length ≤ 65535 := by
    rw [List.length_append] at h
    omega
  have hwhole' : (m ++ tail).length % 4 = 0 := by
    rw [List.length_append]
    omega
  rw [cal_eq_checksum poly c h, cal_eq_checksum poly c hlength]
  unfold checksum residue
  rw [padded_of_whole hwhole, padded_of_whole hwhole', List.flatMap_append, feed_append]
  set register := feed poly c.reverse (m.flatMap lsbFirst)
  -- the checksum behind the message makes the register forget it
  have hown : feed poly register ((littleEndian 4 (~~~ register.reverse).toNat).flatMap lsbFirst) =
      feed poly 0#32 (List.replicate 32 true) := by
    rw [flatMap_littleEndian_word, feed_complement]
  rw [BitVec.not_inj]
  constructor
  · intro hequal
    have hfeed : feed poly register (tail.flatMap lsbFirst) =
        feed poly register ((littleEndian 4 (~~~ register.reverse).toNat).flatMap lsbFirst) := by
      rw [hown, ← BitVec.reverse_reverse_eq (x := feed poly register (tail.flatMap lsbFirst)),
        hequal, BitVec.reverse_reverse_eq]
    have hbits := (feed_eq_feed hpoly (by simp [List.length_flatMap, htail])
      (by simp [List.length_flatMap, htail]) hfeed).2 rfl
    exact flatMap_lsbFirst_injective (by simp [htail]) hbits
  · rintro rfl
    rw [hown]

/-- The checksum of four letters stands behind them. -/
theorem cal_residue_iff_letters :
    cal (init 0x04c11db7#32) 0xffffffff#32
        ([0x49#8, 0x4d#8, 0x55#8, 0x31#8] ++ littleEndian 4 (cal (init 0x04c11db7#32)
          0xffffffff#32 [0x49#8, 0x4d#8, 0x55#8, 0x31#8] 4#16).toNat) 8#16 =
      residue 0x04c11db7#32 :=
  (cal_residue_iff (by decide) 0xffffffff#32 (m := [0x49#8, 0x4d#8, 0x55#8, 0x31#8]) rfl
    (littleEndian_length 4 _) (by decide +kernel)).mpr rfl

end Crc32

end Slamkit
