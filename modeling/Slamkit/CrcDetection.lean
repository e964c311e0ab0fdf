import Slamkit.Crc

/-!
# What the checksum detects

For a polynomial with a constant term the checksum tells apart messages that differ
in a burst of at most four bytes, wherever the burst stands and whatever follows it,
the padding included.
-/

namespace Slamkit

open Library

namespace Crc32

/-- Checksums are equal only if the registers are. -/
theorem feed_eq_of_checksum_eq {poly c : SlU32} {m m' : List SlU8}
    (h : checksum poly c m = checksum poly c m') :
    feed poly c.reverse ((padded m).flatMap lsbFirst) =
      feed poly c.reverse ((padded m').flatMap lsbFirst) := by
  have hreverse := BitVec.not_inj.mp h
  rw [← BitVec.reverse_reverse_eq (x := feed poly c.reverse ((padded m).flatMap lsbFirst)),
    hreverse, BitVec.reverse_reverse_eq]

/-- The padding stands behind what is in front of it. -/
theorem padded_append (front back : List SlU8) :
    padded (front ++ back) = front ++ (back ++
      List.replicate ((4 - (front.length + back.length) % 4) % 4) 0#8) := by
  rw [padded, List.append_assoc, List.length_append]

/-- A burst of at most four bytes changes the checksum. -/
theorem checksum_ne_of_window {poly : SlU32} (hpoly : poly.getLsbD 0 = true) (c : SlU32)
    {front window window' back : List SlU8} (hlength : window.length = window'.length)
    (hle : window.length ≤ 4) (hne : window ≠ window') :
    checksum poly c (front ++ window ++ back) ≠ checksum poly c (front ++ window' ++ back) := by
  intro h
  have hfeed := feed_eq_of_checksum_eq h
  rw [padded_append, padded_append, List.length_append, List.length_append, hlength] at hfeed
  simp only [List.flatMap_append] at hfeed
  have hbits := burst_eq_of_feed_eq hpoly c.reverse
    (by simp [List.length_flatMap, hlength]) (by simp [List.length_flatMap]; omega) hfeed
  exact hne (flatMap_lsbFirst_injective hlength hbits)

/-- **Bursts are detected.** For every polynomial whose lowest bit is set, every start value
and every two different messages of one length that agree outside a window of four
consecutive bytes, the table-driven checksums differ. -/
theorem cal_ne_of_burst {poly : SlU32} (hpoly : poly.getLsbD 0 = true) (c : SlU32)
    {m m' : List SlU8} (hlength : m.length = m'.length) (h : m.length ≤ 65535) (hne : m ≠ m')
    (start : ℕ) (houtside : ∀ i, i < start ∨ start + 4 ≤ i → m[i]? = m'[i]?) :
    cal (init poly) c m (BitVec.ofNat 16 m.length) ≠
      cal (init poly) c m' (BitVec.ofNat 16 m'.length) := by
  have hsplit : ∀ x : List SlU8,
      x = x.take start ++ (x.drop start).take 4 ++ x.drop (start + 4) := by
    intro x
    rw [List.append_assoc, ← List.drop_drop, List.take_append_drop, List.take_append_drop]
  have hfront : m.take start = m'.take start := by
    apply List.ext_getElem?
    intro i
    rw [List.getElem?_take, List.getElem?_take]
    by_cases hi : i < start
    · rw [if_pos hi, if_pos hi, houtside i (.inl hi)]
    · rw [if_neg hi, if_neg hi]
  have hback : m.drop (start + 4) = m'.drop (start + 4) := by
    apply List.ext_getElem?
    intro i
    rw [List.getElem?_drop, List.getElem?_drop]
    exact houtside _ (.inr (Nat.le_add_right _ _))
  have hwindow : (m.drop start).take 4 ≠ (m'.drop start).take 4 := by
    intro hwindow
    apply hne
    rw [hsplit m, hsplit m', hfront, hwindow, hback]
  rw [cal_eq_checksum poly c h, cal_eq_checksum poly c (hlength ▸ h), hsplit m, hsplit m',
    hfront, hback]
  exact checksum_ne_of_window hpoly c (by simp [hlength]) (by simp) hwindow

/-- Two messages that differ in the first and the last place of a window. -/
theorem cal_ne_of_burst_window :
    cal (init 0x04c11db7#32) 0xffffffff#32 [0x00#8, 0x01#8, 0x00#8, 0x00#8, 0x02#8] 5#16 ≠
      cal (init 0x04c11db7#32) 0xffffffff#32 [0x00#8, 0x05#8, 0x00#8, 0x00#8, 0x82#8] 5#16 := by
  refine cal_ne_of_burst (by decide) 0xffffffff#32
    (show [0x00#8, 0x01#8, 0x00#8, 0x00#8, 0x02#8].length =
      [0x00#8, 0x05#8, 0x00#8, 0x00#8, 0x82#8].length from rfl) (by decide) (by decide) 1 ?_
  rintro (_ | _ | _ | _ | _ | i) hi <;> first | rfl | omega

end Crc32

end Slamkit
