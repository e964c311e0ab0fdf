import Mathlib.Algebra.Field.ZMod
import Mathlib.Algebra.Polynomial.Div
import Mathlib.Data.BitVec
import Mathlib.Tactic.LinearCombination

/-!
# Division by a shift register

A shift register of `w` bits divides polynomials over the field of two elements
by `X ^ w + poly`, one message bit at a time. This file defines the register
whose leading bit is its most significant one, proves that it holds a remainder
and, if the divisor has a constant term, that it tells messages apart which
differ in a burst of at most `w` bits, and derives the reflected register, which
shifts to the right, together with the rule that lets a table take eight of its
steps at once.
-/

namespace Slamkit.Library

open Polynomial

variable {w : ℕ}

/-- One step: the message bit meets the leading bit of the register, and if they
differ the divisor is subtracted from the shifted register. -/
def feedBit (poly r : BitVec w) (b : Bool) : BitVec w :=
  if r.msb ^^ b then (r <<< 1) ^^^ poly else r <<< 1

/-- The register after a sequence of message bits. -/
def feed (poly r : BitVec w) (bits : List Bool) : BitVec w := bits.foldl (feedBit poly) r

/-- The bits of a word, least significant first. -/
def lsbFirst {v : ℕ} (x : BitVec v) : List Bool := (List.range v).map x.getLsbD

/-- Bits are fed one after the other. -/
@[simp] theorem feed_append (poly r : BitVec w) (first second : List Bool) :
    feed poly r (first ++ second) = feed poly (feed poly r first) second :=
  List.foldl_append

/-- A register that is fed its own leading bits shifts them out. -/
theorem feed_leading (poly r : BitVec w) (n : ℕ) :
    feed poly r ((List.range n).map r.getMsbD) = r <<< n := by
  induction n with
  | zero => simp [feed]
  | succ n ih =>
    have hmsb : (r <<< n).msb = r.getMsbD n := by
      simp [BitVec.msb, BitVec.getMsbD_shiftLeft]
    rw [List.range_succ, List.map_append, feed_append, ih, List.map_singleton, feed,
      List.foldl_cons, List.foldl_nil, feedBit, hmsb, Bool.xor_self, if_neg Bool.false_ne_true,
      BitVec.shiftLeft_add]

/-- A word is given by its bits. -/
theorem lsbFirst_injective {v : ℕ} : Function.Injective (lsbFirst (v := v)) := by
  intro x y h
  apply BitVec.eq_of_getLsbD_eq
  intro i hi
  have hmap : ∀ j ∈ List.range v, x.getLsbD j = y.getLsbD j := List.map_inj_left.mp h
  exact hmap i (List.mem_range.mpr hi)

@[simp] theorem lsbFirst_length {v : ℕ} (x : BitVec v) : (lsbFirst x).length = v := by
  simp [lsbFirst]

/-- Words are given by their bits one after the other. -/
theorem flatMap_lsbFirst_injective {v : ℕ} {xs ys : List (BitVec v)}
    (hlength : xs.length = ys.length) (h : xs.flatMap lsbFirst = ys.flatMap lsbFirst) :
    xs = ys := by
  induction xs generalizing ys with
  | nil => exact (List.length_eq_zero_iff.mp hlength.symm).symm
  | cons x xs ih =>
    cases ys with
    | nil => simp at hlength
    | cons y ys =>
      rw [List.flatMap_cons, List.flatMap_cons] at h
      obtain ⟨hhead, htail⟩ := List.append_inj h (by simp)
      rw [lsbFirst_injective hhead, ih (by simpa using hlength) htail]

/-- The bits of an exclusive-or. -/
theorem zipWith_lsbFirst {v : ℕ} (x y : BitVec v) :
    List.zipWith xor (lsbFirst x) (lsbFirst y) = lsbFirst (x ^^^ y) := by
  unfold lsbFirst
  rw [List.zipWith_map, List.zipWith_self]
  apply List.map_congr_left
  intro i _
  rw [BitVec.getLsbD_xor]

/-- The bits of words that are added one by one. -/
theorem flatMap_zipWith_lsbFirst {v : ℕ} {xs ys : List (BitVec v)}
    (hlength : xs.length = ys.length) :
    (List.zipWith (· ^^^ ·) xs ys).flatMap lsbFirst =
      List.zipWith xor (xs.flatMap lsbFirst) (ys.flatMap lsbFirst) := by
  induction xs generalizing ys with
  | nil => rfl
  | cons x xs ih =>
    cases ys with
    | nil => simp at hlength
    | cons y ys =>
      have htail := ih (show xs.length = ys.length by simpa using hlength)
      rw [List.zipWith_cons_cons, List.flatMap_cons, List.flatMap_cons, List.flatMap_cons,
        List.zipWith_append (by simp), zipWith_lsbFirst, htail]

/-- A step is linear in the register and the message bit. -/
theorem feedBit_xor (poly r s : BitVec w) (b c : Bool) :
    feedBit poly (r ^^^ s) (b ^^ c) = feedBit poly r b ^^^ feedBit poly s c := by
  have hlead : ((r ^^^ s).msb ^^ (b ^^ c)) = ((r.msb ^^ b) ^^ (s.msb ^^ c)) := by
    rw [BitVec.msb_xor]
    cases r.msb <;> cases s.msb <;> cases b <;> cases c <;> rfl
  unfold feedBit
  rw [hlead, BitVec.shiftLeft_xor_distrib]
  cases (r.msb ^^ b) <;> cases (s.msb ^^ c)
  · rfl
  · exact BitVec.xor_assoc ..
  · change r <<< 1 ^^^ s <<< 1 ^^^ poly = r <<< 1 ^^^ poly ^^^ s <<< 1
    rw [BitVec.xor_assoc, BitVec.xor_assoc, BitVec.xor_comm poly]
  · change r <<< 1 ^^^ s <<< 1 = r <<< 1 ^^^ poly ^^^ (s <<< 1 ^^^ poly)
    rw [BitVec.xor_comm (s <<< 1) poly, BitVec.xor_assoc, ← BitVec.xor_assoc poly poly,
      BitVec.xor_self, BitVec.zero_xor]

/-- **The register is linear** in its start and in the message. -/
theorem feed_xor (poly r s : BitVec w) {bits bits' : List Bool}
    (hlength : bits.length = bits'.length) :
    feed poly (r ^^^ s) (List.zipWith xor bits bits') = feed poly r bits ^^^ feed poly s bits' := by
  induction bits generalizing r s bits' with
  | nil =>
    obtain rfl : bits' = [] := List.length_eq_zero_iff.mp hlength.symm
    rfl
  | cons b bits ih =>
    cases bits' with
    | nil => simp at hlength
    | cons b' bits' =>
      have hstep := ih (feedBit poly r b) (feedBit poly s b')
        (show bits.length = bits'.length by simpa using hlength)
      rw [← feedBit_xor] at hstep
      exact hstep

/-- Messages leave the same register exactly if their difference leaves none. -/
theorem feed_eq_feed_iff (poly r : BitVec w) {bits bits' : List Bool}
    (hlength : bits.length = bits'.length) :
    feed poly r bits = feed poly r bits' ↔ feed poly 0#w (List.zipWith xor bits bits') = 0#w := by
  have hlinear := feed_xor poly r r hlength
  rw [BitVec.xor_self] at hlinear
  rw [hlinear, BitVec.xor_eq_zero_iff]

/-- A register that is fed the complement of its own bits forgets them. -/
theorem feed_complement (poly r : BitVec w) :
    feed poly r (lsbFirst (~~~ r.reverse)) = feed poly 0#w (List.replicate w true) := by
  have hbits : lsbFirst (~~~ r.reverse) =
      List.zipWith xor ((List.range w).map r.getMsbD) (List.replicate w true) := by
    have hones : List.replicate w true = (List.range w).map fun _ => true := by simp
    unfold lsbFirst
    rw [hones, List.zipWith_map, List.zipWith_self]
    apply List.map_congr_left
    intro i hi
    rw [BitVec.getLsbD_not, decide_eq_true (List.mem_range.mp hi), BitVec.getLsbD_reverse,
      Bool.true_and, Bool.xor_true]
  have hlinear := feed_xor poly r 0#w
    (show ((List.range w).map r.getMsbD).length = (List.replicate w true).length by simp)
  rw [BitVec.xor_zero, feed_leading] at hlinear
  rw [hbits, hlinear]
  simp

/-- The polynomial whose coefficients are the bits of a word. -/
noncomputable def toPoly (r : BitVec w) : (ZMod 2)[X] :=
  ∑ i ∈ Finset.range w, if r.getLsbD i then X ^ i else 0

/-- The polynomial whose coefficients are the given bits, leading coefficient first. -/
noncomputable def bitsPoly (bits : List Bool) : (ZMod 2)[X] :=
  bits.foldl (fun p b => X * p + if b then 1 else 0) 0

/-- The coefficients of a word. -/
theorem coeff_toPoly (r : BitVec w) (i : ℕ) :
    (toPoly r).coeff i = if r.getLsbD i then 1 else 0 := by
  have hterm : ∀ j, (if r.getLsbD j then (X : (ZMod 2)[X]) ^ j else 0).coeff i =
      if i = j then (if r.getLsbD i then 1 else 0) else 0 := by
    intro j
    by_cases hij : i = j
    · subst hij
      by_cases hbit : r.getLsbD i <;> simp [hbit]
    · by_cases hbit : r.getLsbD j <;> simp [hbit, hij, coeff_X_pow]
  rw [toPoly, finsetSum_coeff, Finset.sum_congr rfl fun j _ => hterm j, Finset.sum_ite_eq]
  by_cases hi : i < w
  · simp [hi]
  · simp [hi, BitVec.getLsbD_of_ge r i (by omega)]

/-- Exclusive-or is addition. -/
theorem toPoly_xor (x y : BitVec w) : toPoly (x ^^^ y) = toPoly x + toPoly y := by
  ext i
  rw [coeff_add, coeff_toPoly, coeff_toPoly, coeff_toPoly, BitVec.getLsbD_xor]
  cases x.getLsbD i <;> cases y.getLsbD i <;> decide

/-- A shift multiplies by `X` and drops the leading term. -/
theorem toPoly_shiftLeft (r : BitVec w) :
    toPoly (r <<< 1) + X ^ w * (if r.msb then 1 else 0) = X * toPoly r := by
  have hterm : ∀ i, (X ^ w * (if r.msb then 1 else 0) : (ZMod 2)[X]).coeff i =
      if i = w ∧ r.msb then 1 else 0 := by
    intro i
    by_cases hmsb : r.msb <;> simp [hmsb, coeff_X_pow]
  ext i
  rw [coeff_add, coeff_toPoly, hterm]
  cases i with
  | zero =>
    have hmsb : ¬ (0 = w ∧ r.msb) := by
      rintro ⟨rfl, h⟩
      simp [BitVec.of_length_zero] at h
    simp [hmsb]
  | succ i =>
    rw [coeff_X_mul, coeff_toPoly, BitVec.getLsbD_shiftLeft]
    rcases Nat.lt_trichotomy (i + 1) w with hlt | heq | hgt
    · simp [hlt, show i + 1 ≠ w by omega]
    · have hmsb : r.msb = r.getLsbD i := by
        rw [BitVec.msb_eq_getLsbD_last, show w - 1 = i by omega]
      simp [heq, hmsb]
    · simp [show ¬ i + 1 < w by omega, show i + 1 ≠ w by omega,
        BitVec.getLsbD_of_ge r i (by omega)]

/-- The degree of a word is below its width. -/
theorem degree_toPoly_lt (r : BitVec w) : (toPoly r).degree < w := by
  rw [degree_lt_iff_coeff_zero]
  intro i hi
  simp [coeff_toPoly, BitVec.getLsbD_of_ge r i hi]

/-- One step subtracts the divisor or not. -/
theorem toPoly_feedBit (poly r : BitVec w) (b : Bool) :
    toPoly (feedBit poly r b) + (X ^ w + toPoly poly) * (if r.msb ^^ b then 1 else 0) =
      X * toPoly r + X ^ w * (if b then 1 else 0) := by
  have htwo : ∀ p : (ZMod 2)[X], p + p = 0 := CharTwo.add_self_eq_zero
  have hpoly := htwo (toPoly poly)
  have hlead := htwo (X ^ w : (ZMod 2)[X])
  rw [← toPoly_shiftLeft, feedBit]
  cases hmsb : r.msb <;> cases b
  · simp
  · simp only [Bool.false_xor, if_true, Bool.false_eq_true, if_false, toPoly_xor]
    linear_combination hpoly
  · simp only [Bool.xor_false, if_true, Bool.false_eq_true, if_false, toPoly_xor]
    linear_combination hpoly
  · simp only [Bool.xor_self, if_true, Bool.false_eq_true, if_false]
    linear_combination -hlead

/-- The message polynomial, one bit at a time. -/
theorem bitsPoly_append_singleton (bits : List Bool) (b : Bool) :
    bitsPoly (bits ++ [b]) = X * bitsPoly bits + if b then 1 else 0 := by
  simp [bitsPoly]

/-- **The register holds a remainder.** After any bits it is the remainder of the
message times `X ^ w`, with the start value in front, by `X ^ w + poly`. -/
theorem toPoly_feed (poly r : BitVec w) (bits : List Bool) :
    toPoly (feed poly r bits) =
      (X ^ bits.length * toPoly r + X ^ w * bitsPoly bits) %ₘ (X ^ w + toPoly poly) := by
  have hmonic : (X ^ w + toPoly poly).Monic := monic_X_pow_add (degree_toPoly_lt poly)
  have hdegree : (X ^ w + toPoly poly).degree = (w : WithBot ℕ) := by
    rw [degree_add_eq_left_of_degree_lt] <;> simp [degree_toPoly_lt]
  have hquotient : ∃ q, toPoly (feed poly r bits) + (X ^ w + toPoly poly) * q =
      X ^ bits.length * toPoly r + X ^ w * bitsPoly bits := by
    induction bits using List.reverseRecOn with
    | nil => exact ⟨0, by simp [feed, bitsPoly]⟩
    | append_singleton bits b ih =>
      obtain ⟨q, hq⟩ := ih
      refine ⟨X * q + (if (feed poly r bits).msb ^^ b then 1 else 0), ?_⟩
      have hstep := toPoly_feedBit poly (feed poly r bits) b
      rw [feed_append, bitsPoly_append_singleton, List.length_append, List.length_singleton,
        pow_succ]
      simp only [feed, List.foldl_cons, List.foldl_nil] at hstep hq ⊢
      linear_combination hstep + X * hq
  obtain ⟨q, hq⟩ := hquotient
  refine ((div_modByMonic_unique q _ hmonic ⟨hq, ?_⟩).2).symm
  rw [hdegree]
  exact degree_toPoly_lt _

/-- Only the zero word has the zero polynomial. -/
theorem toPoly_eq_zero_iff (r : BitVec w) : toPoly r = 0 ↔ r = 0#w := by
  constructor
  · intro hzero
    apply BitVec.eq_of_getLsbD_eq
    intro i _
    have hcoeff := congrArg (coeff · i) hzero
    simp only [coeff_toPoly, coeff_zero] at hcoeff
    cases hbit : r.getLsbD i with
    | false => simp
    | true => simp [hbit] at hcoeff
  · rintro rfl
    simp [toPoly]

/-- A message leaves nothing in an empty register exactly if the divisor divides it. -/
theorem feed_eq_zero_iff (poly : BitVec w) (bits : List Bool) :
    feed poly 0#w bits = 0#w ↔ X ^ w + toPoly poly ∣ X ^ w * bitsPoly bits := by
  have hmonic : (X ^ w + toPoly poly).Monic := monic_X_pow_add (degree_toPoly_lt poly)
  have hzero : toPoly (0#w) = 0 := (toPoly_eq_zero_iff _).mpr rfl
  rw [← toPoly_eq_zero_iff, toPoly_feed, hzero, mul_zero, zero_add,
    modByMonic_eq_zero_iff_dvd hmonic]

/-- Two words agree on their lowest `k` places. -/
def AgreeBelow (k : ℕ) (x y : BitVec w) : Prop := ∀ i < k, x.getLsbD i = y.getLsbD i

/-- With a constant term in the divisor, the lowest place after a step tells whether the
divisor was subtracted, and the places above it tell the places before the step. -/
theorem AgreeBelow.before_step {poly : BitVec w} (hpoly : poly.getLsbD 0 = true)
    {r r' : BitVec w} {b b' : Bool} {k : ℕ} (hk : k < w)
    (h : AgreeBelow (k + 1) (feedBit poly r b) (feedBit poly r' b')) :
    (r.msb ^^ b) = (r'.msb ^^ b') ∧ AgreeBelow k r r' := by
  have hlow : ∀ (x : BitVec w) (c : Bool), (feedBit poly x c).getLsbD 0 = (x.msb ^^ c) := by
    intro x c
    cases hx : (x.msb ^^ c) <;> simp [feedBit, hx, hpoly]
  have hsame : (r.msb ^^ b) = (r'.msb ^^ b') := by
    rw [← hlow, ← hlow]
    exact h 0 (Nat.succ_pos k)
  refine ⟨hsame, fun i hi => ?_⟩
  have hplace := h (i + 1) (Nat.succ_lt_succ hi)
  have hwidth : i + 1 < w := Nat.lt_of_le_of_lt hi hk
  rw [BitVec.getLsbD_eq_getElem (by omega), BitVec.getLsbD_eq_getElem (by omega)]
  cases hx : (r'.msb ^^ b') <;>
    simpa [feedBit, hsame, hx, hwidth] using hplace

/-- Words that agree on all places are equal. -/
theorem AgreeBelow.eq {x y : BitVec w} (h : AgreeBelow w x y) : x = y :=
  BitVec.eq_of_getLsbD_eq h

/-- A step loses nothing: the register before it can be told from the one after it. -/
theorem feedBit_injective {poly : BitVec w} (hpoly : poly.getLsbD 0 = true) (b : Bool) :
    Function.Injective (feedBit poly · b) := by
  intro r r' h
  obtain ⟨k, rfl⟩ : ∃ k, w = k + 1 :=
    Nat.exists_eq_succ_of_ne_zero fun hw => by simp [hw] at hpoly
  obtain ⟨hsame, hbelow⟩ := AgreeBelow.before_step hpoly (Nat.lt_succ_self k)
    (fun i _ => congrArg (·.getLsbD i) h)
  have hmsb : r.msb = r'.msb := by simpa using hsame
  apply AgreeBelow.eq
  intro i hi
  rcases Nat.lt_or_eq_of_le (Nat.lt_succ_iff.mp hi) with hlt | rfl
  · exact hbelow i hlt
  · simpa [BitVec.msb_eq_getLsbD_last] using hmsb

/-- Any bits lose nothing. -/
theorem feed_injective {poly : BitVec w} (hpoly : poly.getLsbD 0 = true) (bits : List Bool) :
    Function.Injective (feed poly · bits) := by
  induction bits with
  | nil => exact fun r r' h => h
  | cons b bits ih => exact fun r r' h => feedBit_injective hpoly b (ih h)

/-- At most `w` message bits stay apart in the register: each step moves what the steps
before it have told apart one place up. -/
theorem feed_eq_feed {poly : BitVec w} (hpoly : poly.getLsbD 0 = true) {r r' : BitVec w}
    {bits bits' : List Bool} (hlength : bits.length = bits'.length) (hle : bits.length ≤ w)
    (h : feed poly r bits = feed poly r' bits') :
    AgreeBelow (w - bits.length) r r' ∧ (r = r' → bits = bits') := by
  induction bits generalizing r r' bits' with
  | nil =>
    obtain rfl : bits' = [] := List.length_eq_zero_iff.mp hlength.symm
    have hr : r = r' := h
    exact ⟨fun i _ => by rw [hr], fun _ => rfl⟩
  | cons b bits ih =>
    cases bits' with
    | nil => simp at hlength
    | cons b' bits' =>
      rw [List.length_cons] at hle
      obtain ⟨hagree, htail⟩ := ih (by simpa using hlength) (by omega)
        (show feed poly (feedBit poly r b) bits = feed poly (feedBit poly r' b') bits' from h)
      have hplaces : w - bits.length = (w - (bits.length + 1)) + 1 := by omega
      rw [hplaces] at hagree
      obtain ⟨hsame, hbelow⟩ := AgreeBelow.before_step hpoly (by omega) hagree
      refine ⟨hbelow, ?_⟩
      rintro rfl
      obtain rfl : b = b' := by simpa using hsame
      rw [htail rfl]

/-- **A burst is detected.** Messages that differ only in at most `w` consecutive bits leave
different registers. -/
theorem burst_eq_of_feed_eq {poly : BitVec w} (hpoly : poly.getLsbD 0 = true) (r : BitVec w)
    {front bits bits' back : List Bool} (hlength : bits.length = bits'.length)
    (hle : bits.length ≤ w)
    (h : feed poly r (front ++ bits ++ back) = feed poly r (front ++ bits' ++ back)) :
    bits = bits' := by
  simp only [feed_append] at h
  exact (feed_eq_feed hpoly hlength hle (feed_injective hpoly back h)).2 rfl

/-- One step of the reflected register without a message bit: it shifts to the right. -/
def shiftStep (poly r : BitVec w) : BitVec w :=
  if r.getLsbD 0 then poly ^^^ (r >>> 1) else r >>> 1

/-- A bit in the lowest place of a word. -/
def lowBit (w : ℕ) (b : Bool) : BitVec w := (BitVec.ofBool b).setWidth w

/-- Reversal of an exclusive-or. -/
theorem reverse_xor (x y : BitVec w) : (x ^^^ y).reverse = x.reverse ^^^ y.reverse := by
  ext i hi
  simp [BitVec.getElem_reverse]

/-- A left shift is reversed to a right shift. -/
theorem reverse_shiftLeft_one (x : BitVec w) : (x <<< 1).reverse = x.reverse >>> 1 := by
  ext i hi
  rw [BitVec.getElem_reverse, BitVec.getElem_ushiftRight, BitVec.getLsbD_reverse,
    BitVec.getMsbD_shiftLeft, Nat.add_comm]

/-- The lowest place of a word, and the others. -/
theorem getLsbD_lowBit (b : Bool) (i : ℕ) :
    (lowBit w b).getLsbD i = (decide (i < w) && (decide (i = 0) && b)) := by
  simp [lowBit]

/-- A step of the register, reversed, is a step of the reflected one. -/
theorem reverse_feedBit (poly r : BitVec w) (b : Bool) :
    (feedBit poly r b).reverse = shiftStep poly.reverse (r.reverse ^^^ lowBit w b) := by
  rcases Nat.eq_zero_or_pos w with rfl | hw
  · exact BitVec.eq_of_zero_length rfl
  · have hlow : (r.reverse ^^^ lowBit w b).getLsbD 0 = (r.msb ^^ b) := by
      rw [BitVec.getLsbD_xor, BitVec.getLsbD_reverse, getLsbD_lowBit]
      simp [hw, BitVec.msb]
    have hshift : (r.reverse ^^^ lowBit w b) >>> 1 = r.reverse >>> 1 := by
      ext i hi
      simp [getLsbD_lowBit]
    rw [feedBit, shiftStep, hlow, hshift]
    by_cases h : (r.msb ^^ b) = true
    · rw [if_pos h, if_pos h, reverse_xor, reverse_shiftLeft_one, BitVec.xor_comm]
    · rw [if_neg h, if_neg h, reverse_shiftLeft_one]

/-- The register after any bits, reversed, by the reflected one. -/
theorem reverse_feed (poly r : BitVec w) (bits : List Bool) :
    (feed poly r bits).reverse =
      bits.foldl (fun x b => shiftStep poly.reverse (x ^^^ lowBit w b)) r.reverse := by
  induction bits generalizing r with
  | nil => rfl
  | cons b bits ih =>
    rw [List.foldl_cons, ← reverse_feedBit, ← ih]
    rfl

/-- Bits above the lowest place pass through a step. -/
theorem shiftStep_xor (poly x : BitVec w) {y : BitVec w} (hy : y.getLsbD 0 = false) :
    shiftStep poly (x ^^^ y) = shiftStep poly x ^^^ (y >>> 1) := by
  have hlow : (x ^^^ y).getLsbD 0 = x.getLsbD 0 := by rw [BitVec.getLsbD_xor, hy, Bool.xor_false]
  have hshift : (x ^^^ y) >>> 1 = x >>> 1 ^^^ y >>> 1 := BitVec.ushiftRight_xor_distrib ..
  rw [shiftStep, shiftStep, hlow, hshift]
  by_cases h : x.getLsbD 0 = true
  · rw [if_pos h, if_pos h, BitVec.xor_assoc]
  · rw [if_neg h, if_neg h]

/-- Bits above the lowest `n` places pass through `n` steps. -/
theorem shiftStep_iterate_xor (poly x : BitVec w) {y : BitVec w} {n : ℕ}
    (hy : ∀ i < n, y.getLsbD i = false) :
    (shiftStep poly)^[n] (x ^^^ y) = (shiftStep poly)^[n] x ^^^ (y >>> n) := by
  induction n generalizing x y with
  | zero => simp
  | succ n ih =>
    have htail : ∀ i < n, (y >>> 1).getLsbD i = false := by
      intro i hi
      rw [BitVec.getLsbD_ushiftRight]
      exact hy (1 + i) (by omega)
    rw [Function.iterate_succ_apply, Function.iterate_succ_apply,
      shiftStep_xor poly x (hy 0 (by omega)), ih _ htail, ← BitVec.shiftRight_add, Nat.add_comm]

/-- Message bits that enter one at a time may all be added before the first step. -/
theorem foldl_shiftStep (poly r x : BitVec w) {n : ℕ} (hx : ∀ i, n ≤ i → x.getLsbD i = false) :
    ((List.range n).map x.getLsbD).foldl (fun y b => shiftStep poly (y ^^^ lowBit w b)) r =
      (shiftStep poly)^[n] (r ^^^ x) := by
  induction n generalizing r x with
  | zero =>
    have hzero : x = 0#w := BitVec.eq_of_getLsbD_eq fun i _ => by simp [hx i (by omega)]
    simp [hzero]
  | succ n ih =>
    have htail : ∀ i, n ≤ i → (x >>> 1).getLsbD i = false := by
      intro i hi
      rw [BitVec.getLsbD_ushiftRight]
      exact hx (1 + i) (by omega)
    -- the lowest bit of the message enters now, the others pass through this step
    have hsplit : r ^^^ x = (r ^^^ lowBit w (x.getLsbD 0)) ^^^ (x ^^^ lowBit w (x.getLsbD 0)) := by
      rw [BitVec.xor_assoc, BitVec.xor_comm x, ← BitVec.xor_assoc (lowBit _ _), BitVec.xor_self,
        BitVec.zero_xor]
    have hlow : (x ^^^ lowBit w (x.getLsbD 0)).getLsbD 0 = false := by
      rcases Nat.eq_zero_or_pos w with rfl | hw
      · simp
      · rw [BitVec.getLsbD_xor, getLsbD_lowBit]
        simp [hw]
    have hshift : (x ^^^ lowBit w (x.getLsbD 0)) >>> 1 = x >>> 1 := by
      ext i hi
      simp [getLsbD_lowBit]
    have hbits : (List.range n).map (fun i => x.getLsbD (i + 1)) =
        (List.range n).map (x >>> 1).getLsbD := by
      apply List.map_congr_left
      intro i _
      rw [BitVec.getLsbD_ushiftRight, Nat.add_comm]
    rw [List.range_succ_eq_map, List.map_cons, List.foldl_cons, List.map_map,
      Function.iterate_succ_apply, hsplit, shiftStep_xor poly _ hlow, hshift, ← ih _ _ htail,
      ← hbits]
    rfl

/-- **A table takes several steps at once.** Feeding a word of `v` bits into the reflected
register is a shift by `v` places and the effect of `v` steps on the lowest places. -/
theorem foldl_lsbFirst {v : ℕ} (hv : v ≤ w) (poly r : BitVec w) (x : BitVec v) :
    (lsbFirst x).foldl (fun y b => shiftStep poly (y ^^^ lowBit w b)) r =
      (r >>> v) ^^^ (shiftStep poly)^[v] (((r ^^^ x.setWidth w).setWidth v).setWidth w) := by
  set u := r ^^^ x.setWidth w with hu
  set low := (u.setWidth v).setWidth w with hlow
  have hbits : lsbFirst x = (List.range v).map (x.setWidth w).getLsbD := by
    apply List.map_congr_left
    intro i hi
    have hi' : i < w := Nat.lt_of_lt_of_le (List.mem_range.mp hi) hv
    simp [hi']
  have hx : ∀ i, v ≤ i → (x.setWidth w).getLsbD i = false := by
    intro i hi
    simp [BitVec.getLsbD_of_ge x i hi]
  have hsplit : u = low ^^^ (u ^^^ low) := by
    rw [BitVec.xor_comm u, ← BitVec.xor_assoc, BitVec.xor_self, BitVec.zero_xor]
  have hhigh : ∀ i < v, (u ^^^ low).getLsbD i = false := by
    intro i hi
    have hi' : i < w := Nat.lt_of_lt_of_le hi hv
    simp [hlow, hi, hi']
  have hshift : (u ^^^ low) >>> v = r >>> v := by
    ext i hi
    simp [hu, hlow]
  rw [hbits, foldl_shiftStep poly r _ hx, ← hu, hsplit, shiftStep_iterate_xor poly low hhigh,
    hshift, BitVec.xor_comm]

end Slamkit.Library
