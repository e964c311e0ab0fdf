import Mathlib.Data.List.TakeWhile
import Slamkit.CrcDetection

/-!
# The checksum of a buffer

`getResult` of `sl_crc.cpp` builds the table on its first call and keeps a flag of its
own that says so, while the table is shared with the exported `init`; and it passes a
length of 32 bits to `cal`, which takes one of 16. This file says what a call of
`getResult` returns after any calls of the exported functions.
-/

namespace Slamkit

open Library

namespace Crc32

/-- The static data of the file: `table`, and `tmp` of `getResult`. -/
structure Statics where
  table : Table
  tmp : SlU8

/-- Static data is zero when the program starts. -/
def Statics.start : Statics := ⟨fun _ => 0#32, 0#8⟩

/-- The polynomial of `getResult`. -/
def ownPoly : SlU32 := 0x4C11DB7#32

/-- `getResult` on a buffer of at least `len` bytes. The length is cut to the 16 bits of the
parameter of `cal`. -/
def getResult (s : Statics) (ptr : List SlU8) (len : SlU32) : SlU32 × Statics :=
  let s := if s.tmp ≠ 1#8 then ⟨init ownPoly, 1#8⟩ else s
  (cal s.table 0xFFFFFFFF#32 ptr (len.setWidth 16), s)

/-- A call of an exported function. -/
inductive Call where
  | init (poly : SlU32)
  | cal (crc : SlU32) (input : List SlU8) (len : SlU16)
  | getResult (ptr : List SlU8) (len : SlU32)
  deriving DecidableEq

/-- The static data after a call. -/
def Call.run (s : Statics) : Call → Statics
  | .init poly => { s with table := Crc32.init poly }
  | .cal .. => s
  | .getResult ptr len => (Crc32.getResult s ptr len).2

/-- What `getResult` returns for a whole buffer after some calls from program start. -/
def resultAfter (before : List Call) (m : List SlU8) : SlU32 :=
  (getResult (before.foldl Call.run .start) m (BitVec.ofNat 32 m.length)).1

/-- The checksum `getResult` stands for: that of all bytes of the buffer. -/
def ownChecksum (m : List SlU8) : SlU32 := checksum ownPoly 0xFFFFFFFF#32 m

/-- A call of `getResult`. -/
def Call.isGetResult : Call → Bool
  | .getResult .. => true
  | _ => false

/-- The polynomial a call passes to `init`. -/
def Call.poly? : Call → Option SlU32
  | .init poly => some poly
  | _ => none

/-- The polynomial last passed to `init` since the first call of `getResult`. -/
def laterPoly (before : List Call) : Option SlU32 :=
  ((before.dropWhile (!·.isGetResult)).filterMap Call.poly?).getLast?

/-- Since the first call of `getResult`, the table was last built for its polynomial. -/
def OwnTable (before : List Call) : Prop := ∀ poly, laterPoly before = some poly → poly = ownPoly

/-- The polynomial of the table that `getResult` uses after some calls. -/
def polyInUse (before : List Call) : SlU32 := (laterPoly before).getD ownPoly

/-- An own table is that of the own polynomial. -/
theorem OwnTable.polyInUse_eq {before : List Call} (hown : OwnTable before) :
    polyInUse before = ownPoly := by
  rw [polyInUse]
  cases hlater : laterPoly before with
  | none => rfl
  | some poly => exact hown poly hlater

/-- Before the first call of `getResult` there are no later calls. -/
theorem dropWhile_of_no_getResult {before : List Call}
    (h : before.any Call.isGetResult = false) : before.dropWhile (!·.isGetResult) = [] := by
  simpa [List.dropWhile_eq_nil_iff] using h

/-- One more call. -/
theorem laterPoly_append_singleton (before : List Call) (call : Call) :
    laterPoly (before ++ [call]) =
      if before.any Call.isGetResult then call.poly?.or (laterPoly before) else none := by
  rw [laterPoly, List.dropWhile_append]
  cases hany : before.any Call.isGetResult with
  | false =>
    rw [dropWhile_of_no_getResult hany]
    cases call <;> rfl
  | true =>
    have hne : before.dropWhile (!·.isGetResult) ≠ [] := by
      simpa [List.dropWhile_eq_nil_iff] using hany
    rw [if_neg (by simpa using hne), List.filterMap_append]
    cases call <;> simp [Call.poly?, laterPoly]

/-- The flag and the table after any calls: the flag is set by the first call of `getResult`,
and from then on the table is the one built last. -/
theorem statics_after (before : List Call) :
    let s := before.foldl Call.run .start
    (before.any Call.isGetResult = false → s.tmp = 0#8) ∧
      (before.any Call.isGetResult = true →
        s.tmp = 1#8 ∧ s.table = init (polyInUse before)) := by
  induction before using List.reverseRecOn with
  | nil => exact ⟨fun _ => rfl, by simp⟩
  | append_singleton before call ih =>
    obtain ⟨hunset, hset⟩ := ih
    simp only [List.foldl_append, List.foldl_cons, List.foldl_nil, List.any_append,
      polyInUse, laterPoly_append_singleton]
    generalize before.foldl Call.run .start = s at hunset hset
    cases hany : before.any Call.isGetResult with
    | false =>
      have htmp := hunset hany
      cases call <;> simp [Call.run, Call.isGetResult, getResult, htmp]
    | true =>
      obtain ⟨htmp, htable⟩ := hset hany
      cases call <;>
        simp [Call.run, Call.isGetResult, Call.poly?, getResult, polyInUse, htmp, htable]

/-- `cal` reads as many bytes as its length says. -/
theorem cal_take (table : Table) (crc : SlU32) (m : List SlU8) (len : SlU16) :
    cal table crc m len = cal table crc (m.take len.toNat) len := by
  have hbyte : ∀ i ∈ List.range len.toNat, m.getD i 0#8 = (m.take len.toNat).getD i 0#8 := by
    intro i hi
    rw [List.getD_eq_getElem?_getD, List.getD_eq_getElem?_getD, List.getElem?_take,
      if_pos (List.mem_range.mp hi)]
  have hrounds : ∀ (places : List ℕ) (crc : SlU32),
      (∀ i ∈ places, m.getD i 0#8 = (m.take len.toNat).getD i 0#8) →
      places.foldl (fun crc i => calByte table crc (m.getD i 0#8)) crc =
        places.foldl (fun crc i => calByte table crc ((m.take len.toNat).getD i 0#8)) crc := by
    intro places crc h
    exact List.foldl_ext _ _ _ fun crc i hi => by rw [h i hi]
  simp only [cal, hrounds _ _ hbyte]

/-- **What `getResult` returns.** After any calls it is the checksum, for the polynomial of
the table in use, of the bytes in front of the place `m.length % 65536`. -/
theorem resultAfter_eq (before : List Call) {m : List SlU8} (h : m.length < 2 ^ 32) :
    resultAfter before m =
      checksum (polyInUse before) 0xFFFFFFFF#32 (m.take (m.length % 65536)) := by
  have hlen : (BitVec.ofNat 32 m.length).setWidth 16 =
      BitVec.ofNat 16 (m.take (m.length % 65536)).length := by
    apply BitVec.eq_of_toNat_eq
    rw [List.length_take, Nat.min_eq_left (Nat.mod_le _ _), BitVec.toNat_setWidth,
      BitVec.toNat_ofNat, BitVec.toNat_ofNat, Nat.mod_eq_of_lt h]
    omega
  have hvalue : ((BitVec.ofNat 32 m.length).setWidth 16 : SlU16).toNat = m.length % 65536 := by
    rw [BitVec.toNat_setWidth, BitVec.toNat_ofNat, Nat.mod_eq_of_lt h]
  have htable : (getResult (before.foldl Call.run .start) m (BitVec.ofNat 32 m.length)).2.table =
      init (polyInUse before) := by
    obtain ⟨hunset, hset⟩ := statics_after before
    cases hany : before.any Call.isGetResult with
    | false =>
      simp [getResult, hunset hany, polyInUse, laterPoly, dropWhile_of_no_getResult hany]
    | true =>
      obtain ⟨htmp, htable⟩ := hset hany
      simp [getResult, htmp, htable]
  have hcal : resultAfter before m = cal (getResult (before.foldl Call.run .start) m
      (BitVec.ofNat 32 m.length)).2.table 0xFFFFFFFF#32 m
      ((BitVec.ofNat 32 m.length).setWidth 16) := rfl
  rw [hcal, htable, cal_take, hvalue, hlen, cal_eq_checksum]
  rw [List.length_take]
  omega

/-- A message whose checksum gives its polynomial away: it shifts the start value out of the
register, except for the last bit. -/
def probe : List SlU8 := [0xff#8, 0xff#8, 0xff#8, 0x7f#8]

/-- The checksum of the probe. -/
theorem checksum_probe (poly : SlU32) : checksum poly 0xFFFFFFFF#32 probe = ~~~ poly.reverse := by
  have hreverse : (0xFFFFFFFF#32).reverse = 0xFFFFFFFF#32 := by decide +kernel
  have hbits : (padded probe).flatMap lsbFirst =
      (List.range 31).map (0xFFFFFFFF#32).getMsbD ++ [false] := by decide +kernel
  have hlast : feedBit poly (0xFFFFFFFF#32 <<< 31) false = 0#32 ^^^ poly := rfl
  rw [checksum, hreverse, hbits, feed_append, feed_leading, feed, List.foldl_cons, List.foldl_nil,
    hlast, BitVec.zero_xor]

/-- **When `getResult` is independent of earlier calls.** After any calls of the exported
functions, `getResult` returns their own checksum for all messages of at most 65535 bytes if
and only if, since its first call, the table was last built for its polynomial. For every
greater length there is a message for which it never does. -/
theorem resultAfter_own_iff (before : List Call) :
    ((∀ m : List SlU8, m.length ≤ 65535 → resultAfter before m = ownChecksum m) ↔
      OwnTable before) ∧
    ∀ len, 65535 < len → len < 2 ^ 32 →
      ∃ m : List SlU8, m.length = len ∧ resultAfter before m ≠ ownChecksum m := by
  have hshort : ∀ m : List SlU8, m.length ≤ 65535 →
      resultAfter before m = checksum (polyInUse before) 0xFFFFFFFF#32 m := by
    intro m h
    rw [resultAfter_eq before (by omega), Nat.mod_eq_of_lt (by omega), List.take_length]
  refine ⟨⟨fun h poly hpoly => ?_, fun hown m h => ?_⟩, fun len hlong hlen => ?_⟩
  · -- the probe tells the polynomials apart
    have hprobe := h probe (by decide)
    rw [hshort probe (by decide), ownChecksum, checksum_probe, checksum_probe,
      polyInUse, hpoly, Option.getD_some] at hprobe
    have hreverse := BitVec.not_inj.mp hprobe
    rw [← BitVec.reverse_reverse_eq (x := poly), hreverse, BitVec.reverse_reverse_eq]
  · rw [hshort m h, ownChecksum, hown.polyInUse_eq]
  · -- two messages that differ in the last byte have one result, but two checksums
    by_contra hnone
    have hall : ∀ m : List SlU8, m.length = len → resultAfter before m = ownChecksum m :=
      fun m hm => by_contra fun hne => hnone ⟨m, hm, hne⟩
    obtain ⟨n, rfl⟩ : ∃ n, len = n + 1 := ⟨len - 1, by omega⟩
    have hresult : ∀ b : SlU8, resultAfter before (List.replicate n 0#8 ++ [b]) =
        checksum (polyInUse before) 0xFFFFFFFF#32
          (List.replicate ((n + 1) % 65536) 0#8) := by
      intro b
      have hcut : (n + 1) % 65536 ≤ n := by omega
      rw [resultAfter_eq before (by simpa using hlen), List.length_append, List.length_replicate,
        List.length_singleton, List.take_append_of_le_length (by simpa using hcut),
        List.take_replicate, Nat.min_eq_left hcut]
    have hsame : ownChecksum (List.replicate n 0#8 ++ [0#8]) =
        ownChecksum (List.replicate n 0#8 ++ [1#8]) := by
      rw [← hall _ (by simp), ← hall _ (by simp), hresult, hresult]
    have hne : ownChecksum (List.replicate n 0#8 ++ [0#8] ++ []) ≠
        ownChecksum (List.replicate n 0#8 ++ [1#8] ++ []) :=
      checksum_ne_of_window (by decide) _ rfl (by decide) (by decide)
    exact hne (by simpa using hsame)

/-- A call of `init` for another polynomial between two calls of `getResult`. -/
theorem foreign_table_used :
    resultAfter [.getResult [] 0#32, .init 0x1EDC6F41#32] [0x31#8, 0x32#8, 0x33#8, 0x34#8] ≠
      ownChecksum [0x31#8, 0x32#8, 0x33#8, 0x34#8] := by
  decide +kernel

/-- **Which bytes `getResult` covers.** After any calls that leave a table whose polynomial has
its lowest bit set, a change of one byte changes the result if and only if the byte stands in
front of the place `len % 65536`. -/
theorem resultAfter_ne_iff {before : List Call} (hpoly : (polyInUse before).getLsbD 0 = true)
    {front back : List SlU8} {b b' : SlU8} (hne : b ≠ b')
    (hlen : (front ++ b :: back).length < 2 ^ 32) :
    resultAfter before (front ++ b :: back) ≠ resultAfter before (front ++ b' :: back) ↔
      front.length < (front ++ b :: back).length % 65536 := by
  have hlen' : (front ++ b' :: back).length = (front ++ b :: back).length := by simp
  rw [resultAfter_eq before hlen, resultAfter_eq before (hlen' ▸ hlen), hlen']
  generalize (front ++ b :: back).length % 65536 = k
  by_cases hk : front.length < k
  · obtain ⟨j, rfl⟩ : ∃ j, k = front.length + (j + 1) := ⟨k - front.length - 1, by omega⟩
    have htake : ∀ x : SlU8, (front ++ x :: back).take (front.length + (j + 1)) =
        front ++ [x] ++ back.take j := by
      intro x
      rw [List.take_length_add_append, List.take_succ_cons, List.append_assoc]
      rfl
    rw [htake, htake]
    exact iff_of_true (checksum_ne_of_window hpoly _ rfl (by simp) (by simpa using hne)) hk
  · have htake : ∀ x : SlU8, (front ++ x :: back).take k = front.take k :=
      fun x => List.take_append_of_le_length (by omega)
    rw [htake, htake]
    exact iff_of_false (fun h => h rfl) hk

/-- The second of three bytes counts. -/
theorem resultAfter_ne_iff_digits :
    resultAfter [] [0x31#8, 0x32#8, 0x33#8] ≠ resultAfter [] [0x31#8, 0x35#8, 0x33#8] :=
  (resultAfter_ne_iff (show (polyInUse []).getLsbD 0 = true by decide)
    (show 0x32#8 ≠ 0x35#8 by decide)
    (show ([0x31#8] ++ 0x32#8 :: [0x33#8]).length < 2 ^ 32 by decide)).mpr (by decide)

/-- No byte of a buffer of 65536 bytes counts. -/
theorem last_byte_left_out :
    resultAfter [] (List.replicate 65535 0#8 ++ [0#8]) =
      resultAfter [] (List.replicate 65535 0#8 ++ [1#8]) := by
  have hresult : ∀ b : SlU8, resultAfter [] (List.replicate 65535 0#8 ++ [b]) =
      checksum ownPoly 0xFFFFFFFF#32 [] := by
    intro b
    have hlength : (List.replicate 65535 0#8 ++ [b]).length = 65536 := by
      rw [List.length_append, List.length_replicate, List.length_singleton]
    rw [resultAfter_eq [] (by rw [hlength]; decide), hlength]
    rfl
  rw [hresult, hresult]

end Crc32

end Slamkit
