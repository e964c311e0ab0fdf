import Slamkit.Library.History
import Slamkit.Usb.Channel

/-!
# Reads from a USB channel

`read` copies from the start of `_rx_buffer` and then only reduces `_rx_size`, and it returns
nothing when it is asked for more than is left. This file says exactly which sequences of
reads nevertheless hand out the cached bytes one after the other.
-/

namespace Slamkit

open Library

namespace UsbCache

/-- Reads one after the other: their results, and the cache afterwards. -/
def reads : List ℕ → UsbCache → List ReadResult × UsbCache
  | [], c => ([], c)
  | size :: sizes, c =>
    let r := c.read size
    let rest := reads sizes r.2
    (r.1 :: rest.1, rest.2)

/-- The bytes a read has returned: as many of those it has stored as it says. -/
def returnedBytes (r : ReadResult) : List SlU8 := r.stored.take r.returned.toNat

/-- Reads consume the cached bytes as a stream: each returns the number of bytes it has stored,
and together they return the first bytes of the cache, in order. -/
structure ReadsStream (c : UsbCache) (sizes : List ℕ) : Prop where
  counts : ∀ r ∈ (reads sizes c).1, r.returned = r.stored.length
  bytes : (reads sizes c).1.flatMap returnedBytes =
    c.rxBuffer.take (min sizes.sum c.rxSize.toNat)

/-- A read of `size` bytes after reads of the sizes `past`: nothing is left, or as many bytes
are left and the next ones are those at the start of the buffer. -/
def InPlace (c : UsbCache) (past : List ℕ) (size : ℕ) : Prop :=
  c.rxSize.toNat ≤ past.sum ∨
    past.sum + size ≤ c.rxSize.toNat ∧
      c.rxBuffer.take size = (c.rxBuffer.drop past.sum).take size

/-- A read of no more than is left. -/
theorem read_of_le {c : UsbCache} {size : ℕ} (h : size ≤ c.rxSize.toNat) :
    (c.read size).1 = ⟨size, c.rxBuffer.take size⟩ ∧
      (c.read size).2.rxBuffer = c.rxBuffer ∧
      (c.read size).2.rxSize.toNat = c.rxSize.toNat - size := by
  have hlt := c.rxSize.isLt
  rw [read, if_pos h]
  refine ⟨rfl, rfl, ?_⟩
  rw [BitVec.toNat_sub, BitVec.toNat_ofNat]
  omega

/-- A read of more than is left. -/
theorem read_of_lt {c : UsbCache} {size : ℕ} (h : c.rxSize.toNat < size) :
    (c.read size).1 = ⟨0, c.rxBuffer.take c.rxSize.toNat⟩ ∧
      (c.read size).2.rxBuffer = c.rxBuffer ∧ (c.read size).2.rxSize.toNat = 0 := by
  rw [read, if_neg (Nat.not_le.mpr h)]
  exact ⟨rfl, rfl, rfl⟩

/-- Reads after earlier ones of the sizes `past` return the next bytes of the cache, with their
numbers; `d` is the cache they find. -/
def ReadsOn (c : UsbCache) (past sizes : List ℕ) (d : UsbCache) : Prop :=
  (∀ r ∈ (reads sizes d).1, r.returned = r.stored.length) ∧
    (reads sizes d).1.flatMap returnedBytes =
      (c.rxBuffer.drop past.sum).take (min sizes.sum (c.rxSize.toNat - past.sum))

section Cons

variable {c d : UsbCache} {past sizes : List ℕ} {size : ℕ}

/-- The first of several reads. -/
theorem readsOn_cons : c.ReadsOn past (size :: sizes) d ↔
    ((d.read size).1.returned = (d.read size).1.stored.length ∧
      ∀ r ∈ (reads sizes (d.read size).2).1, r.returned = r.stored.length) ∧
    returnedBytes (d.read size).1 ++ (reads sizes (d.read size).2).1.flatMap returnedBytes =
      (c.rxBuffer.drop past.sum).take (min (size + sizes.sum) (c.rxSize.toNat - past.sum)) := by
  rw [ReadsOn, reads]
  simp only [List.mem_cons, forall_eq_or_imp, List.flatMap_cons, List.sum_cons]

/-- A read of no more than is left is in place if the next bytes are those at the start. -/
theorem inPlace_iff_of_le (hle : size ≤ c.rxSize.toNat - past.sum) :
    c.InPlace past size ↔ c.rxBuffer.take size = (c.rxBuffer.drop past.sum).take size := by
  constructor
  · rintro (hdone | ⟨-, h⟩)
    · obtain rfl : size = 0 := by omega
      rfl
    · exact h
  · intro h
    by_cases hdone : c.rxSize.toNat ≤ past.sum
    · exact .inl hdone
    · exact .inr ⟨by omega, h⟩

/-- A read of no more than is left returns the bytes at the start of the buffer. -/
theorem readsOn_cons_of_le (hfill : c.rxSize.toNat ≤ c.rxBuffer.length)
    (hbuffer : d.rxBuffer = c.rxBuffer) (hleft : d.rxSize.toNat = c.rxSize.toNat - past.sum)
    (hle : size ≤ d.rxSize.toNat) :
    c.ReadsOn past (size :: sizes) d ↔
      c.InPlace past size ∧ c.ReadsOn (past ++ [size]) sizes (d.read size).2 := by
  obtain ⟨hresult, -, -⟩ := read_of_le hle
  have hlength : (c.rxBuffer.take size).length = size := by
    rw [List.length_take]
    omega
  have hlength' : ((c.rxBuffer.drop past.sum).take size).length = size := by
    rw [List.length_take, List.length_drop]
    omega
  have hbytes : returnedBytes (d.read size).1 = c.rxBuffer.take size := by
    rw [hresult, hbuffer, returnedBytes, Int.toNat_natCast, List.take_take, Nat.min_self]
  have hcount : (d.read size).1.returned = (d.read size).1.stored.length := by
    rw [hresult, hbuffer, hlength]
  have hsplit : (c.rxBuffer.drop past.sum).take
        (min (size + sizes.sum) (c.rxSize.toNat - past.sum)) =
      (c.rxBuffer.drop past.sum).take size ++ (c.rxBuffer.drop (past ++ [size]).sum).take
        (min sizes.sum (c.rxSize.toNat - (past ++ [size]).sum)) := by
    rw [List.sum_append, List.sum_singleton, ← List.drop_drop, ← List.take_add]
    congr 1
    omega
  rw [readsOn_cons, hbytes, hsplit, inPlace_iff_of_le (hleft ▸ hle)]
  constructor
  · rintro ⟨⟨-, hcounts⟩, h⟩
    obtain ⟨hsame, hrest⟩ := List.append_inj h (hlength.trans hlength'.symm)
    exact ⟨hsame, hcounts, hrest⟩
  · rintro ⟨hsame, hcounts, hrest⟩
    rw [hsame, hrest]
    exact ⟨⟨hcount, hcounts⟩, rfl⟩

/-- A read of more than is left, when nothing is left, returns nothing. -/
theorem readsOn_cons_of_done (hleft : d.rxSize.toNat = c.rxSize.toNat - past.sum)
    (hlt : d.rxSize.toNat < size) (hdone : c.rxSize.toNat ≤ past.sum) :
    c.ReadsOn past (size :: sizes) d ↔
      c.InPlace past size ∧ c.ReadsOn (past ++ [size]) sizes (d.read size).2 := by
  obtain ⟨hresult, -, -⟩ := read_of_lt hlt
  have hzero : d.rxSize.toNat = 0 := by omega
  have hbytes : returnedBytes (d.read size).1 = [] := by
    rw [hresult, hzero]
    rfl
  have hcount : (d.read size).1.returned = (d.read size).1.stored.length := by
    rw [hresult, hzero]
    rfl
  have hnone : c.rxSize.toNat - past.sum = 0 := by omega
  have hnone' : c.rxSize.toNat - (past ++ [size]).sum = 0 := by
    rw [List.sum_append, List.sum_singleton]
    omega
  have hinPlace : c.InPlace past size := .inl hdone
  rw [readsOn_cons, and_iff_right hinPlace, and_iff_right hcount, hbytes, hnone, ReadsOn, hnone',
    Nat.min_zero, Nat.min_zero, List.take_zero, List.take_zero, List.nil_append]

/-- A read of more than is left, when something is left, stores it but says that it has not. -/
theorem readsOn_cons_of_short (hfill : c.rxSize.toNat ≤ c.rxBuffer.length)
    (hbuffer : d.rxBuffer = c.rxBuffer) (hleft : d.rxSize.toNat = c.rxSize.toNat - past.sum)
    (hlt : d.rxSize.toNat < size) (hsome : past.sum < c.rxSize.toNat) :
    c.ReadsOn past (size :: sizes) d ↔
      c.InPlace past size ∧ c.ReadsOn (past ++ [size]) sizes (d.read size).2 := by
  obtain ⟨hresult, -, -⟩ := read_of_lt hlt
  rw [readsOn_cons]
  refine iff_of_false ?_ ?_
  · rintro ⟨⟨hcount, -⟩, -⟩
    rw [hresult, hbuffer, List.length_take, Nat.min_eq_left (by omega)] at hcount
    simp only at hcount
    omega
  · rintro ⟨hdone | ⟨hfit, -⟩, -⟩ <;> omega

end Cons

/-- Reads return the next bytes of the cache exactly if each of them is in place. -/
theorem readsOn_iff {c : UsbCache} (hfill : c.rxSize.toNat ≤ c.rxBuffer.length)
    (past sizes : List ℕ) {d : UsbCache} (hbuffer : d.rxBuffer = c.rxBuffer)
    (hleft : d.rxSize.toNat = c.rxSize.toNat - past.sum) :
    c.ReadsOn past sizes d ↔ EachAfter c.InPlace past sizes := by
  induction sizes generalizing past d with
  | nil => simp [ReadsOn, reads]
  | cons size sizes ih =>
    have hsum : (past ++ [size]).sum = past.sum + size := by simp
    rw [eachAfter_cons]
    obtain hle | hlt := le_or_gt size d.rxSize.toNat
    · obtain ⟨-, hbuffer', hleft'⟩ := read_of_le hle
      rw [readsOn_cons_of_le hfill hbuffer hleft hle,
        ih (past ++ [size]) (hbuffer'.trans hbuffer) (by rw [hleft', hleft, hsum]; omega)]
    · obtain ⟨-, hbuffer', hleft'⟩ := read_of_lt hlt
      have hih := ih (past ++ [size]) (hbuffer'.trans hbuffer) (by rw [hleft', hsum]; omega)
      obtain hdone | hsome := le_or_gt c.rxSize.toNat past.sum
      · rw [readsOn_cons_of_done hleft hlt hdone, hih]
      · rw [readsOn_cons_of_short hfill hbuffer hleft hlt hsome, hih]

/-- **When reads consume a stream.** For every content of the buffer, every fill of the cache
and all sizes: the reads return the cached bytes one after the other, with their numbers, if
and only if each read finds nothing left, or finds as many bytes left as it asks for and the
next of them the same as those at the start of the buffer. -/
theorem reads_stream_iff {c : UsbCache} (hfill : c.rxSize.toNat ≤ c.rxBuffer.length)
    (sizes : List ℕ) : c.ReadsStream sizes ↔ EachAfter c.InPlace [] sizes := by
  have hiff := readsOn_iff hfill [] sizes rfl (Nat.sub_zero _).symm
  simp only [ReadsOn, List.sum_nil, List.drop_zero, Nat.sub_zero] at hiff
  rw [← hiff]
  exact ⟨fun h => ⟨h.counts, h.bytes⟩, fun h => ⟨h.1, h.2⟩⟩

/-- A single read of a whole packet, and another one after it. -/
theorem reads_stream_whole : (⟨3#16, [1#8, 2#8, 3#8]⟩ : UsbCache).ReadsStream [3, 2] :=
  (reads_stream_iff (by decide) [3, 2]).mpr ⟨.inr (by decide), .inl (by decide), trivial⟩

/-- Two reads of one byte each return the first byte twice, and a read of more than is cached
stores what is there but returns zero. -/
theorem first_byte_twice :
    (reads [1, 1] ⟨2#16, [1#8, 2#8]⟩).1 = [⟨1, [1#8]⟩, ⟨1, [1#8]⟩] ∧
      (reads [3] ⟨2#16, [1#8, 2#8]⟩).1 = [⟨0, [1#8, 2#8]⟩] ∧
      ¬ (⟨2#16, [1#8, 2#8]⟩ : UsbCache).ReadsStream [1, 1] ∧
      ¬ (⟨2#16, [1#8, 2#8]⟩ : UsbCache).ReadsStream [3] := by
  refine ⟨by decide, by decide, fun h => absurd h.bytes (by decide), fun h => ?_⟩
  exact absurd (h.counts ⟨0, [1#8, 2#8]⟩ (by decide)) (by decide)

end UsbCache

end Slamkit
