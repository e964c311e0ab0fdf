import Slamkit.Library.History
import Slamkit.Udp

/-!
# Reading datagrams

`UdpChannel::read` calls `recvFrom` until the buffer is full or a call fails. It moves the
destination behind what it has received, but offers every call the whole size again. This
file says exactly which datagrams it can be trusted with.
-/

namespace Slamkit

open Library

namespace UdpChannel

/-- All bytes stored, in order. -/
def contents (stores : List Store) : List SlU8 := stores.flatMap Store.bytes

/-- The memory from `buffer` on after a store. -/
def Store.apply (memory : List SlU8) (w : Store) : List SlU8 :=
  memory.take w.start ++ overlay w.bytes (memory.drop w.start)

/-- A read that stays inside its buffer and tells the truth: it stores nothing behind the first
`size` bytes, it returns the number of bytes received, which is at most `size`, and these bytes
stand at the start of the buffer, in order. -/
structure StaysInside (size : ℕ) (memory : List SlU8) (r : Received) : Prop where
  inside : ∀ w ∈ r.stores, w.start + w.bytes.length ≤ size
  le : r.returned ≤ size
  counts : r.returned = (contents r.stores).length
  data : contents r.stores <+: r.stores.foldl Store.apply memory

/-- The datagrams received before the first failure, as far as they are delivered. -/
def datagrams (size : ℕ) : List (SysResult (List SlU8)) → List (List SlU8)
  | .ok datagram :: answers => datagram.take size :: datagrams size answers
  | _ => []

/-- A datagram that comes while the buffer is not full fits what is left of it, and ends before
the number of bytes leaves the range of an `int`. -/
def RoomFor (size : ℕ) (past : List (List SlU8)) (datagram : List SlU8) : Prop :=
  past.flatten.length < size →
    past.flatten.length + datagram.length ≤ size ∧
      past.flatten.length + datagram.length < 2 ^ 31

/-- A store that continues the earlier ones. -/
def Continues (past : List Store) (w : Store) : Prop := w.start = (contents past).length

/-- What one more answer does to the loop. -/
theorem readLoop_cons (size : ℕ) (ans : SysResult (List SlU8))
    (answers : List (SysResult (List SlU8))) {recCnt : ℕ} (h : recCnt < size)
    (stores : List Store) :
    readLoop size (ans :: answers) recCnt stores =
      match ans with
      | .ok datagram =>
        readLoop size answers (recCnt + (datagram.take size).length)
          (stores ++ [⟨recCnt, datagram.take size⟩])
      | .error _ => some (recCnt, stores ++ [⟨recCnt, []⟩]) := by
  cases ans with
  | ok datagram => simp only [readLoop, if_pos h, dgramRecvFrom, ne_eq, not_true, if_false]
  | error block =>
    have hfail : (if block then slResultOperationTimeout else slResultOperationFail) ≠
        slResultOk := by cases block <;> decide
    simp only [readLoop, if_pos h, dgramRecvFrom, List.length_nil, Nat.add_zero]
    exact if_pos hfail

/-- A full buffer ends the loop. -/
theorem readLoop_of_full (size : ℕ) (answers : List (SysResult (List SlU8))) {recCnt : ℕ}
    (h : size ≤ recCnt) (stores : List Store) :
    readLoop size answers recCnt stores = some (recCnt, stores) := by
  cases answers <;> rw [readLoop, if_neg (Nat.not_lt.mpr h)]

/-- The loop stores the datagrams one behind the other and counts them. -/
theorem readLoop_continues {size : ℕ} {answers : List (SysResult (List SlU8))} {recCnt n : ℕ}
    {stores stores' : List Store} (hcount : recCnt = (contents stores).length)
    (h : readLoop size answers recCnt stores = some (n, stores')) :
    ∃ more, stores' = stores ++ more ∧ n = (contents stores').length ∧
      EachAfter Continues stores more := by
  induction answers generalizing recCnt stores with
  | nil =>
    rw [readLoop] at h
    split at h
    · cases h
    · obtain ⟨rfl, rfl⟩ := Prod.mk.inj (Option.some.inj h)
      exact ⟨[], (List.append_nil _).symm, hcount, trivial⟩
  | cons ans answers ih =>
    obtain hfull | hroom := le_or_gt size recCnt
    · rw [readLoop_of_full size _ hfull] at h
      obtain ⟨rfl, rfl⟩ := Prod.mk.inj (Option.some.inj h)
      exact ⟨[], (List.append_nil _).symm, hcount, trivial⟩
    · rw [readLoop_cons size ans answers hroom] at h
      cases ans with
      | ok datagram =>
        have hcount' : recCnt + (datagram.take size).length =
            (contents (stores ++ [⟨recCnt, datagram.take size⟩])).length := by
          simp [contents, hcount]
        obtain ⟨more, hmore, hn, hcontinues⟩ := ih hcount' h
        refine ⟨⟨recCnt, datagram.take size⟩ :: more, ?_, hn, hcount, hcontinues⟩
        rw [hmore, List.append_assoc]
        rfl
      | error block =>
        obtain ⟨rfl, rfl⟩ := Prod.mk.inj (Option.some.inj h)
        have hcontinues : EachAfter Continues stores [⟨recCnt, []⟩] := ⟨hcount, trivial⟩
        exact ⟨_, rfl, by simp [contents, hcount], hcontinues⟩

/-- The count only grows. -/
theorem le_of_readLoop {size : ℕ} {answers : List (SysResult (List SlU8))} {recCnt n : ℕ}
    {stores stores' : List Store} (hcount : recCnt = (contents stores).length)
    (h : readLoop size answers recCnt stores = some (n, stores')) : recCnt ≤ n := by
  obtain ⟨more, rfl, rfl, -⟩ := readLoop_continues hcount h
  rw [hcount, contents, contents, List.flatMap_append, List.length_append]
  exact Nat.le_add_right _ _

/-- Stores that continue each other leave all their bytes at the start of the memory. -/
theorem contents_isPrefix {stores : List Store} (h : EachAfter Continues [] stores)
    (memory : List SlU8) : contents stores <+: stores.foldl Store.apply memory := by
  induction stores using List.reverseRecOn with
  | nil => exact List.nil_prefix
  | append_singleton stores w ih =>
    rw [eachAfter_append, List.nil_append] at h
    obtain ⟨hstores, hstart, -⟩ := h
    obtain ⟨rest, hrest⟩ := ih hstores
    have hcontents : contents (stores ++ [w]) = contents stores ++ w.bytes := by simp [contents]
    rw [List.foldl_concat, hcontents, ← hrest, Store.apply, hstart, List.take_left, List.drop_left,
      overlay, ← List.append_assoc]
    exact List.prefix_append _ _

/-- Once the buffer is full, no datagram comes any more. -/
theorem roomFor_of_full {size : ℕ} {past : List (List SlU8)} (h : size ≤ past.flatten.length)
    (rest : List (List SlU8)) : EachAfter (RoomFor size) past rest := by
  induction rest generalizing past with
  | nil => trivial
  | cons datagram rest ih =>
    refine ⟨fun hlt => absurd hlt (Nat.not_lt.mpr h), ih ?_⟩
    rw [List.flatten_append, List.length_append]
    exact h.trans (Nat.le_add_right _ _)

/-- A full buffer stays as it is, and no datagram comes any more. -/
theorem readLoop_room_of_full {size : ℕ} {answers : List (SysResult (List SlU8))} {recCnt n : ℕ}
    {stores more : List Store} {past : List (List SlU8)} (hpast : past.flatten.length = recCnt)
    (hle : recCnt ≤ size) (hlt : recCnt < 2 ^ 31) (hfull : size ≤ recCnt)
    (h : readLoop size answers recCnt stores = some (n, stores ++ more)) :
    (∀ w ∈ more, w.start + w.bytes.length ≤ size) ∧ n ≤ size ∧ n < 2 ^ 31 ↔
      EachAfter (RoomFor size) past (datagrams size answers) := by
  rw [readLoop_of_full size _ hfull] at h
  obtain ⟨rfl, hmore⟩ := Prod.mk.inj (Option.some.inj h)
  obtain rfl : more = [] := List.self_eq_append_right.mp hmore
  exact iff_of_true ⟨by simp, hle, hlt⟩ (roomFor_of_full (hpast ▸ hfull) _)

/-- The loop stays inside the buffer, and in the range of an `int`, exactly if there is room for
every datagram. -/
theorem readLoop_room_iff {size : ℕ} {answers : List (SysResult (List SlU8))} {recCnt n : ℕ}
    {stores more : List Store} {past : List (List SlU8)} (hpast : past.flatten.length = recCnt)
    (hcount : recCnt = (contents stores).length) (hle : recCnt ≤ size) (hlt : recCnt < 2 ^ 31)
    (h : readLoop size answers recCnt stores = some (n, stores ++ more)) :
    (∀ w ∈ more, w.start + w.bytes.length ≤ size) ∧ n ≤ size ∧ n < 2 ^ 31 ↔
      EachAfter (RoomFor size) past (datagrams size answers) := by
  obtain hfull | hroom := le_or_gt size recCnt
  · exact readLoop_room_of_full hpast hle hlt hfull h
  induction answers generalizing recCnt stores more past with
  | nil => simp [readLoop, hroom] at h
  | cons ans answers ih =>
    rw [readLoop_cons size ans answers hroom] at h
    cases ans with
    | error block =>
      obtain ⟨rfl, hmore⟩ := Prod.mk.inj (Option.some.inj h)
      obtain rfl : [⟨recCnt, []⟩] = more := List.append_cancel_left hmore
      exact iff_of_true ⟨by simpa using hle, hle, hlt⟩ trivial
    | ok datagram =>
      have hcount' : recCnt + (datagram.take size).length =
          (contents (stores ++ [⟨recCnt, datagram.take size⟩])).length := by
        simp [contents, hcount]
      have hpast' : (past ++ [datagram.take size]).flatten.length =
          recCnt + (datagram.take size).length := by simp [hpast]
      obtain ⟨rest, hrest, -, -⟩ := readLoop_continues hcount' h
      obtain rfl : more = ⟨recCnt, datagram.take size⟩ :: rest :=
        List.append_cancel_left (hrest.trans (List.append_assoc ..))
      simp only [hrest] at h
      have hgrows := le_of_readLoop hcount' h
      by_cases hfits : recCnt + (datagram.take size).length ≤ size ∧
          recCnt + (datagram.take size).length < 2 ^ 31
      · -- The datagram fits: the rest of the loop decides.
        have hrest_iff : (∀ w ∈ rest, w.start + w.bytes.length ≤ size) ∧ n ≤ size ∧ n < 2 ^ 31 ↔
            EachAfter (RoomFor size) (past ++ [datagram.take size]) (datagrams size answers) := by
          obtain hfull | hroom' := le_or_gt size (recCnt + (datagram.take size).length)
          · exact readLoop_room_of_full hpast' hfits.1 hfits.2 hfull h
          · exact ih hpast' hcount' hfits.1 hfits.2 h hroom'
        have hroomFor : RoomFor size past (datagram.take size) := fun _ => hpast.symm ▸ hfits
        rw [List.forall_mem_cons, and_assoc, hrest_iff, and_iff_right hfits.1, datagrams,
          eachAfter_cons, and_iff_right hroomFor]
      · -- It does not: it is stored behind the end, or the count leaves the range of an `int`.
        refine iff_of_false (fun hall => hfits ?_) (fun hall => hfits ?_)
        · exact ⟨hall.1 _ List.mem_cons_self, by omega⟩
        · exact hpast ▸ hall.1 (hpast ▸ hroom)

/-- The number of bytes is returned unchanged exactly in the range of an `int`. -/
theorem bmod_eq_self_iff (n : ℕ) : (n : ℤ).bmod (2 ^ 32) = n ↔ n < 2 ^ 31 := by
  constructor
  · intro h
    have hlt : (n : ℤ).bmod (2 ^ 32) < (2 ^ 32 + 1) / 2 := Int.bmod_lt (by decide)
    omega
  · intro h
    exact Int.bmod_eq_of_le (by omega) (by omega)

/-- **When a read of datagrams stays inside its buffer.** For every size and whatever the calls
of `recvFrom` deliver: if `read` returns, it has stored nothing outside the buffer, and returns
the number of bytes received, which stand in order at the start of the buffer, exactly if every
datagram that came while the buffer was not full fit what was left of it, the number staying in
the range of an `int`. -/
theorem read_inside_iff {size : ℕ} {answers : List (SysResult (List SlU8))} {r : Received}
    (h : read size answers = some r) (memory : List SlU8) :
    StaysInside size memory r ↔ EachAfter (RoomFor size) [] (datagrams size answers) := by
  obtain ⟨⟨n, stores⟩, hloop, rfl⟩ := Option.map_eq_some_iff.mp h
  have hempty : 0 = (contents []).length := rfl
  obtain ⟨more, rfl, hn, hcontinues⟩ := readLoop_continues hempty hloop
  have hpast : ([] : List (List SlU8)).flatten.length = 0 := rfl
  rw [← readLoop_room_iff hpast hempty (Nat.zero_le _) (by decide) hloop]
  constructor
  · rintro ⟨hinside, hle, hcounts, -⟩
    have hreturned : (n : ℤ).bmod (2 ^ 32) = n := by simpa only [← hn] using hcounts
    refine ⟨hinside, ?_, (bmod_eq_self_iff n).mp hreturned⟩
    simpa only [hreturned, Nat.cast_le] using hle
  · rintro ⟨hinside, hle, hlt⟩
    have hreturned : (n : ℤ).bmod (2 ^ 32) = n := (bmod_eq_self_iff n).mpr hlt
    refine ⟨hinside, ?_, ?_, contents_isPrefix hcontinues memory⟩
    · simpa only [hreturned, Nat.cast_le] using hle
    · simpa only [hreturned, Nat.cast_inj] using hn

/-- A reply of two datagrams that fill the buffer is read as one. -/
theorem read_inside_two : StaysInside 5 [] ⟨5, [⟨0, [1, 2]⟩, ⟨2, [3, 4, 5]⟩]⟩ := by
  have hread : read 5 [.ok [1, 2], .ok [3, 4, 5]] = some ⟨5, [⟨0, [1, 2]⟩, ⟨2, [3, 4, 5]⟩]⟩ := by
    decide
  apply (read_inside_iff hread []).mpr
  simp [datagrams, eachAfter_cons, RoomFor, EachAfter]

/-- The second datagram of two and three bytes does not fit a buffer of four bytes: its last
byte is stored behind the end, and the read returns 5. -/
theorem second_datagram_overflows :
    ¬ ∀ (size : ℕ) (answers : List (SysResult (List SlU8))) (r : Received),
      read size answers = some r → ∀ memory, StaysInside size memory r :=
  fun h => absurd ((h 4 [.ok [1, 2], .ok [3, 4, 5]] _ rfl []).inside ⟨2, [3, 4, 5]⟩ (by decide))
    (by decide)

end UdpChannel

end Slamkit
