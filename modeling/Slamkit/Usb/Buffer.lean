import Slamkit.Library.Run
import Slamkit.Usb.Channel

/-!
# The receive buffer of a USB channel

`waitForData` makes up to two bulk transfers into `_rx_buffer`. The second one is given
the offset `size - ready_size` where the bytes of the first end at `ready_size`, so what
it receives need not follow them and need not fit. This file says exactly when the
buffer then holds what was delivered, and exactly which runs stay inside it.
-/

namespace Slamkit

open Library

variable {ε : Type}

/-- A bulk transfer delivers at most the length it was asked for. -/
def DeliversAtMost (usb : LibusbTransfers ε) : Prop :=
  ∀ length timeout e, (usb.bulkTransfer length timeout e).1.data.length ≤ length

namespace UsbCache

/-- The number of bytes the first transfer of `waitForData` delivers. -/
def readySize (usb : LibusbTransfers ε) (size : ℕ) (timeoutInMs : SlU32) (e : ε) : ℕ :=
  (usb.bulkTransfer size timeoutInMs e).1.data.length

/-- The second transfer of `waitForData`. -/
def secondTransfer (usb : LibusbTransfers ε) (size : ℕ) (timeoutInMs : SlU32) (e : ε) : Transfer :=
  (usb.bulkTransfer (size - readySize usb size timeoutInMs e) timeoutInMs
    (usb.bulkTransfer size timeoutInMs e).2).1

/-- The bytes the transfers of `waitForData` deliver, in order. There is no second transfer
after a complete first one. -/
def delivered (usb : LibusbTransfers ε) (size : ℕ) (timeoutInMs : SlU32) (e : ε) : List SlU8 :=
  (usb.bulkTransfer size timeoutInMs e).1.data ++
    if readySize usb size timeoutInMs e = size then []
    else (secondTransfer usb size timeoutInMs e).data

/-- The reported number and `_rx_size` are the number of bytes delivered, and the buffer
begins with these bytes. -/
structure Reassembled (r : Ready × UsbCache × ε) (bytes : List SlU8) : Prop where
  actualReady : r.1.actualReady = some bytes.length
  rxSize : r.2.1.rxSize.toNat = bytes.length
  rxBuffer : r.2.1.rxBuffer.take bytes.length = bytes

/-- Bytes stored directly behind the first ones. -/
theorem take_store_store (buffer first second : List SlU8) :
    (store (store buffer 0 first) first.length second).take (first ++ second).length =
      first ++ second := by
  have hfront : (store buffer 0 first).take first.length = first := by simp [store]
  rw [store, hfront, List.take_left' rfl]

/-- `waitForData` when the first transfer is complete. -/
theorem waitForData_complete (usb : LibusbTransfers ε) {size : ℕ} (hsize : size ≤ maxRxBufferSize)
    {timeoutInMs : SlU32} (c : UsbCache) {e : ε}
    (hready : readySize usb size timeoutInMs e = size) :
    waitForData usb size timeoutInMs c e = (⟨true, some size⟩,
      ⟨BitVec.ofNat 16 size, store c.rxBuffer 0 (usb.bulkTransfer size timeoutInMs e).1.data⟩,
      (usb.bulkTransfer size timeoutInMs e).2) := by
  rw [readySize] at hready
  simp only [waitForData, if_neg (Nat.not_lt.mpr hsize), hready, ne_eq, not_true, if_false]

/-- `waitForData` when the first transfer is not complete. -/
theorem waitForData_split (usb : LibusbTransfers ε) {size : ℕ} (hsize : size ≤ maxRxBufferSize)
    {timeoutInMs : SlU32} (c : UsbCache) {e : ε}
    (hready : readySize usb size timeoutInMs e ≠ size) :
    let offset := size - readySize usb size timeoutInMs e
    let second := secondTransfer usb size timeoutInMs e
    (waitForData usb size timeoutInMs c e).1 =
        ⟨second.success, some (offset + second.data.length)⟩ ∧
      (waitForData usb size timeoutInMs c e).2.1 =
        ⟨BitVec.ofNat 16 (offset + second.data.length),
          store (store c.rxBuffer 0 (usb.bulkTransfer size timeoutInMs e).1.data) offset
            second.data⟩ := by
  rw [readySize] at hready
  simp only [waitForData, if_neg (Nat.not_lt.mpr hsize), if_pos hready, readySize, secondTransfer,
    true_and]

/-- **When a response is put together.** For every size the buffer admits, every content of
the buffer and every outcome of the transfers: `waitForData` returns true only with the
delivered bytes put together if and only if the first transfer is complete, the second one
fails, or the first one delivers exactly half of the bytes. -/
theorem waitForData_reassembled_iff {usb : LibusbTransfers ε} (husb : DeliversAtMost usb)
    {size : ℕ} (hsize : size ≤ maxRxBufferSize) (timeoutInMs : SlU32) (c : UsbCache) (e : ε) :
    ((waitForData usb size timeoutInMs c e).1.result = true →
      Reassembled (waitForData usb size timeoutInMs c e) (delivered usb size timeoutInMs e)) ↔
    (readySize usb size timeoutInMs e = size ∨
      (secondTransfer usb size timeoutInMs e).success = false ∨
      2 * readySize usb size timeoutInMs e = size) := by
  have hle : readySize usb size timeoutInMs e ≤ size := husb size timeoutInMs e
  have hle' : (secondTransfer usb size timeoutInMs e).data.length ≤
      size - readySize usb size timeoutInMs e := husb _ _ _
  have hmax : maxRxBufferSize = 1224 := rfl
  by_cases hready : readySize usb size timeoutInMs e = size
  · refine iff_of_true (fun _ => ?_) (.inl hready)
    have hlength : (usb.bulkTransfer size timeoutInMs e).1.data.length = size := hready
    have hdelivered : delivered usb size timeoutInMs e =
        (usb.bulkTransfer size timeoutInMs e).1.data := by
      rw [delivered, if_pos hready, List.append_nil]
    rw [waitForData_complete usb hsize c hready, hdelivered]
    refine ⟨by rw [hlength], ?_, by simp [store]⟩
    rw [hlength, BitVec.toNat_ofNat]
    omega
  · obtain ⟨hresult, hcache⟩ := waitForData_split usb hsize c hready
    have hdelivered : (delivered usb size timeoutInMs e).length =
        readySize usb size timeoutInMs e +
          (secondTransfer usb size timeoutInMs e).data.length := by
      rw [delivered, if_neg hready, List.length_append]
      rfl
    rw [or_iff_right hready, hresult]
    constructor
    · intro h
      cases hsuccess : (secondTransfer usb size timeoutInMs e).success with
      | false => exact .inl rfl
      | true =>
        right
        have hn := (h hsuccess).actualReady
        rw [hresult, hdelivered, Option.some.injEq] at hn
        omega
    · intro h hsuccess
      have hhalf : 2 * readySize usb size timeoutInMs e = size := by
        rcases h with hfailed | hhalf
        · rw [hfailed] at hsuccess
          cases hsuccess
        · exact hhalf
      have hoffset : size - readySize usb size timeoutInMs e =
          readySize usb size timeoutInMs e := by omega
      rw [hoffset] at hresult hcache hle'
      refine ⟨by rw [hresult, hdelivered], ?_, ?_⟩
      · rw [hcache, hdelivered, BitVec.toNat_ofNat]
        omega
      · rw [hcache, delivered, if_neg hready]
        exact take_store_store _ _ _

/-- libusb that delivers the given bytes in a first and in every further transfer, as far as
they are asked for. The state counts the transfers. -/
def twoTransfers (first second : List SlU8) : LibusbTransfers ℕ where
  bulkTransfer length _ e := (⟨true, (if e = 0 then first else second).take length⟩, e + 1)
  submitTransfer data e := (⟨true, true, .completed, data.length⟩, e)

/-- It delivers at most what is asked for. -/
theorem twoTransfers_deliversAtMost (first second : List SlU8) :
    DeliversAtMost (twoTransfers first second) := by
  intro length timeout e
  simp [twoTransfers]

/-- An empty cache with an empty buffer. -/
def emptyCache : UsbCache := ⟨0#16, List.replicate maxRxBufferSize 0#8⟩

/-- A response of four bytes in two halves. -/
theorem waitForData_reassembled_halves :
    Reassembled (waitForData (twoTransfers [1#8, 2#8] [3#8, 4#8]) 4 2000 emptyCache 0)
      [1#8, 2#8, 3#8, 4#8] :=
  (waitForData_reassembled_iff (twoTransfers_deliversAtMost _ _)
    (show 4 ≤ maxRxBufferSize by decide) 2000 emptyCache 0).mpr
    (.inr (.inr (by decide +kernel))) (by decide +kernel)

/-- A response of three bytes, of which the first comes alone: the second byte of the buffer
was not delivered, and four bytes are reported. -/
theorem split_response_torn :
    let r := waitForData (twoTransfers [1#8] [2#8, 3#8]) 3 2000 emptyCache 0
    r.1 = ⟨true, some 4⟩ ∧ r.2.1.rxBuffer.take 4 = [1#8, 0#8, 2#8, 3#8] ∧
      ¬ Reassembled r (delivered (twoTransfers [1#8] [2#8, 3#8]) 3 2000 0) := by
  refine ⟨by decide +kernel, by decide +kernel, fun h => ?_⟩
  exact absurd h.actualReady (by decide +kernel)

/-- A part of `_rx_buffer` that a transfer fills or a copy reads. -/
structure Window where
  start : ℕ
  length : ℕ
  deriving DecidableEq

/-- The window lies inside the buffer. -/
def Window.Inside (w : Window) : Prop := w.start + w.length ≤ maxRxBufferSize

instance (w : Window) : Decidable w.Inside := inferInstanceAs (Decidable (_ ≤ _))

/-- A window by its two numbers. -/
theorem Window.inside_mk (start length : ℕ) :
    (⟨start, length⟩ : Window).Inside ↔ start + length ≤ maxRxBufferSize := Iff.rfl

/-- The windows given to the bulk transfers of `waitForData`. -/
def waitForDataWindows (usb : LibusbTransfers ε) (size : ℕ) (timeoutInMs : SlU32) (e : ε) :
    List Window :=
  if size > maxRxBufferSize then []
  else if readySize usb size timeoutInMs e ≠ size then
    let offset := size - readySize usb size timeoutInMs e
    [⟨0, size⟩, ⟨offset, offset⟩]
  else [⟨0, size⟩]

/-- The window from which `read` copies. -/
def readWindow (size : ℕ) (c : UsbCache) : Window :=
  if size ≤ c.rxSize.toNat then ⟨0, size⟩ else ⟨0, c.rxSize.toNat⟩

/-- A bulk transfer into a window of the buffer. -/
def bulkInto (usb : LibusbTransfers ε) (timeoutInMs : SlU32) (s : List SlU8 × ε) (w : Window) :
    List SlU8 × ε :=
  let r := usb.bulkTransfer w.length timeoutInMs s.2
  (store s.1 w.start r.1.data, r.2)

/-- The transfers into these windows, one after the other, are what `waitForData` does to the
buffer and to libusb. -/
theorem waitForData_windows (usb : LibusbTransfers ε) (size : ℕ) (timeoutInMs : SlU32)
    (c : UsbCache) (e : ε) :
    let r := waitForData usb size timeoutInMs c e
    (r.2.1.rxBuffer, r.2.2) =
      (waitForDataWindows usb size timeoutInMs e).foldl (bulkInto usb timeoutInMs)
        (c.rxBuffer, e) := by
  by_cases hsize : size > maxRxBufferSize
  · simp [waitForData, waitForDataWindows, hsize]
  · by_cases hready : readySize usb size timeoutInMs e = size
    · rw [waitForData_complete usb (Nat.le_of_not_lt hsize) c hready]
      simp [waitForDataWindows, hsize, hready, bulkInto]
    · have hready' : ¬ (usb.bulkTransfer size timeoutInMs e).1.data.length = size := hready
      simp [waitForData, waitForDataWindows, hsize, hready', bulkInto, readySize]

/-- `read` hands out what stands in its window. -/
theorem read_window (size : ℕ) (c : UsbCache) :
    (c.read size).1.stored =
      (c.rxBuffer.drop (readWindow size c).start).take (readWindow size c).length := by
  by_cases h : size ≤ c.rxSize.toNat <;> simp [UsbCache.read, readWindow, h]

/-- A call of a method that works on the buffer. -/
inductive BufferOp where
  | waitForData (size : ℕ) (timeoutInMs : SlU32)
  | read (size : ℕ)
  | clearReadCache
  deriving DecidableEq

/-- The cache and libusb, with the windows used so far. -/
structure BufferRun (ε : Type) where
  cache : UsbCache
  env : ε
  windows : List Window

/-- One call. -/
def BufferOp.run (usb : LibusbTransfers ε) (s : BufferRun ε) : BufferOp → BufferRun ε
  | .waitForData size timeoutInMs =>
    let r := UsbCache.waitForData usb size timeoutInMs s.cache s.env
    ⟨r.2.1, r.2.2, s.windows ++ waitForDataWindows usb size timeoutInMs s.env⟩
  | .read size => ⟨(s.cache.read size).2, s.env, s.windows ++ [readWindow size s.cache]⟩
  | .clearReadCache => { s with cache := s.cache.clearReadCache }

/-- A channel that has just been opened, whatever its buffer holds. -/
def BufferRun.start (rxBuffer : List SlU8) (e : ε) : BufferRun ε := ⟨⟨0#16, rxBuffer⟩, e, []⟩

/-- If a call of `waitForData` that is not refused makes a second transfer, twice the bytes
that the first one left out fit the buffer. -/
def BufferOp.Fits (usb : LibusbTransfers ε) (s : BufferRun ε) : BufferOp → Prop
  | .waitForData size timeoutInMs =>
    size ≤ maxRxBufferSize → readySize usb size timeoutInMs s.env ≠ size →
      2 * (size - readySize usb size timeoutInMs s.env) ≤ maxRxBufferSize
  | _ => True

/-- All windows used so far lie inside the buffer. -/
def BufferRun.WindowsInside (s : BufferRun ε) : Prop := ∀ w ∈ s.windows, w.Inside

/-- And so do the cached bytes. -/
structure BufferRun.Bounded (s : BufferRun ε) : Prop where
  windows : s.WindowsInside
  rxSize : s.cache.rxSize.toNat ≤ maxRxBufferSize

/-- No call takes a window back. -/
theorem BufferRun.WindowsInside.of_run {usb : LibusbTransfers ε} {s : BufferRun ε} {op : BufferOp}
    (h : (op.run usb s).WindowsInside) : s.WindowsInside := by
  intro w hw
  apply h
  cases op with
  | waitForData size timeoutInMs => exact List.mem_append_left _ hw
  | read size => exact List.mem_append_left _ hw
  | clearReadCache => exact hw

/-- A call that stays inside the buffer fits. -/
theorem BufferRun.WindowsInside.fits {usb : LibusbTransfers ε} {s : BufferRun ε} {op : BufferOp}
    (h : (op.run usb s).WindowsInside) : op.Fits usb s := by
  cases op with
  | waitForData size timeoutInMs =>
    intro hsize hready
    have hwindow := h ⟨size - readySize usb size timeoutInMs s.env,
      size - readySize usb size timeoutInMs s.env⟩
      (by simp [BufferOp.run, waitForDataWindows, Nat.not_lt.mpr hsize, hready])
    rw [Window.inside_mk] at hwindow
    omega
  | read size => trivial
  | clearReadCache => trivial

/-- What `waitForData` leaves in `_rx_size` if it fits. -/
theorem rxSize_waitForData {usb : LibusbTransfers ε} (husb : DeliversAtMost usb)
    {s : BufferRun ε} {size : ℕ} {timeoutInMs : SlU32}
    (hfits : BufferOp.Fits usb s (.waitForData size timeoutInMs))
    (hold : s.cache.rxSize.toNat ≤ maxRxBufferSize) :
    (waitForData usb size timeoutInMs s.cache s.env).2.1.rxSize.toNat ≤ maxRxBufferSize := by
  have hmax : maxRxBufferSize = 1224 := rfl
  by_cases hsize : size > maxRxBufferSize
  · simpa [waitForData, hsize] using hold
  · have hsize' : size ≤ maxRxBufferSize := Nat.le_of_not_lt hsize
    by_cases hready : readySize usb size timeoutInMs s.env = size
    · rw [waitForData_complete usb hsize' s.cache hready, BitVec.toNat_ofNat]
      exact (Nat.mod_le _ _).trans hsize'
    · have hsecond : (secondTransfer usb size timeoutInMs s.env).data.length ≤
          size - readySize usb size timeoutInMs s.env := husb _ _ _
      have htwice := hfits hsize' hready
      rw [(waitForData_split usb hsize' s.cache hready).2, BitVec.toNat_ofNat]
      exact (Nat.mod_le _ _).trans (by omega)

/-- A call that fits keeps the bounds. -/
theorem BufferRun.Bounded.step {usb : LibusbTransfers ε} (husb : DeliversAtMost usb)
    {s : BufferRun ε} {op : BufferOp} (hs : s.Bounded) (hfits : op.Fits usb s) :
    (op.run usb s).Bounded := by
  obtain ⟨hwindows, hold⟩ := hs
  cases op with
  | waitForData size timeoutInMs =>
    refine ⟨fun w hw => ?_, rxSize_waitForData husb hfits hold⟩
    rcases List.mem_append.mp hw with hw | hw
    · exact hwindows w hw
    · by_cases hsize : size > maxRxBufferSize
      · simp [waitForDataWindows, hsize] at hw
      · by_cases hready : readySize usb size timeoutInMs s.env = size
        · obtain rfl : w = ⟨0, size⟩ := by
            simpa [waitForDataWindows, hsize, hready] using hw
          rw [Window.inside_mk]
          omega
        · have htwice := hfits (Nat.le_of_not_lt hsize) hready
          have hw' : w = ⟨0, size⟩ ∨ w = ⟨size - readySize usb size timeoutInMs s.env,
              size - readySize usb size timeoutInMs s.env⟩ := by
            simpa [waitForDataWindows, hsize, hready] using hw
          rcases hw' with rfl | rfl <;>
          · rw [Window.inside_mk]
            omega
  | read size =>
    have hcopy : (readWindow size s.cache).Inside ∧
        (s.cache.read size).2.rxSize.toNat ≤ maxRxBufferSize := by
      by_cases h : size ≤ s.cache.rxSize.toNat
      · have hlt := s.cache.rxSize.isLt
        simp only [readWindow, UsbCache.read, if_pos h, Window.inside_mk, BitVec.toNat_sub,
          BitVec.toNat_ofNat]
        omega
      · simp only [readWindow, UsbCache.read, if_neg h, Window.inside_mk]
        exact ⟨by omega, Nat.zero_le _⟩
    refine ⟨fun w hw => ?_, hcopy.2⟩
    rcases List.mem_append.mp hw with hw | hw
    · exact hwindows w hw
    · obtain rfl := List.mem_singleton.mp hw
      exact hcopy.1
  | clearReadCache => exact ⟨hwindows, Nat.zero_le _⟩

/-- **When a run stays inside the buffer.** In a run of `waitForData`, `read` and
`clearReadCache` with any sizes, every transfer and every copy stays inside the buffer and
`_rx_size` never exceeds it if and only if every call of `waitForData` fits. -/
theorem bufferRun_inside_iff {usb : LibusbTransfers ε} (husb : DeliversAtMost usb)
    (rxBuffer : List SlU8) (e : ε) (ops : List BufferOp) :
    ((ops.foldl (BufferOp.run usb) (.start rxBuffer e)).WindowsInside ∧
      ∀ before after, ops = before ++ after →
        (before.foldl (BufferOp.run usb) (.start rxBuffer e)).cache.rxSize.toNat ≤
          maxRxBufferSize) ↔
    StepsMeet (BufferOp.run usb) (fun s op => op.Fits usb s) (.start rxBuffer e) ops := by
  have hstart : (BufferRun.start rxBuffer e).Bounded :=
    ⟨fun _ hw => (List.not_mem_nil hw).elim, Nat.zero_le _⟩
  constructor
  · rintro ⟨hinside, -⟩
    exact stepsMeet_of_last (fun _ _ => BufferRun.WindowsInside.of_run)
      (fun _ _ => BufferRun.WindowsInside.fits) hinside
  · intro hmeet
    have hstep : ∀ (s : BufferRun ε) (op : BufferOp), s.Bounded → op.Fits usb s →
        (op.run usb s).Bounded := fun s op hs hfits => hs.step husb hfits
    have hlast := hmeet.invariant hstep hstart
    refine ⟨hlast.windows, ?_⟩
    rintro before after rfl
    have hbefore := hmeet.invariant_at hstep hstart
    exact hbefore.rxSize

/-- A request for a whole buffer of which the first half comes, and a read of it. -/
theorem bufferRun_inside_half :
    let s := [BufferOp.waitForData 4 2000, .read 4].foldl
      (BufferOp.run (twoTransfers [1#8, 2#8] [3#8, 4#8])) (.start [] 0)
    s.WindowsInside ∧ s.cache.rxSize = 0#16 := by
  refine ⟨((bufferRun_inside_iff (twoTransfers_deliversAtMost _ _) [] 0 _).mpr ?_).1,
    by decide +kernel⟩
  exact ⟨fun _ _ => by decide +kernel, trivial, trivial⟩

/-- A request for 1000 bytes of which none come at first: the second transfer is given a
window that ends behind the buffer. -/
theorem second_transfer_outside :
    ¬ ([BufferOp.waitForData 1000 2000].foldl (BufferOp.run (twoTransfers [] [1#8]))
      (.start [] 0)).WindowsInside := by
  intro h
  exact absurd (h ⟨1000, 1000⟩ (by decide +kernel)) (by decide)

end UsbCache

end Slamkit
