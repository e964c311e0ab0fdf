import Slamkit.Event
import Slamkit.Usb.Channel

/-!
# Concurrent writes on a USB channel

`USBChannel::write` submits `_tx_libusb_transfer` and waits for the event that its callback
signals, all with `_op_lock` held. This file interleaves any number of threads in `write` with
the device and with the thread that handles the events of libusb. It says when the handshake
makes the asynchronous transfer a synchronous one: when every write ends with the outcome of its
own transfer, as `UsbCache.write` has it.
-/

namespace Slamkit

open Library

/-- Where a thread is in `write`, by the next thing it does with what the threads share. -/
inductive WritePc where
  | outside
  /-- Before `_op_lock` is locked. -/
  | locking (data : List SlU8)
  /-- Before `_tx_completion_signal.set(false)`. -/
  | locked (data : List SlU8)
  /-- Before `libusb_submit_transfer`. -/
  | cleared (data : List SlU8)
  /-- Before `_tx_completion_signal.wait()`. -/
  | submitted (data : List SlU8)
  /-- `_tx_completion_signal.wait()` has been called. -/
  | waiting (data : List SlU8)
  deriving DecidableEq

/-- The thread does not hold `_op_lock`. -/
def WritePc.Unlocked : WritePc → Prop
  | .outside | .locking _ => True
  | _ => False

/-- What the threads `κ` share of an open channel; for its events, `none` is the thread that
handles the events of libusb. `outcomes` records what has become of the transfers that were
submitted, `results` what the calls of `write` have returned, both oldest first. -/
structure TxChannel (κ : Type) where
  /-- The holder of `_op_lock`. -/
  opLock : Option κ
  /-- `_tx_completion_signal`. -/
  txSignal : Event (Option κ)
  /-- `_rx_completion_signal`. -/
  rxSignal : Event (Option κ)
  /-- `_tx_libusb_transfer->endpoint`. -/
  endpoint : SlU8
  /-- `_tx_libusb_transfer->buffer`, with its `length` bytes. -/
  buffer : List SlU8
  /-- `_tx_libusb_transfer->status`. -/
  status : TransferStatus
  /-- The transfer is with libusb: who has submitted it, and with which bytes. -/
  inFlight : Option (κ × List SlU8)
  /-- The transfer has ended, and its callback has not been called. -/
  callback : Bool
  outcomes : List (κ × List SlU8 × Submitted)
  results : List (κ × List SlU8 × ℤ)

/-- The channel and where the threads are. -/
structure Writes (κ : Type) extends TxChannel κ where
  pc : κ → WritePc

/-- A step of a thread in `write`, of the thread that handles events, or of the device. -/
inductive WritesStep (κ : Type) where
  /-- A thread calls `write`. -/
  | call (thread : κ) (data : List SlU8)
  /-- The next step of `write`. `submits`: whether libusb can submit a transfer. -/
  | write (thread : κ) (submits : Bool)
  /-- `pthread_cond_wait` ends without a signal. -/
  | wake (thread : κ) (result : CondResult)
  /-- A thread whose `pthread_cond_wait` has ended has the mutex of the event again. -/
  | resume (thread : κ)
  /-- The transfer ends: libusb stores its status. -/
  | transferEnds (status : TransferStatus) (actualLength : ℕ)
  /-- libusb handles its events. -/
  | handleEvents (chosen : ℕ)

variable {κ : Type}

namespace TxChannel

/-- A channel that `open` has just opened. -/
def opened (txEndpoint : SlU16) : TxChannel κ where
  opLock := none
  txSignal := .create true false
  rxSignal := .create true false
  endpoint := (txEndpoint &&& 0x0f#16).setWidth 8
  buffer := []
  status := .completed
  inFlight := none
  callback := false
  outcomes := []
  results := []

/-- What has become of a transfer is recorded. -/
def record (c : TxChannel κ) (k : κ) (data : List SlU8) (outcome : Submitted) : TxChannel κ :=
  { c with outcomes := c.outcomes ++ [(k, data, outcome)] }

/-- The transfer that is in flight ends, which the thread that handles events notices. -/
def transferEnds (c : TxChannel κ) (status : TransferStatus) (actualLength : ℕ) : TxChannel κ :=
  match c.inFlight with
  | none => c
  | some (k, data) =>
    if c.callback then c
    else { c.record k data ⟨true, true, status, actualLength⟩ with
      inFlight := none, callback := true, status := status }

/-- The end of `write`, which returns `actual_size`. -/
def unlock (c : TxChannel κ) (k : κ) (data : List SlU8) (actualSize : ℤ) : TxChannel κ :=
  { c with opLock := none, results := c.results ++ [(k, data, actualSize)] }

variable [DecidableEq κ]

/-- `transfer_cb_proc`. -/
def transferCbProc (c : TxChannel κ) (chosen : ℕ) : TxChannel κ :=
  if c.endpoint &&& 0x80#8 ≠ 0#8 then
    { c with rxSignal := c.rxSignal.step (.set none true chosen) }
  else { c with txSignal := c.txSignal.step (.set none true chosen) }

/-- libusb handles its events: it calls `transfer_cb_proc` if the transfer has ended. -/
def handleEvents (c : TxChannel κ) (chosen : ℕ) : TxChannel κ :=
  if c.callback then { c.transferCbProc chosen with callback := false } else c

/-- Where a thread goes with its next step in `write`, and what it does there. libusb refuses to
submit a transfer that is in flight. The result of `_tx_completion_signal.wait()` without a
timeout is always `EVENT_OK`. -/
def write (c : TxChannel κ) (k : κ) (submits : Bool) : WritePc → WritePc × TxChannel κ
  | .outside => (.outside, c)
  | .locking data =>
    if c.opLock = none then (.locked data, { c with opLock := some k }) else (.locking data, c)
  | .locked data =>
    (.cleared data, { c with
      buffer := data, txSignal := c.txSignal.step (.set (some k) false 0) })
  | .cleared data =>
    if submits && c.inFlight.isNone then (.submitted data, { c with inFlight := some (k, data) })
    else (.outside, (c.record k data ⟨false, false, .other, 0⟩).unlock k data 0)
  | .submitted data =>
    (.waiting data, { c with txSignal := c.txSignal.step (.wait (some k) waitForever) })
  | .waiting data =>
    if c.txSignal.inWait (some k) then (.waiting data, c)
    else (.outside, c.unlock k data (match c.status with
      | .completed => c.buffer.length
      | .stall => 0
      | .other => 0))

end TxChannel

namespace Writes

variable [DecidableEq κ]

/-- One step. -/
def step (s : Writes κ) : WritesStep κ → Writes κ
  | .call k data =>
    if s.pc k = .outside then { s with pc := Function.update s.pc k (.locking data) } else s
  | .write k submits =>
    let r := s.toTxChannel.write k submits (s.pc k)
    ⟨r.2, Function.update s.pc k r.1⟩
  | .wake k result => { s with txSignal := s.txSignal.step (.unblock (some k) result) }
  | .resume k => { s with txSignal := s.txSignal.step (.resume (some k)) }
  | .transferEnds status actualLength =>
    { s with toTxChannel := s.toTxChannel.transferEnds status actualLength }
  | .handleEvents chosen => { s with toTxChannel := s.toTxChannel.handleEvents chosen }

omit [DecidableEq κ] in
/-- A new channel, before any thread calls `write`. -/
def start (txEndpoint : SlU16) : Writes κ := ⟨.opened txEndpoint, fun _ => .outside⟩

/-- A write that has come back from its wait finds its transfer done: it is not in flight, and
the callback has been called. -/
def Finished (s : Writes κ) : Prop :=
  ∀ k data, s.pc k = .waiting data → s.txSignal.inWait (some k) = false →
    s.inFlight = none ∧ s.callback = false

/-- What `wait` asserts: the thread finds the event signalled. -/
def FindsSignal (s : Writes κ) : WritesStep κ → Prop
  | .resume k => s.txSignal.FindsSignal (.resume (some k))
  | _ => True

omit [DecidableEq κ] in
/-- The step is not a spurious wake-up. -/
def NotSpurious (_ : Writes κ) : WritesStep κ → Prop
  | .wake _ _ => False
  | _ => True

end Writes

end Slamkit
