import Slamkit.Driver
import Slamkit.Library.Fifo
import Slamkit.System

/-!
# The serial channel

`SerialPortChannel` over `raw_serial` of `net_serial.cpp`: the loops of `senddata` and
`waitfordata` and the transfer of `recvdata`, on a port whose kernel queue grows by
arrivals. What the system calls answer is given from outside, one answer for each call
in order; a loop that has used up its answers is still running.
-/

namespace Slamkit

open Library

/-- `serial_rxtx::ANS_OK`. -/
def ansOk : ℤ := 0

/-- `serial_rxtx::ANS_TIMEOUT`. -/
def ansTimeout : ℤ := -1

/-- `serial_rxtx::ANS_DEV_ERR`. -/
def ansDevErr : ℤ := -2

/-- The members of `raw_serial` that the data methods use. -/
structure RawSerial where
  /-- `_is_serial_opened`. -/
  isSerialOpened : Bool
  /-- `_baudrate`. -/
  baudrate : SlU32
  /-- Whether `_selfpipe` was created. -/
  selfpipe : Bool
  /-- `required_tx_cnt`. -/
  requiredTxCnt : ℕ
  /-- `required_rx_cnt`. -/
  requiredRxCnt : ℕ
  deriving DecidableEq

/-- The input queue of the port in the kernel. `FIONREAD` reports its length, and `::read` of
`n` bytes takes the first ones, as far as there are any. -/
abbrev Tty := Fifo SlU8

namespace RawSerial

/-- The loop of `senddata` from `tx_len` on, for the answers of `::write`: it ends with
`tx_len`, the bytes the kernel has taken and the port. `::write` takes at most what it is
given. -/
def sendLoop (data : List SlU8) :
    List (SysResult ℕ) → RawSerial → ℕ → List SlU8 → Option (ℕ × List SlU8 × RawSerial)
  | [], _, _, _ => none
  | .error _ :: _, s, txLen, taken => some (txLen, taken, s)
  | .ok room :: answers, s, txLen, taken =>
    let given := data.drop txLen
    let ans := min room given.length
    let s := { s with requiredTxCnt := txLen + ans }
    if txLen + ans < data.length then
      sendLoop data answers s (txLen + ans) (taken ++ given.take ans)
    else some (txLen + ans, taken ++ given.take ans, s)

/-- The outcome of `senddata`: the `int` it returns, the bytes the kernel has taken, and the
port afterwards. -/
structure Sending where
  returned : ℤ
  taken : List SlU8
  serial : RawSerial
  deriving DecidableEq

/-- `senddata`. The number of bytes is returned as an `int`. -/
def senddata (s : RawSerial) (data : List SlU8) (answers : List (SysResult ℕ)) : Option Sending :=
  if !s.isSerialOpened then some ⟨0, [], s⟩
  else if data.length = 0 then some ⟨0, [], s⟩
  else (sendLoop data answers { s with requiredTxCnt := 0 } 0 []).map fun r =>
    ⟨(r.1 : ℤ).bmod (2 ^ 32), r.2.1, r.2.2⟩

/-- `waitforsent`: its result, and the number stored in `*returned_size`. -/
def waitforsent (s : RawSerial) : ℤ × ℕ := (0, s.requiredTxCnt)

/-- `recvdata`: the bytes stored at the start of the caller's buffer, whose number is
returned, and the port and the queue afterwards. -/
def recvdata (s : RawSerial) (size : ℕ) (tty : Tty) : List SlU8 × RawSerial × Tty :=
  if !s.isSerialOpened then ([], s, tty)
  else
    let r := tty.take size
    (r.1, { s with requiredRxCnt := r.1.length }, r.2)

/-- A set of descriptors, as far as `waitfordata` uses it. -/
structure FdSet where
  serial : Bool
  selfpipe : Bool
  deriving DecidableEq

/-- The members of two sets. -/
def FdSet.inter (x y : FdSet) : FdSet := ⟨x.serial && y.serial, x.selfpipe && y.selfpipe⟩

/-- The answer of `::select`: an error, a timeout, or the descriptors that are ready and the
microseconds that are left. -/
inductive SelectResult where
  | error
  | timeout
  | ready (set : FdSet) (remaining : ℕ)
  deriving DecidableEq

/-- The answers to the system calls of one round of the loop of `waitfordata`: that of
`::select`, the bytes that arrive before the queue is looked at, and whether `ioctl`
succeeds. -/
structure WaitRound where
  select : SelectResult
  arriving : List SlU8
  ioctlOk : Bool
  deriving DecidableEq

/-- The calls of `waitfordata` that take time: `::select` with its set and timeout in
microseconds, and `usleep`. -/
inductive WaitCall where
  | select (set : FdSet) (timeout : ℕ)
  | usleep (time : SlS32)
  deriving DecidableEq

/-- How far a call of `waitfordata` has come: it is in its loop, it has divided by zero, or it
has returned an answer and stored `*returned_size`. -/
inductive WaitRun where
  | running
  | crashed
  | returned (ans : ℤ) (returnedSize : ℕ) (tty : Tty)
  deriving DecidableEq

/-- The time to pause for, from the microseconds that remain and the bytes that are missing.
Both times are computed as an `int`. -/
def pause (baudrate : SlU32) (remaining missing : ℕ) : Option SlS32 :=
  let remainTimeout : SlS32 := Int32.ofNat remaining
  let expectRemainTime : SlS32 := Int32.ofNat (missing * 1000000 * 8 % 2 ^ 64 / baudrate.toNat)
  if remainTimeout > expectRemainTime then some expectRemainTime else none

/-- The loop of `waitfordata`. `::select` leaves the ready descriptors in the set and the
remaining time in the timeout. -/
def waitLoop (s : RawSerial) (dataCount : ℕ) :
    List WaitRound → FdSet → ℕ → ℕ → Tty → List WaitCall × WaitRun
  | rounds, inputSet, timeoutVal, returnedSize, tty =>
    if !s.isSerialOpened then ([], .returned ansDevErr returnedSize tty)
    else match rounds with
    | [] => ([.select inputSet timeoutVal], .running)
    | round :: rounds =>
      match round.select with
      | .error => ([.select inputSet timeoutVal], .returned ansDevErr 0 tty)
      | .timeout => ([.select inputSet timeoutVal], .returned ansTimeout 0 tty)
      | .ready set remaining =>
        let readySet := inputSet.inter set
        if readySet.selfpipe then ([.select inputSet timeoutVal], .returned ansTimeout 0 tty)
        else
          let tty := tty.arrive round.arriving
          if !round.ioctlOk then
            ([.select inputSet timeoutVal], .returned ansDevErr returnedSize tty)
          else if tty.queue.length ≥ dataCount then
            ([.select inputSet timeoutVal], .returned ansOk tty.queue.length tty)
          else if s.baudrate = 0 then ([.select inputSet timeoutVal], .crashed)
          else
            let r := waitLoop s dataCount rounds readySet remaining tty.queue.length tty
            (.select inputSet timeoutVal ::
              ((pause s.baudrate remaining (dataCount - tty.queue.length)).map .usleep).toList ++
              r.1, r.2)

/-- `waitfordata`, with the calls it makes. Before the loop the queue is looked at once, after
`arriving` has arrived. -/
def waitfordata (s : RawSerial) (dataCount : ℕ) (timeout : SlU32) (arriving : List SlU8)
    (ioctlOk : Bool) (rounds : List WaitRound) (tty : Tty) : List WaitCall × WaitRun :=
  let inputSet : FdSet := ⟨true, s.selfpipe⟩
  let timeoutVal := timeout.toNat / 1000 * 1000000 + timeout.toNat % 1000 * 1000
  if !s.isSerialOpened then waitLoop s dataCount rounds inputSet timeoutVal 0 tty
  else
    let tty := tty.arrive arriving
    if !ioctlOk then ([], .returned ansDevErr 0 tty)
    else if tty.queue.length ≥ dataCount then ([], .returned ansOk tty.queue.length tty)
    else waitLoop s dataCount rounds inputSet timeoutVal tty.queue.length tty

end RawSerial

/-- The members of `SerialPortChannel`. -/
structure SerialPortChannel where
  /-- `_rxtxSerial`. -/
  rxtxSerial : RawSerial
  /-- `_closePending`. -/
  closePending : Bool
  deriving DecidableEq

namespace SerialPortChannel

/-- `write`. -/
def write (c : SerialPortChannel) (data : List SlU8) (answers : List (SysResult ℕ)) :
    Option (WriteResult × SerialPortChannel) :=
  (c.rxtxSerial.senddata data answers).map fun r =>
    (⟨r.returned, r.taken.length⟩, { c with rxtxSerial := r.serial })

/-- `read`. -/
def read (c : SerialPortChannel) (size : ℕ) (tty : Tty) : ReadResult × SerialPortChannel × Tty :=
  let r := c.rxtxSerial.recvdata size tty
  (⟨r.1.length, r.1⟩, { c with rxtxSerial := r.2.1 }, r.2.2)

/-- `waitForData`: its result, the number stored in `*actualReady` if it gets that far, and
the queue afterwards; `none` while it has not returned. -/
def waitForData (c : SerialPortChannel) (size : ℕ) (timeout : SlU32) (arriving : List SlU8)
    (ioctlOk : Bool) (rounds : List RawSerial.WaitRound) (tty : Tty) :
    Option (Bool × Option ℕ × Tty) :=
  if c.closePending then some (false, none, tty)
  else match (c.rxtxSerial.waitfordata size timeout arriving ioctlOk rounds tty).2 with
    | .returned ans returnedSize tty => some (ans == ansOk, some returnedSize, tty)
    | _ => none

end SerialPortChannel

end Slamkit
