import Slamkit.Serial
import Slamkit.SerialDescriptors

/-!
# The serial channel and its system calls

`SerialPortChannel` over `raw_serial` for Linux as an object with all its methods. The descriptors
are those of `SerialPort`, the data methods those of `RawSerial`, and every system call is recorded
with the descriptors it is given. What the system calls answer is given from outside.
-/

namespace Slamkit

open Library RawSerial

/-- A system call of `raw_serial` for Linux, or a use of a macro for sets of descriptors. -/
inductive PortCall where
  /-- A call that opens or closes descriptors. -/
  | fdCall (call : FdCall)
  | ioctl (fd : ℤ)
  | tcgetattr (fd : ℤ)
  | tcsetattr (fd : ℤ)
  | tcflush (fd : ℤ)
  | fcntl (fd : ℤ)
  /-- `FD_SET`. -/
  | fdSet (fd : ℤ)
  /-- `FD_ISSET`. -/
  | fdIsset (fd : ℤ)
  /-- `::select` on some descriptors, or `usleep`. -/
  | wait (call : WaitCall) (fds : List ℤ)
  | write (fd : ℤ)
  | read (fd : ℤ)
  /-- `::read` of single bytes until it returns -1. -/
  | drain (fd : ℤ)
  deriving DecidableEq

/-- The call, if it opens or closes descriptors. -/
def PortCall.fdCall? : PortCall → Option FdCall
  | .fdCall call => some call
  | _ => none

/-- The call, if it takes time in `waitfordata`. -/
def PortCall.waitCall? : PortCall → Option WaitCall
  | .wait call _ => some call
  | _ => none

/-- The descriptors a call is given. -/
def PortCall.descriptors : PortCall → List ℤ
  | .fdCall (.close fd) => [fd]
  | .fdCall (.open ..) | .fdCall (.pipe ..) => []
  | .ioctl fd | .tcgetattr fd | .tcsetattr fd | .tcflush fd | .fcntl fd | .fdSet fd | .fdIsset fd
  | .write fd | .read fd | .drain fd => [fd]
  | .wait _ fds => fds

/-- The members of `raw_serial` for Linux, and the system calls made so far, oldest first. -/
structure SerialRxtx where
  port : SerialPort
  /-- `required_tx_cnt`. -/
  requiredTxCnt : ℕ
  /-- `required_rx_cnt`. -/
  requiredRxCnt : ℕ
  calls : List PortCall
  deriving DecidableEq

namespace SerialRxtx

/-- What the data methods see of the members. -/
def view (s : SerialRxtx) : RawSerial where
  isSerialOpened := s.port.isSerialOpened
  baudrate := s.port.baudrate
  selfpipe := s.port.selfpipe.1 != -1
  requiredTxCnt := s.requiredTxCnt
  requiredRxCnt := s.requiredRxCnt

/-- Some system calls. -/
def issue (calls : List PortCall) (s : SerialRxtx) : SerialRxtx :=
  { s with calls := s.calls ++ calls }

/-- The constructor. -/
def new (gnuc : Bool) : SerialRxtx := ⟨SerialPort.new (.linux gnuc), 0, 0, []⟩

/-- `bind`. -/
def bind (portname : List SlU8) (baudrate flags : SlU32) (s : SerialRxtx) : Bool × SerialRxtx :=
  let r := s.port.bind portname baudrate flags
  (r.1, { s with port := r.2 })

/-- `::close` of a descriptor that is not -1. -/
def sysClose (fd : ℤ) (s : SerialRxtx) : SerialRxtx :=
  { s with
    port := s.port.sysClose fd
    calls := s.calls ++ if fd ≠ -1 then [.fdCall (.close fd)] else [] }

/-- `close`. -/
def close (s : SerialRxtx) : SerialRxtx :=
  let s := s.sysClose s.port.serialFd
  let s := { s with port := { s.port with serialFd := -1 } }
  let s := s.sysClose s.port.selfpipe.1
  let s := s.sysClose s.port.selfpipe.2
  { s with port := { s.port with selfpipe := (-1, -1), isSerialOpened := false } }

/-- `clearDTR`. -/
def clearDTR (s : SerialRxtx) : SerialRxtx :=
  if !s.port.isSerialOpened then s else s.issue [.ioctl s.port.serialFd]

/-- `::open`, whose result goes into `serial_fd`. -/
def sysOpen (fd : Option ℕ) (s : SerialRxtx) : SerialRxtx :=
  { s with
    port := s.port.sysOpen fd
    calls := s.calls ++ [.fdCall (.open s.port.portName fd)] }

/-- The block of `open` that makes the pipe. It ends with the first call of `fcntl` that fails:
the one after `pipeFlags` calls. -/
def makePipe (pipe : Option (ℕ × ℕ)) (pipeFlags : ℕ) (s : SerialRxtx) : SerialRxtx :=
  let s : SerialRxtx :=
    { s with port := s.port.sysPipe pipe, calls := s.calls ++ [.fdCall (.pipe pipe)] }
  if pipe.isNone then s
  else
    let pipe := s.port.selfpipe
    s.issue ([.fcntl pipe.1, .fcntl pipe.1, .fcntl pipe.2, .fcntl pipe.2].take (pipeFlags + 1))

/-- `open`. -/
def «open» (gnuc : Bool) (o : OpenOutcome) (pipeFlags : ℕ) (s : SerialRxtx) : Bool × SerialRxtx :=
  let s := if s.port.isSerialOpened then s.close else s
  let s := s.sysOpen o.fd
  let fd := s.port.serialFd
  if fd = -1 then (false, s)
  else
    let s := if gnuc then s.issue [.ioctl fd] else s.issue [.tcgetattr fd]
    if !gnuc && !termBauds.contains s.port.baudrate then (false, s.close)
    else
      let s := if gnuc then s.issue [.ioctl fd] else s.issue [.tcsetattr fd]
      if !gnuc && !o.tcsetattr then (false, s.close)
      else
        let s := s.issue [.tcflush fd, .fcntl fd]
        if !o.fcntl then (false, s.close)
        else
          let s := { s with port := { s.port with isSerialOpened := true } }
          (true, s.clearDTR.makePipe o.pipe pipeFlags)

/-- `cancelOperation`. -/
def cancelOperation (s : SerialRxtx) : SerialRxtx :=
  if s.port.selfpipe.2 = -1 then s else s.issue [.write s.port.selfpipe.2]

/-- `flush`. -/
def flush (s : SerialRxtx) : SerialRxtx := s.issue [.tcflush s.port.serialFd]

/-- `setDTR`. -/
def setDTR (s : SerialRxtx) : SerialRxtx :=
  if !s.port.isSerialOpened then s else s.issue [.ioctl s.port.serialFd]

/-- The calls of `::write` in the loop of `senddata` from `tx_len` on. -/
def sendCalls (fd : ℤ) (size : ℕ) : List (SysResult ℕ) → ℕ → List PortCall
  | [], _ => [.write fd]
  | .error _ :: _, _ => [.write fd]
  | .ok room :: answers, txLen =>
    let ans := min room (size - txLen)
    .write fd :: if txLen + ans < size then sendCalls fd size answers (txLen + ans) else []

/-- `senddata`: what `RawSerial.senddata` returns, with the calls it makes. -/
def senddata (s : SerialRxtx) (data : List SlU8) (answers : List (SysResult ℕ)) :
    Option (Sending × SerialRxtx) :=
  (s.view.senddata data answers).map fun r =>
    (r, { s.issue (if !s.port.isSerialOpened || data.length = 0 then []
            else sendCalls s.port.serialFd data.length answers 0) with
          requiredTxCnt := r.serial.requiredTxCnt })

/-- `recvdata`: what `RawSerial.recvdata` returns, with the call it makes. -/
def recvdata (s : SerialRxtx) (size : ℕ) (tty : Tty) : List SlU8 × SerialRxtx × Tty :=
  let r := s.view.recvdata size tty
  (r.1, { s.issue (if !s.port.isSerialOpened then [] else [.read s.port.serialFd]) with
    requiredRxCnt := r.2.1.requiredRxCnt }, r.2.2)

/-- The descriptors of a set. -/
def setFds (port : SerialPort) (set : FdSet) : List ℤ :=
  (if set.serial then [port.serialFd] else []) ++ if set.selfpipe then [port.selfpipe.1] else []

/-- The calls in the loop of `waitfordata`, which goes on as `RawSerial.waitLoop` does. -/
def loopCalls (port : SerialPort) (dataCount : ℕ) :
    List WaitRound → FdSet → ℕ → Tty → List PortCall
  | rounds, inputSet, timeoutVal, tty =>
    if !port.isSerialOpened then []
    else
      let select := .wait (.select inputSet timeoutVal) (setFds port inputSet)
      match rounds with
      | [] => [select]
      | round :: rounds =>
        match round.select with
        | .error => [select]
        | .timeout => [select]
        | .ready set remaining =>
          let readySet := inputSet.inter set
          if readySet.selfpipe then
            [select, .fdIsset port.selfpipe.1, .drain port.selfpipe.1]
          else
            let tty := tty.arrive round.arriving
            [select, .fdIsset port.selfpipe.1, .ioctl port.serialFd] ++
              if !round.ioctlOk then []
              else if tty.queue.length ≥ dataCount then []
              else if port.baudrate = 0 then []
              else
                ((pause port.baudrate remaining (dataCount - tty.queue.length)).map fun time =>
                  PortCall.wait (.usleep time) []).toList ++
                loopCalls port dataCount rounds readySet remaining tty

/-- The calls of `waitfordata`. -/
def waitCalls (port : SerialPort) (dataCount : ℕ) (timeout : SlU32) (arriving : List SlU8)
    (ioctlOk : Bool) (rounds : List WaitRound) (tty : Tty) : List PortCall :=
  let inputSet : FdSet := ⟨true, port.selfpipe.1 != -1⟩
  let timeoutVal := timeout.toNat / 1000 * 1000000 + timeout.toNat % 1000 * 1000
  .fdSet port.serialFd ::
    (if port.selfpipe.1 != -1 then [.fdSet port.selfpipe.1] else []) ++
    if !port.isSerialOpened then loopCalls port dataCount rounds inputSet timeoutVal tty
    else
      let tty := tty.arrive arriving
      .ioctl port.serialFd ::
        if !ioctlOk then []
        else if tty.queue.length ≥ dataCount then []
        else loopCalls port dataCount rounds inputSet timeoutVal tty

/-- The recorded calls of the loop that take time are those of `RawSerial.waitLoop`. -/
theorem loopCalls_waits (s : SerialRxtx) (dataCount : ℕ) (rounds : List WaitRound)
    (inputSet : FdSet) (timeoutVal returnedSize : ℕ) (tty : Tty) :
    (loopCalls s.port dataCount rounds inputSet timeoutVal tty).filterMap PortCall.waitCall? =
      (s.view.waitLoop dataCount rounds inputSet timeoutVal returnedSize tty).1 := by
  induction rounds generalizing inputSet timeoutVal returnedSize tty with
  | nil =>
    unfold loopCalls waitLoop
    cases hopen : s.port.isSerialOpened <;> simp [view, hopen, PortCall.waitCall?]
  | cons round rounds ih =>
    unfold loopCalls waitLoop
    cases hopen : s.port.isSerialOpened with
    | false => simp [view, hopen]
    | true =>
      simp only [view, hopen, Bool.not_true, if_neg Bool.false_ne_true]
      cases round.select with
      | error => rfl
      | timeout => rfl
      | ready set remaining =>
        dsimp only
        split
        · rfl
        · split
          · rfl
          · split
            · rfl
            · split
              · rfl
              · have hrest := ih (inputSet.inter set) remaining
                  (tty.arrive round.arriving).queue.length (tty.arrive round.arriving)
                simp only [view, hopen] at hrest
                rw [← hrest]
                cases pause s.port.baudrate remaining
                  (dataCount - (tty.arrive round.arriving).queue.length) <;> rfl

/-- **The recorded calls that take time** are those of `RawSerial.waitfordata`. -/
theorem waitCalls_waits (s : SerialRxtx) (dataCount : ℕ) (timeout : SlU32)
    (arriving : List SlU8) (ioctlOk : Bool) (rounds : List WaitRound) (tty : Tty) :
    (waitCalls s.port dataCount timeout arriving ioctlOk rounds tty).filterMap
        PortCall.waitCall? =
      (s.view.waitfordata dataCount timeout arriving ioctlOk rounds tty).1 := by
  have hloop := s.loopCalls_waits dataCount rounds ⟨true, s.port.selfpipe.1 != -1⟩
    (timeout.toNat / 1000 * 1000000 + timeout.toNat % 1000 * 1000)
  have hsets : ((if s.port.selfpipe.1 != -1 then [PortCall.fdSet s.port.selfpipe.1]
      else []).filterMap PortCall.waitCall?) = [] := by
    split <;> rfl
  unfold waitCalls waitfordata
  simp only [List.filterMap_append, List.cons_append, hsets, List.nil_append,
    List.filterMap_cons_none (show PortCall.waitCall? (.fdSet s.port.serialFd) = none from rfl)]
  cases hopen : s.port.isSerialOpened with
  | false =>
    rw [show s.view.isSerialOpened = false from hopen]
    exact hloop 0 tty
  | true =>
    rw [show s.view.isSerialOpened = true from hopen]
    cases ioctlOk with
    | false => rfl
    | true =>
      simp only [Bool.not_true, if_neg Bool.false_ne_true,
        List.filterMap_cons_none (show PortCall.waitCall? (.ioctl s.port.serialFd) = none from rfl)]
      split
      · rfl
      · exact hloop _ _

end SerialRxtx

/-- The members of `SerialPortChannel`. -/
structure SerialChannel where
  /-- `_rxtxSerial`. -/
  rxtxSerial : SerialRxtx
  /-- `_closePending`. -/
  closePending : Bool
  /-- `_device`. -/
  device : List SlU8
  /-- `_baudrate`. -/
  baudrate : SlS32
  deriving DecidableEq

namespace SerialChannel

/-- What the data methods see of the members. -/
def view (c : SerialChannel) : SerialPortChannel := ⟨c.rxtxSerial.view, c.closePending⟩

/-- The constructor. It leaves `_closePending` uninitialised. -/
def new (gnuc : Bool) (device : List SlU8) (baudrate : SlS32) (uninitialised : Bool) :
    SerialChannel := ⟨.new gnuc, uninitialised, device, baudrate⟩

/-- `bind`. -/
def bind (device : List SlU8) (baudrate : SlS32) (c : SerialChannel) : Bool × SerialChannel :=
  let c := { c with closePending := false }
  let r := c.rxtxSerial.bind device baudrate.toBitVec 0
  (r.1, { c with rxtxSerial := r.2 })

/-- `open`. -/
def «open» (gnuc : Bool) (o : OpenOutcome) (pipeFlags : ℕ) (c : SerialChannel) :
    Bool × SerialChannel :=
  let bound := c.bind c.device c.baudrate
  if !bound.1 then (false, bound.2)
  else
    let r := bound.2.rxtxSerial.open gnuc o pipeFlags
    (r.1, { bound.2 with rxtxSerial := r.2 })

/-- `close`. -/
def close (c : SerialChannel) : SerialChannel :=
  let c := { c with closePending := true }
  { c with rxtxSerial := c.rxtxSerial.cancelOperation.close }

/-- The destructor, which deletes `_rxtxSerial`. -/
def destroy (c : SerialChannel) : SerialChannel := { c with rxtxSerial := c.rxtxSerial.close }

/-- `setDTR`. -/
def setDTR (dtr : Bool) (c : SerialChannel) : SerialChannel :=
  { c with rxtxSerial := if dtr then c.rxtxSerial.setDTR else c.rxtxSerial.clearDTR }

end SerialChannel

/-- What the system calls of one method answer, and the bytes that arrive meanwhile. -/
structure SerialAnswers where
  /-- The system calls of `open`. -/
  opening : OpenOutcome
  /-- The calls of `fcntl` on the pipe that succeed before one fails. -/
  pipeFlags : ℕ
  /-- Bytes that arrive before the method looks at the queue. -/
  arriving : List SlU8
  /-- The first `ioctl` of `waitfordata` succeeds. -/
  ioctlOk : Bool
  /-- The rounds of `waitfordata`. If they end, `::select` reports a timeout. -/
  rounds : List WaitRound
  /-- The answers of `::write`. If they end, it fails. -/
  writes : List (SysResult ℕ)

/-- The round in which `::select` reports a timeout. -/
def timeoutRound : WaitRound := ⟨.timeout, [], true⟩

/-- A channel, the queue of its port in the kernel, and the answers to the methods still to be
called; `time` counts those that were called. Once a wait has divided by zero, the line has
`crashed`: the program has ended, and what the methods do from then on stands for nothing. -/
structure SerialLine where
  channel : SerialChannel
  tty : Tty
  answers : ℕ → SerialAnswers
  time : ℕ
  crashed : Bool

namespace SerialLine

/-- The answers to the next method. -/
def now (s : SerialLine) : SerialAnswers := s.answers s.time

/-- The bytes of the next method arrive. -/
def received (s : SerialLine) : Tty := s.tty.arrive s.now.arriving

/-- `open`. It discards what is queued by `tcflush`, if it gets that far. -/
def «open» (gnuc : Bool) (s : SerialLine) : Bool × SerialLine :=
  let o := s.now.opening
  let r := s.channel.open gnuc o s.now.pipeFlags
  let flushes := o.fd.isSome &&
    (gnuc || (termBauds.contains s.channel.baudrate.toBitVec && o.tcsetattr))
  (r.1, { s with
    channel := r.2
    tty := if flushes then { s.received with queue := [] } else s.received
    time := s.time + 1 })

/-- `close`. -/
def close (s : SerialLine) : SerialLine :=
  { s with channel := s.channel.close, tty := s.received, time := s.time + 1 }

/-- `flush`: `tcflush` discards what is queued on an open port. -/
def flush (s : SerialLine) : SerialLine :=
  { s with
    channel := { s.channel with rxtxSerial := s.channel.rxtxSerial.flush }
    tty := if s.channel.rxtxSerial.port.serialFd ≠ -1 then { s.received with queue := [] }
      else s.received
    time := s.time + 1 }

/-- The next `waitForData` divides by zero. -/
def divides (size : ℕ) (timeout : SlU32) (s : SerialLine) : Bool :=
  !s.channel.closePending &&
    (s.channel.view.rxtxSerial.waitfordata size timeout s.now.arriving s.now.ioctlOk
      (s.now.rounds ++ [timeoutRound]) s.tty).2 == .crashed

/-- `waitForData`. A division by zero ends the program here, which only `crashed` tells. -/
def waitForData (size : ℕ) (timeout : SlU32) (s : SerialLine) : Bool × SerialLine :=
  let rounds := s.now.rounds ++ [timeoutRound]
  let r := (s.channel.view.waitForData size timeout s.now.arriving s.now.ioctlOk rounds
    s.tty).getD (false, none, s.tty)
  let calls := if s.channel.closePending then []
    else SerialRxtx.waitCalls s.channel.rxtxSerial.port size timeout s.now.arriving s.now.ioctlOk
      rounds s.tty
  (r.1, { s with
    channel := { s.channel with rxtxSerial := s.channel.rxtxSerial.issue calls }
    tty := r.2.2
    time := s.time + 1
    crashed := s.crashed || s.divides size timeout })

/-- `write`. -/
def write (data : List SlU8) (s : SerialLine) : WriteResult × SerialLine :=
  let r := (s.channel.rxtxSerial.senddata data (s.now.writes ++ [.error false])).getD
    (⟨0, [], s.channel.rxtxSerial.view⟩, s.channel.rxtxSerial)
  (⟨r.1.returned, r.1.taken.length⟩, { s with
    channel := { s.channel with rxtxSerial := r.2 }
    tty := s.received
    time := s.time + 1 })

/-- `read`. -/
def read (size : ℕ) (s : SerialLine) : ReadResult × SerialLine :=
  let r := s.channel.rxtxSerial.recvdata size s.received
  (⟨r.1.length, r.1⟩, { s with
    channel := { s.channel with rxtxSerial := r.2.1 }
    tty := r.2.2
    time := s.time + 1 })

/-- `clearReadCache`, which does nothing. -/
def clearReadCache (s : SerialLine) : SerialLine :=
  { s with tty := s.received, time := s.time + 1 }

/-- A new channel. -/
def new (gnuc : Bool) (device : List SlU8) (baudrate : SlS32) (uninitialised : Bool)
    (answers : ℕ → SerialAnswers) : SerialLine :=
  ⟨.new gnuc device baudrate uninitialised, ⟨[], []⟩, answers, 0, false⟩

end SerialLine

/-- The serial channel behind `IChannel`. -/
def serialChannels (gnuc : Bool) : Channels Unit SerialLine
  | _, .«open», s => s.open gnuc
  | _, .close, s => ((), s.close)
  | _, .flush, s => ((), s.flush)
  | _, .waitForData size timeout, s => s.waitForData size timeout
  | _, .write data, s => s.write data
  | _, .read size, s => s.read size
  | _, .clearReadCache, s => ((), s.clearReadCache)

end Slamkit
