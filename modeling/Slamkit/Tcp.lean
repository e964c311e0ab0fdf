import Slamkit.Driver
import Slamkit.System

/-!
# The TCP channel

`TcpChannel` over `StreamSocketImpl`: what the channel methods report for each
outcome of the system calls `select`, `send` and `recv` on an open socket.
-/

namespace Slamkit

/-- `StreamSocketImpl::connect`, from the outcome of `::connect`. -/
def streamConnect (ans : ConnectAnswer) : SlResult :=
  match ans with
  | .ok () => slResultOk
  | .error .afNoSupport => slResultOperationNotSupport
  | .error .timedOut => slResultOperationTimeout
  | .error .other => slResultOperationFail

/-- `StreamSocketImpl::waitforData`, from the number `select` returns. -/
def streamWaitforData (ans : ℤ) : SlResult :=
  if ans = 1 then slResultOk
  else if ans = 0 then slResultOperationTimeout
  else slResultOperationFail

/-- `StreamSocketImpl::send` of `len` bytes, from the outcome of `::send`. A short
count is reported by the `errno` then current, `wouldBlock`. -/
def streamSend (len : ℕ) (ans : SysResult ℕ) (wouldBlock : Bool) : SlResult :=
  match ans with
  | .ok sent =>
    if sent = len then slResultOk
    else if wouldBlock then slResultOperationTimeout else slResultOperationFail
  | .error block => if block then slResultOperationTimeout else slResultOperationFail

/-- `StreamSocketImpl::recv`: the result and the bytes received, from the outcome
of `::recv`. -/
def streamRecv (ans : SysResult (List SlU8)) : SlResult × List SlU8 :=
  match ans with
  | .ok bytes => (slResultOk, bytes)
  | .error block => (if block then slResultOperationTimeout else slResultOperationFail, [])

namespace TcpChannel

/-- `TcpChannel::waitForData`. Neither the number of bytes asked for nor the
number queued is looked at. -/
def waitForData (_size : ℕ) (ans : ℤ) : Bool := streamWaitforData ans == slResultOk

/-- A wait on a TCP socket succeeds exactly if `::select` reports the socket. -/
theorem waitForData_iff (size : ℕ) (ans : ℤ) : waitForData size ans = true ↔ ans = 1 := by
  unfold waitForData streamWaitforData
  by_cases hone : ans = 1
  · rw [if_pos hone]
    exact iff_of_true rfl hone
  · rw [if_neg hone]
    refine iff_of_false ?_ hone
    split <;> decide

/-- `TcpChannel::write`: the result code of `send` as an `int`. -/
def write (data : List SlU8) (ans : SysResult ℕ) (wouldBlock : Bool) : WriteResult where
  returned := (streamSend data.length ans wouldBlock).toInt
  accepted := match ans with
    | .ok sent => sent
    | .error _ => 0

/-- A command is accepted over TCP exactly if `::send` takes all its bytes. -/
theorem write_accepted_iff {data : List SlU8} (hpos : 0 < data.length)
    (ans : SysResult ℕ) (wouldBlock : Bool) :
    (write data ans wouldBlock).accepted = data.length ↔ ans = .ok data.length := by
  unfold write
  cases ans with
  | error block => simpa using hpos.ne
  | ok sent => simp

/-- `TcpChannel::read`: the number of bytes `recv` delivered. -/
def read (ans : SysResult (List SlU8)) : ReadResult where
  returned := (streamRecv ans).2.length
  stored := (streamRecv ans).2

end TcpChannel

/-- The outcomes of the system calls during one request over TCP. -/
structure TcpOutcomes where
  select : ℤ
  send : SysResult ℕ
  recv : SysResult (List SlU8)
  deriving DecidableEq

/-- A TCP channel on an open socket whose system calls have the given outcomes. -/
def tcpChannels (o : TcpOutcomes) : Channels Unit Unit
  | _, .«open», s => (true, s)
  | _, .close, s => ((), s)
  | _, .flush, s => ((), s)
  | _, .waitForData size _, s => (TcpChannel.waitForData size o.select, s)
  | _, .write data, s => (TcpChannel.write data o.send false, s)
  | _, .read _, s => (TcpChannel.read o.recv, s)
  | _, .clearReadCache, s => ((), s)

end Slamkit
