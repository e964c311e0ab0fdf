import Slamkit.Driver
import Slamkit.System

/-!
# The UDP channel

`UdpChannel` over `DGramSocketImpl`: what its methods report for each outcome of the
system calls.
-/

namespace Slamkit

/-- `DGramSocketImpl::setPairAddress`, from the outcome of `::connect`. -/
def dgramSetPairAddress (ans : ConnectAnswer) : SlResult :=
  match ans with
  | .ok () => slResultOk
  | .error _ => slResultOperationFail

/-- The values of `errno` that `DGramSocketImpl::sendTo` tells apart. -/
inductive SendErrno where
  /-- `EAGAIN` or `EWOULDBLOCK`. -/
  | again
  /-- `EMSGSIZE`. -/
  | msgSize
  | other
  deriving DecidableEq

/-- `DGramSocketImpl::sendTo`, from the answer of `::sendto`. That it is the full length is
only asserted, and assertions are compiled out. -/
def dgramSendTo (ans : Except SendErrno ℕ) : SlResult :=
  match ans with
  | .ok _ => slResultOk
  | .error .again => slResultOperationTimeout
  | .error .msgSize => slResultInvalidData
  | .error .other => slResultOperationFail

/-- `DGramSocketImpl::recvFrom` into `len` bytes: the result and the bytes received. `::recvfrom`
cuts a datagram that is longer. -/
def dgramRecvFrom (len : ℕ) (ans : SysResult (List SlU8)) : SlResult × List SlU8 :=
  match ans with
  | .ok datagram => (slResultOk, datagram.take len)
  | .error block => (if block then slResultOperationTimeout else slResultOperationFail, [])

namespace UdpChannel

/-- `UdpChannel::write`: the result code of `sendTo` as an `int`. -/
def write (ans : Except SendErrno ℕ) : WriteResult where
  returned := (dgramSendTo ans).toInt
  accepted := match ans with
    | .ok sent => sent
    | .error _ => 0

/-- A command is accepted over UDP exactly if `::sendto` takes all its bytes. -/
theorem write_accepted_iff {n : ℕ} (hpos : 0 < n) (ans : Except SendErrno ℕ) :
    (write ans).accepted = n ↔ ans = .ok n := by
  unfold write
  cases ans with
  | error errno => simpa using hpos.ne
  | ok sent => simp

/-- What a call of `recvFrom` has stored: bytes from a place behind the start of the caller's
buffer on. -/
structure Store where
  start : ℕ
  bytes : List SlU8
  deriving DecidableEq

/-- The loop of `UdpChannel::read`, for the answers of `::recvfrom`: it ends with `recCnt` and
what has been stored. Every call is offered `size` bytes, wherever it stores them. -/
def readLoop (size : ℕ) : List (SysResult (List SlU8)) → ℕ → List Store → Option (ℕ × List Store)
  | [], recCnt, stores => if size > recCnt then none else some (recCnt, stores)
  | ans :: answers, recCnt, stores =>
    if size > recCnt then
      let r := dgramRecvFrom size ans
      let lenRec := r.2.length
      if r.1 ≠ slResultOk then some (recCnt + lenRec, stores ++ [⟨recCnt, r.2⟩])
      else readLoop size answers (recCnt + lenRec) (stores ++ [⟨recCnt, r.2⟩])
    else some (recCnt, stores)

/-- The outcome of `UdpChannel::read`: the `int` it returns, and what it has stored. -/
structure Received where
  returned : ℤ
  stores : List Store
  deriving DecidableEq

/-- `UdpChannel::read`. The number of bytes is returned as an `int`. -/
def read (size : ℕ) (answers : List (SysResult (List SlU8))) : Option Received :=
  (readLoop size answers 0 []).map fun r => ⟨(r.1 : ℤ).bmod (2 ^ 32), r.2⟩

end UdpChannel

end Slamkit
