import Slamkit.Protocol

/-!
# System calls

The outcomes of the system calls that the transports of the channels rest on, as far as
several of them share them.
-/

namespace Slamkit

/-- The outcome of a system call that transfers bytes: a value, or `-1` with an
`errno` that says whether the call would have blocked. -/
inductive SysResult (α : Type) where
  | ok (value : α)
  | error (wouldBlock : Bool)
  deriving DecidableEq

/-- The values of `errno` after a failed `::connect` that `StreamSocketImpl::connect` tells
apart. -/
inductive ConnectErrno where
  /-- `EAFNOSUPPORT`. -/
  | afNoSupport
  /-- `ETIMEDOUT`. -/
  | timedOut
  | other
  deriving DecidableEq

/-- The outcome of `::connect`. -/
abbrev ConnectAnswer := Except ConnectErrno Unit

end Slamkit
