import Slamkit.Library.Fairness
import Slamkit.SharedDriver

/-!
# The critical sections of requests

Clients that share a driver take single steps in any order: the methods of the channel, the
accesses to the fields of the driver, and the operations of its lock. A request holds the lock
around each of its two parts, so that all its calls fall into critical sections. This file shows
that it is enough to look at whole sections, as the file on shared drivers does.
-/

namespace Slamkit

open Library

variable {ι σ β κ : Type}

/-- The operations of `_lock`. -/
def driverLocks : LockOps (DriverOp ι) where
  isLock
    | .lock => true
    | _ => false
  isUnlock := isUnlock
  isUnlock_of_isLock op hop := by
    cases op with
    | lock => rfl
    | _ => cases hop

/-- A call of a channel method does not touch the lock. -/
theorem plain_invoke (op : ChannelOp) {f : op.Result → DriverProgram ι β}
    (hf : ∀ r, (f r).Plain driverLocks) : (invoke op >>= f).Plain driverLocks :=
  .call rfl rfl fun _ => .call rfl rfl hf

/-- `_sendCommand` does not touch the lock. -/
theorem plain_sendCommand (cmd : SlU8) (payload : List SlU8) :
    (sendCommand cmd payload : DriverProgram ι SlResult).Plain driverLocks := by
  refine .call rfl rfl fun connected => ?_
  cases connected with
  | false => exact .done _
  | true =>
    refine plain_invoke .flush fun _ => ?_
    refine plain_invoke .clearReadCache fun _ => ?_
    exact plain_invoke (.write _) fun _ => .done _

/-- `_waitResponse` does not touch the lock. -/
theorem plain_waitResponse (payload : List SlU8) (size : ℕ) (timeout : SlU32) :
    (waitResponse payload size timeout : DriverProgram ι _).Plain driverLocks := by
  refine .call rfl rfl fun connected => ?_
  cases connected with
  | false => exact .done _
  | true =>
    refine plain_invoke (.waitForData _ _) fun ready => ?_
    cases ready with
    | false => exact .done _
    | true => exact plain_invoke (.read _) fun _ => .done _

/-- A release of the lock at the end of a section. -/
theorem locked_release {p : DriverProgram ι β} (hp : p.Locked driverLocks false) :
    (release >>= fun _ => p).Locked driverLocks true :=
  .unlock rfl fun _ => hp

/-- The waiting part of a request respects the lock. -/
theorem Request.locked_waiting (r : Request) (out : r.Output) (timeout : SlU32) :
    (r.waiting out timeout : DriverProgram ι _).Locked driverLocks false := by
  refine .lock rfl fun _ => ?_
  refine (plain_waitResponse zeroBuffer r.size timeout).bind fun response => ?_
  apply locked_release
  split
  · exact .done _
  · exact .done _

/-- Every request respects the lock. -/
theorem Request.locked (r : Request) (out : r.Output) (timeout : SlU32) :
    (r.program out timeout : DriverProgram ι _).Locked driverLocks false := by
  rw [r.program_eq, transact]
  refine .lock rfl fun _ => ?_
  refine (plain_sendCommand _ _).bind fun ans => ?_
  apply locked_release
  split
  · exact .done _
  · exact r.locked_waiting out timeout

/-- Code that uses the driver only to make requests, each of which may depend on the results of
those before it. -/
inductive MakesRequests : DriverProgram ι β → Prop
  | done (b : β) : MakesRequests (.done b)
  | request (q : Query) {f : SlResult × q.request.Output → DriverProgram ι β}
      (hrest : ∀ result, MakesRequests (f result)) :
      MakesRequests (q.request.program q.out q.timeout >>= f)

/-- Such code respects the lock. -/
theorem MakesRequests.locked {p : DriverProgram ι β} (hp : MakesRequests p) :
    p.Locked driverLocks false := by
  induction hp with
  | done b => exact .done b
  | request q _ ih => exact (q.request.locked q.out q.timeout).bind ih

variable [DecidableEq κ]

/-- **The sections of requests are atomic.** Clients that use a driver only to make requests take
single steps in any order, whatever its channel does and whether it is connected or not. Once the
section under way has ended, they have done what their sections do one after the other, in the
order in which the lock was taken. A channel method is called only by the client that holds the
lock, some client can always go on, and in the end the lock is free. -/
theorem requests_atomic (channels : Channels ι σ) (driver : DriverState ι σ) {α : κ → Type}
    (progs : (k : κ) → DriverProgram ι (α k)) (hprogs : ∀ k, MakesRequests (progs k))
    (steps : List κ) :
    let t : Threads (DriverOp ι) DriverOp.Result (DriverState ι σ) α := ⟨driver, progs⟩
    let s := steps.foldl (Interleaving.step driverLocks (DriverState.handle channels)) (.start t)
    s.complete driverLocks (DriverState.handle channels) =
        s.order.foldl (Threads.section driverLocks (DriverState.handle channels)) t ∧
      (∀ k channel op next, s.progs k = .call (.call channel op) next → s.holder = some k) ∧
      (∀ k, s.toThreads.Active k → ∃ j op next, s.progs j = .call op next ∧
        (driverLocks.isLock op = true → s.holder = none)) ∧
      ((∀ k, ∃ a, s.progs k = .done a) → s.holder = none) := by
  intro t s
  have hinv := Interleaving.sections_atomic driverLocks (DriverState.handle channels)
    (t := t) (fun k => (hprogs k).locked) steps
  refine ⟨hinv.complete, ?_, fun k hk => hinv.progress hk, hinv.free_of_done⟩
  intro k channel op next hnext
  by_contra hholder
  have hlocked := hinv.locked k
  rw [hnext, decide_eq_false hholder] at hlocked
  cases hlocked with
  | lock hlock => cases hlock

/-- Two clients ask for the raw readings, and their steps alternate. -/
theorem requests_atomic_two :
    let progs : Bool → DriverProgram Unit (SlResult × ImuRawData) := fun _ =>
      (Request.imuRaw.program zeroImuRawData 5 : DriverProgram Unit _) >>= .done
    let t : Threads (DriverOp Unit) DriverOp.Result (DriverState Unit Unit) (fun _ : Bool => _) :=
      ⟨connectedDriver, progs⟩
    let s := ((List.replicate 40 [true, false]).flatten).foldl
      (Interleaving.step driverLocks (DriverState.handle (cannedChannels []))) (.start t)
    s.order = [true, false, true, false] ∧ s.holder = none ∧
      s.complete driverLocks (DriverState.handle (cannedChannels [])) =
        s.order.foldl (Threads.section driverLocks (DriverState.handle (cannedChannels []))) t := by
  refine ⟨by decide +kernel, by decide +kernel, ?_⟩
  exact (requests_atomic (cannedChannels []) connectedDriver _
    (fun _ => .request ⟨.imuRaw, zeroImuRawData, 5⟩ fun result => .done result) _).1

/-- **Requests end.** Finitely many clients use a driver only to make requests, whatever its channel
does and whether it is connected or not. Under every schedule that lets each client take steps again
and again there is a step from which nothing changes any more: all clients are done, the lock is
free, and the sections of the clients, one after the other in the order in which the lock was taken,
have led there. -/
theorem requests_end [Finite κ] (channels : Channels ι σ) (driver : DriverState ι σ)
    {α : κ → Type} (progs : (k : κ) → DriverProgram ι (α k))
    (hprogs : ∀ k, MakesRequests (progs k)) {schedule : ℕ → κ} (hfair : Fair schedule) :
    let t : Threads (DriverOp ι) DriverOp.Result (DriverState ι σ) α := ⟨driver, progs⟩
    let after := Interleaving.after driverLocks (DriverState.handle channels) t schedule
    ∃ n, (∀ m, n ≤ m → after m = after n) ∧ (∀ k, ∃ a, (after n).progs k = .done a) ∧
      (after n).holder = none ∧
      (after n).toThreads =
        (after n).order.foldl (Threads.section driverLocks (DriverState.handle channels)) t := by
  intro t after
  exact Interleaving.ends_of_fair driverLocks (DriverState.handle channels)
    (fun k => (hprogs k).locked) hfair

/-- Two clients take turns. -/
theorem fair_alternating : Fair fun n => decide (n % 2 = 0) := by
  intro k n
  cases k with
  | true => exact ⟨2 * n, by omega, decide_eq_true (by omega)⟩
  | false => exact ⟨2 * n + 1, by omega, decide_eq_false (by omega)⟩

/-- Two clients that ask for the raw readings end. -/
theorem requests_end_two :
    let progs : Bool → DriverProgram Unit (SlResult × ImuRawData) := fun _ =>
      (Request.imuRaw.program zeroImuRawData 5 : DriverProgram Unit _) >>= .done
    let after := Interleaving.after driverLocks (DriverState.handle (cannedChannels []))
      (⟨connectedDriver, progs⟩ : Threads _ _ _ fun _ => _) fun n => decide (n % 2 = 0)
    ∃ n, (∀ m, n ≤ m → after m = after n) ∧ ∀ k, ∃ a, (after n).progs k = .done a := by
  intro progs after
  obtain ⟨n, hstays, hdone, -⟩ := requests_end (cannedChannels []) connectedDriver progs
    (fun _ => .request ⟨.imuRaw, zeroImuRawData, 5⟩ fun result => .done result) fair_alternating
  exact ⟨n, hstays, hdone⟩

end Slamkit
