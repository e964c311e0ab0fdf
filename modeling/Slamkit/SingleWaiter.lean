import Slamkit.Event

/-!
# An event with at most one waiter

The steps of an event that no thread waits for, or one: whether a thread is in a wait, and what
`set`, `wait` and the two ends of `pthread_cond_wait` do then.
-/

namespace Slamkit

variable {κ : Type}

namespace Event

variable [DecidableEq κ] {e : Event κ}

/-- A thread is not in a wait if the waiters are others. -/
theorem inWait_eq_false {thread : κ} (hblocked : ∀ waiter ∈ e.blocked, waiter.thread ≠ thread)
    (hwoken : ∀ entry ∈ e.woken, entry.1.thread ≠ thread) : e.inWait thread = false := by
  unfold inWait blockedEntry wokenEntry
  rw [List.find?_eq_none.mpr (by simpa using hblocked),
    List.find?_eq_none.mpr (by simpa using hwoken)]
  rfl

/-- `set(true)` of an event that is not signalled. -/
theorem step_set_true {thread : κ} (hnot : e.inWait thread = false)
    (hunset : e.isSignalled = false) (chosen : ℕ) :
    e.step (.set thread true chosen) =
      { e.condSignal chosen with isSignalled := true, signals := e.signals + 1 } := by
  simp [step, set, hnot, hunset]

/-- `set(false)` of a thread that is not in a wait. -/
theorem step_set_false {thread : κ} (hnot : e.inWait thread = false) (chosen : ℕ) :
    e.step (.set thread false chosen) = { e with isSignalled := false } := by
  simp [step, set, hnot]

/-- `wait` blocks a thread if the event is not signalled. -/
theorem step_wait_unset {thread : κ} (hnot : e.inWait thread = false)
    (hunset : e.isSignalled = false) (timeout : ULong) :
    e.step (.wait thread timeout) = { e with blocked := e.blocked ++ [⟨thread, timeout⟩] } := by
  simp [step, wait, hnot, hunset]

/-- Otherwise it takes the signal. -/
theorem step_wait_set {thread : κ} (hnot : e.inWait thread = false)
    (hset : e.isSignalled = true) (timeout : ULong) :
    e.step (.wait thread timeout) = e.take thread := by
  simp [step, wait, hnot, hset]

/-- `set(true)` signals the event, or it does nothing. -/
theorem step_set_true_cases (e : Event κ) (thread : κ) (chosen : ℕ) :
    (e.step (.set thread true chosen)).isSignalled = true ∨
      e.step (.set thread true chosen) = e := by
  simp only [step, set, if_true]
  split
  · exact .inr rfl
  · split
    · exact .inl rfl
    · exact .inr rfl

omit [DecidableEq κ] in
/-- With no blocked thread there is nothing to unblock. -/
theorem condSignal_nil (hblocked : e.blocked = []) (chosen : ℕ) : e.condSignal chosen = e := by
  simp [condSignal, hblocked]

omit [DecidableEq κ] in
/-- With one blocked thread there is nothing to choose. -/
theorem condSignal_singleton {waiter : Waiter κ} (hblocked : e.blocked = [waiter]) (chosen : ℕ) :
    e.condSignal chosen = { e with blocked := [], woken := e.woken ++ [(waiter, .success)] } := by
  simp [condSignal, hblocked, Nat.mod_one]

/-- Only a blocked thread can be unblocked. -/
theorem step_unblock_nil (hblocked : e.blocked = []) (thread : κ) (result : CondResult) :
    e.step (.unblock thread result) = e := by
  simp [step, blockedEntry, hblocked]

/-- The only blocked thread is unblocked. -/
theorem step_unblock_singleton {waiter : Waiter κ} (hblocked : e.blocked = [waiter]) (thread : κ)
    (result : CondResult) :
    e.step (.unblock thread result) =
      if waiter.thread = thread then
        { e with blocked := [], woken := e.woken ++ [(waiter, result)] }
      else e := by
  by_cases hthread : waiter.thread = thread
  · simp [step, blockedEntry, hblocked, hthread]
  · simp [step, blockedEntry, hblocked, hthread]

/-- Only a woken thread can go on. -/
theorem step_resume_nil (hwoken : e.woken = []) (thread : κ) : e.step (.resume thread) = e := by
  simp [step, wokenEntry, hwoken]

/-- The only woken thread goes on. -/
theorem step_resume_singleton {waiter : Waiter κ} {result : CondResult}
    (hwoken : e.woken = [(waiter, result)]) (hforever : waiter.timeout = waitForever)
    (thread : κ) :
    e.step (.resume thread) =
      if waiter.thread = thread then { e with woken := [] }.take waiter.thread else e := by
  by_cases hthread : waiter.thread = thread
  · simp [step, wokenEntry, hwoken, afterCond, hforever, hthread]
  · simp [step, wokenEntry, hwoken, hthread]

end Event

end Slamkit
