import Slamkit.Library.Run

/-!
# The event of the hardware layer

`Event` of `event.h` on POSIX: a flag behind a mutex, with a condition variable for the
threads that wait for it. Every stretch of code with the mutex held is one step, and the
steps of any threads come in any order. A thread that has been unblocked goes on without a
second look at the flag; this file says what follows for the number of waits that succeed.
-/

namespace Slamkit

open Library

/-- `unsigned long`. -/
abbrev ULong := BitVec 64

/-- `Event::EVENT_OK`. -/
def eventOk : ULong := 1#64

/-- `Event::EVENT_FAILED`. -/
def eventFailed : ULong := 0#64

/-- `Event::EVENT_TIMEOUT`. -/
def eventTimeout : ULong := 0xFFFFFFFFFFFFFFFF#64

/-- The timeout with which `wait` calls `pthread_cond_wait`. -/
def waitForever : ULong := 0xFFFFFFFF#64

/-- What `pthread_cond_wait` or `pthread_cond_timedwait` returns. -/
inductive CondResult where
  /-- Zero: the thread was signalled, or woken spuriously. -/
  | success
  /-- `ETIMEDOUT`. -/
  | timedOut
  | error
  deriving DecidableEq

/-- A thread in `wait`, with its timeout. -/
structure Waiter (κ : Type) where
  thread : κ
  timeout : ULong
  deriving DecidableEq

/-- An event with the threads `κ` that wait for it. `returned` and `signals` record what has
happened: the calls of `wait` that have returned, with their results, and the number of
`set(true)` calls that found the event unsignalled. -/
structure Event (κ : Type) where
  /-- `_is_signalled`. -/
  isSignalled : Bool
  /-- `_isAutoReset`. -/
  isAutoReset : Bool
  /-- The threads that are blocked on `_cond_var`. -/
  blocked : List (Waiter κ)
  /-- The threads that have been unblocked and wait for the mutex. -/
  woken : List (Waiter κ × CondResult)
  returned : List (κ × ULong)
  signals : ℕ
  deriving DecidableEq

/-- A step of one of the threads with the mutex held, or an unblocking. -/
inductive EventStep (κ : Type) where
  /-- A call of `set`. `chosen` is the choice that `pthread_cond_signal` makes. -/
  | set (thread : κ) (isSignal : Bool) (chosen : ℕ)
  /-- A call of `wait`, up to its return or to the condition variable. -/
  | wait (thread : κ) (timeout : ULong)
  /-- A blocked thread is unblocked without a signal: spuriously, by its timeout or by an
  error. -/
  | unblock (thread : κ) (result : CondResult)
  /-- An unblocked thread has the mutex again. -/
  | resume (thread : κ)
  deriving DecidableEq

namespace Event

variable {κ : Type}

/-- The constructor. -/
def create (isAutoReset isSignal : Bool) : Event κ := ⟨isSignal, isAutoReset, [], [], [], 0⟩

/-- `pthread_cond_signal`, which unblocks one of the blocked threads, if there are any. -/
def condSignal (s : Event κ) (chosen : ℕ) : Event κ :=
  match s.blocked[chosen % s.blocked.length]? with
  | none => s
  | some waiter =>
    { s with
      blocked := s.blocked.eraseIdx (chosen % s.blocked.length)
      woken := s.woken ++ [(waiter, .success)] }

/-- `set`. -/
def set (s : Event κ) (isSignal : Bool) (chosen : ℕ) : Event κ :=
  if isSignal then
    if s.isSignalled = false then
      { s.condSignal chosen with isSignalled := true, signals := s.signals + 1 }
    else s
  else { s with isSignalled := false }

/-- The return of `wait` with a result. -/
def finish (s : Event κ) (thread : κ) (ans : ULong) : Event κ :=
  { s with returned := s.returned ++ [(thread, ans)] }

/-- The end of `wait` behind the condition variable. The assertion that the event is signalled
is compiled out. -/
def take (s : Event κ) (thread : κ) : Event κ :=
  { s with isSignalled := if s.isAutoReset then false else s.isSignalled }.finish thread eventOk

/-- `wait`, up to its return or to the condition variable. -/
def wait (s : Event κ) (thread : κ) (timeout : ULong) : Event κ :=
  if !s.isSignalled then { s with blocked := s.blocked ++ [⟨thread, timeout⟩] }
  else s.take thread

/-- `wait` after the condition variable has returned. The result of `pthread_cond_wait` is not
looked at. -/
def afterCond (s : Event κ) (waiter : Waiter κ) (result : CondResult) : Event κ :=
  if waiter.timeout = waitForever then s.take waiter.thread
  else match result with
    | .success => s.take waiter.thread
    | .timedOut => s.finish waiter.thread eventTimeout
    | .error => s.finish waiter.thread eventFailed

variable [DecidableEq κ]

/-- The entry of a thread that has been unblocked. -/
def wokenEntry (s : Event κ) (thread : κ) : Option (Waiter κ × CondResult) :=
  s.woken.find? (·.1.thread = thread)

/-- The entry of a blocked thread. -/
def blockedEntry (s : Event κ) (thread : κ) : Option (Waiter κ) :=
  s.blocked.find? (·.thread = thread)

/-- The thread has called `wait`, and the call has not returned. -/
def inWait (s : Event κ) (thread : κ) : Bool :=
  (s.blockedEntry thread).isSome || (s.wokenEntry thread).isSome

/-- One step. A thread in `wait` makes no other call, and what is not possible does nothing. -/
def step (s : Event κ) : EventStep κ → Event κ
  | .set thread isSignal chosen => if s.inWait thread then s else s.set isSignal chosen
  | .wait thread timeout => if s.inWait thread then s else s.wait thread timeout
  | .unblock thread result =>
    match s.blockedEntry thread with
    | none => s
    | some waiter =>
      { s with blocked := s.blocked.erase waiter, woken := s.woken ++ [(waiter, result)] }
  | .resume thread =>
    match s.wokenEntry thread with
    | none => s
    | some (waiter, result) =>
      { s with woken := s.woken.erase (waiter, result) }.afterCond waiter result

/-- The number of calls of `wait` that have returned `EVENT_OK`. -/
def okReturns (s : Event κ) : ℕ := s.returned.countP (·.2 = eventOk)

/-- A thread that goes on to return `EVENT_OK` finds the event signalled, as `wait` asserts. -/
def FindsSignal (s : Event κ) : EventStep κ → Prop
  | .resume thread => ∀ waiter result, s.wokenEntry thread = some (waiter, result) →
      waiter.timeout = waitForever ∨ result = .success → s.isSignalled = true
  | _ => True

/-- A step does not throw a signal away: `set(false)` finds the event unsignalled. -/
def KeepsSignal (s : Event κ) : EventStep κ → Prop
  | .set _ false _ => s.isSignalled = false
  | _ => True

omit [DecidableEq κ] in
/-- A signal of the condition variable only moves a thread. -/
theorem condSignal_frame (s : Event κ) (chosen : ℕ) :
    (s.condSignal chosen).isAutoReset = s.isAutoReset ∧
      (s.condSignal chosen).returned = s.returned := by
  unfold condSignal
  split
  · exact ⟨rfl, rfl⟩
  · exact ⟨rfl, rfl⟩

omit [DecidableEq κ] in
/-- The return of `wait` at its end takes the signal and counts. -/
theorem take_spec {s : Event κ} (hauto : s.isAutoReset = true) (thread : κ) :
    (s.take thread).isAutoReset = true ∧ (s.take thread).isSignalled = false ∧
      (s.take thread).okReturns = s.okReturns + 1 ∧ (s.take thread).signals = s.signals := by
  simp [take, finish, okReturns, hauto]

omit [DecidableEq κ] in
/-- The return of `wait` with another result does not count. -/
theorem okReturns_finish (s : Event κ) (thread : κ) {ans : ULong} (h : ans ≠ eventOk) :
    (s.finish thread ans).okReturns = s.okReturns := by
  simp [finish, okReturns, h]

/-- What a step does to the flag and the counts of an auto-reset event. -/
inductive Effect (s : Event κ) (a : EventStep κ) (s' : Event κ) : Prop where
  | none (hsignalled : s'.isSignalled = s.isSignalled) (hreturns : s'.okReturns = s.okReturns)
      (hsignals : s'.signals = s.signals) (hfinds : s.FindsSignal a)
  /-- `set(true)` finds the event unsignalled. -/
  | signal (hbefore : s.isSignalled = false) (hsignalled : s'.isSignalled = true)
      (hreturns : s'.okReturns = s.okReturns) (hsignals : s'.signals = s.signals + 1)
      (hfinds : s.FindsSignal a)
  /-- `set(false)`. -/
  | reset (hkeeps : s.KeepsSignal a → s.isSignalled = false) (hsignalled : s'.isSignalled = false)
      (hreturns : s'.okReturns = s.okReturns) (hsignals : s'.signals = s.signals)
      (hfinds : s.FindsSignal a)
  /-- A call of `wait` returns `EVENT_OK`. -/
  | take (hfinds : s.FindsSignal a ↔ s.isSignalled = true) (hsignalled : s'.isSignalled = false)
      (hreturns : s'.okReturns = s.okReturns + 1) (hsignals : s'.signals = s.signals)

/-- Every step has one of these effects, and an auto-reset event remains one. -/
theorem step_effect {s : Event κ} (hauto : s.isAutoReset = true) (a : EventStep κ) :
    (s.step a).isAutoReset = true ∧ Effect s a (s.step a) := by
  have hidle : ∀ {a : EventStep κ}, s.FindsSignal a → Effect s a s := fun hfinds =>
    .none rfl rfl rfl hfinds
  cases a with
  | set thread isSignal chosen =>
    rw [step]
    split
    · exact ⟨hauto, hidle trivial⟩
    · cases isSignal with
      | false => exact ⟨hauto, .reset id rfl rfl rfl trivial⟩
      | true =>
        rw [set, if_pos rfl]
        split
        · next hunset =>
          obtain ⟨hframe, hreturned⟩ := s.condSignal_frame chosen
          have hreturns := congrArg (List.countP fun r => decide (r.2 = eventOk)) hreturned
          exact ⟨hframe.trans hauto, .signal hunset rfl hreturns rfl trivial⟩
        · exact ⟨hauto, hidle trivial⟩
  | wait thread timeout =>
    rw [step]
    split
    · exact ⟨hauto, hidle trivial⟩
    · rw [wait]
      split
      · exact ⟨hauto, .none rfl rfl rfl trivial⟩
      · next hset =>
        obtain ⟨hauto', hsignalled, hreturns, hsignals⟩ := take_spec hauto thread
        exact ⟨hauto', .take (iff_of_true trivial (by simpa using hset)) hsignalled hreturns
          hsignals⟩
  | unblock thread result =>
    rw [step]
    split
    · exact ⟨hauto, hidle trivial⟩
    · exact ⟨hauto, .none rfl rfl rfl trivial⟩
  | resume thread =>
    rw [step]
    split
    · next hnone =>
      refine ⟨hauto, hidle fun waiter result hentry => ?_⟩
      rw [hnone] at hentry
      cases hentry
    · next waiter result hentry =>
      -- the state in which the thread goes on
      have hfinds (hok : waiter.timeout = waitForever ∨ result = .success) :
          s.FindsSignal (.resume thread) ↔ s.isSignalled = true := by
        refine ⟨fun h => h waiter result hentry hok, fun h _ _ _ _ => h⟩
      have hother (hno : ¬ (waiter.timeout = waitForever ∨ result = .success)) :
          s.FindsSignal (.resume thread) := by
        intro waiter' result' hentry' hok
        rw [hentry, Option.some.injEq, Prod.mk.injEq] at hentry'
        obtain ⟨rfl, rfl⟩ := hentry'
        exact absurd hok hno
      obtain ⟨hauto', hsignalled, hreturns, hsignals⟩ :=
        take_spec (s := { s with woken := s.woken.erase (waiter, result) }) hauto waiter.thread
      unfold afterCond
      split
      · next hforever =>
        exact ⟨hauto', .take (hfinds (.inl hforever)) hsignalled hreturns hsignals⟩
      · next htimed =>
        cases result with
        | success => exact ⟨hauto', .take (hfinds (.inr rfl)) hsignalled hreturns hsignals⟩
        | timedOut =>
          refine ⟨hauto, .none rfl ?_ rfl (hother (by simp [htimed]))⟩
          exact okReturns_finish _ _ (by decide)
        | error =>
          refine ⟨hauto, .none rfl ?_ rfl (hother (by simp [htimed]))⟩
          exact okReturns_finish _ _ (by decide)

/-- No more calls of `wait` have returned `EVENT_OK` than calls of `set(true)` have found the
event unsignalled, and one for an event that was created signalled. -/
def ReleasesOnce (isSignal : Bool) (s : Event κ) : Prop :=
  s.okReturns ≤ s.signals + isSignal.toNat

/-- The states of an auto-reset event whose waits find it signalled: every return is paid for,
and so is the flag. -/
structure Paid (isSignal : Bool) (s : Event κ) : Prop where
  isAutoReset : s.isAutoReset = true
  returns : s.okReturns + s.isSignalled.toNat ≤ s.signals + isSignal.toNat

/-- The states of such an event that has not lost a signal. -/
structure Balanced (isSignal : Bool) (s : Event κ) : Prop where
  isAutoReset : s.isAutoReset = true
  returns : s.okReturns + s.isSignalled.toNat = s.signals + isSignal.toNat

/-- A step that finds its signal keeps the account, except for a signal that is thrown away. -/
theorem step_account {s : Event κ} (hauto : s.isAutoReset = true) {a : EventStep κ}
    (hfinds : s.FindsSignal a) :
    ∃ lost, (s.step a).okReturns + (s.step a).isSignalled.toNat + lost + s.signals =
      s.okReturns + s.isSignalled.toNat + (s.step a).signals ∧ (s.KeepsSignal a → lost = 0) := by
  obtain ⟨-, heffect⟩ := step_effect hauto a
  cases heffect with
  | none hsignalled hreturns hsignals _ =>
    exact ⟨0, by rw [hsignalled, hreturns, hsignals, Nat.add_zero], fun _ => rfl⟩
  | signal hbefore hsignalled hreturns hsignals _ =>
    refine ⟨0, ?_, fun _ => rfl⟩
    rw [hbefore, hsignalled, hreturns, hsignals, Bool.toNat_false, Bool.toNat_true]
    omega
  | reset hbefore hsignalled hreturns hsignals _ =>
    refine ⟨s.isSignalled.toNat, ?_, fun hkeeps => by rw [hbefore hkeeps, Bool.toNat_false]⟩
    rw [hsignalled, hreturns, hsignals, Bool.toNat_false, Nat.add_zero]
  | take hiff hsignalled hreturns hsignals =>
    refine ⟨0, ?_, fun _ => rfl⟩
    rw [hiff.mp hfinds, hsignalled, hreturns, hsignals, Bool.toNat_false, Bool.toNat_true]

/-- So nothing is overdrawn. -/
theorem Paid.step {isSignal : Bool} {s : Event κ} (h : s.Paid isSignal) {a : EventStep κ}
    (hfinds : s.FindsSignal a) : (s.step a).Paid isSignal := by
  obtain ⟨hauto, hreturns⟩ := h
  obtain ⟨lost, haccount, -⟩ := step_account hauto hfinds
  exact ⟨(step_effect hauto a).1, by omega⟩

/-- And the account is balanced if no signal is lost. -/
theorem Balanced.step {isSignal : Bool} {s : Event κ} (h : s.Balanced isSignal)
    {a : EventStep κ} (hkeeps : s.KeepsSignal a) (hfinds : s.FindsSignal a) :
    (s.step a).Balanced isSignal := by
  obtain ⟨hauto, hreturns⟩ := h
  obtain ⟨lost, haccount, hlost⟩ := step_account hauto hfinds
  have hzero := hlost hkeeps
  exact ⟨(step_effect hauto a).1, by omega⟩

/-- A wait that finds no signal overdraws a balanced account. -/
theorem Balanced.overdrawn {isSignal : Bool} {s : Event κ} (h : s.Balanced isSignal)
    {a : EventStep κ} (hfinds : ¬ s.FindsSignal a) : ¬ (s.step a).ReleasesOnce isSignal := by
  obtain ⟨hauto, hreturns⟩ := h
  obtain ⟨-, heffect⟩ := step_effect hauto a
  cases heffect with
  | none _ _ _ hmeets => exact absurd hmeets hfinds
  | signal _ _ _ _ hmeets => exact absurd hmeets hfinds
  | reset _ _ _ _ hmeets => exact absurd hmeets hfinds
  | take hiff _ hreturns' hsignals =>
    have hunset : s.isSignalled = false := by
      rw [hiff, Bool.not_eq_true] at hfinds
      exact hfinds
    rw [hunset, Bool.toNat_false] at hreturns
    rw [ReleasesOnce, hreturns', hsignals]
    omega

/-- **When an auto-reset event releases one waiter for each signal.** For any threads and any
order of their steps: if every thread that goes on to return `EVENT_OK` finds the event
signalled, no more waits succeed than signals were given, in every state. In runs that lose no
signal this is also necessary. -/
theorem releases_once (isSignal : Bool) (steps : List (EventStep κ)) :
    (StepsMeet step FindsSignal (create true isSignal) steps →
      ∀ before after, steps = before ++ after →
        (before.foldl step (create true isSignal)).ReleasesOnce isSignal) ∧
    (StepsMeet step KeepsSignal (create true isSignal) steps →
      (∀ before after, steps = before ++ after →
        (before.foldl step (create true isSignal)).ReleasesOnce isSignal) →
      StepsMeet step FindsSignal (create true isSignal) steps) := by
  constructor
  · rintro hmeet before after rfl
    have hstart : (create true isSignal : Event κ).Paid isSignal :=
      ⟨rfl, by simp [create, okReturns]⟩
    have hpaid := hmeet.invariant_at (fun _ _ hs hfinds => hs.step hfinds) hstart
    exact Nat.le_trans (Nat.le_add_right _ _) hpaid.returns
  · intro hkeeps heach
    have hstart : (create true isSignal : Event κ).Balanced isSignal :=
      ⟨rfl, by simp [create, okReturns]⟩
    exact stepsMeet_of_each (fun _ _ hs hkeep hfinds => hs.step hkeep hfinds)
      (fun _ _ hs _ hfinds => hs.overdrawn hfinds) hkeeps hstart heach

/-- A thread is blocked, and a second one signals the event; a third one takes the signal before
the first has the mutex again. Both return `EVENT_OK` for one signal. A spurious wake-up makes
`wait` return `EVENT_OK` for none. -/
theorem signal_taken_twice :
    let s : Event ℕ := [EventStep.wait 1 waitForever, .set 2 true 0, .wait 3 waitForever,
      .resume 1].foldl step (create true false)
    let s' : Event ℕ := [EventStep.wait 1 waitForever, .unblock 1 .success,
      .resume 1].foldl step (create true false)
    s.returned = [(3, eventOk), (1, eventOk)] ∧ s.signals = 1 ∧ ¬ s.ReleasesOnce false ∧
      s'.returned = [(1, eventOk)] ∧ s'.signals = 0 ∧ ¬ s'.ReleasesOnce false := by
  refine ⟨rfl, rfl, ?_, rfl, rfl, ?_⟩
  · exact Nat.not_le.mpr (show 1 < 2 by decide)
  · exact Nat.not_le.mpr (show 0 < 1 by decide)

end Event

end Slamkit
