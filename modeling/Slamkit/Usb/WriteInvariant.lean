import Slamkit.Usb.WriteStages

/-!
# The invariant of concurrent writes on a USB channel

At most one thread is behind `_op_lock`, and the channel is at the stage of that thread, or idle.
Every step that finds its signal keeps this; a wait that comes back without one does not find its
transfer done. Without spurious wake-ups every wait finds its signal.
-/

namespace Slamkit

open Library

variable {κ : Type}

namespace Writes

open TxChannel

/-- What holds as long as every wait finds its signal. -/
structure Inv (s : Writes κ) : Prop where
  configured : s.Configured
  others : ∀ k, s.opLock ≠ some k → (s.pc k).Unlocked
  free : s.opLock = none → s.Idle
  held : ∀ k, s.opLock = some k → s.Holding k (s.pc k)

variable {s : Writes κ} {k : κ} {data : List SlU8}

/-- A new channel has nothing to do. -/
theorem inv_start (txEndpoint : SlU16) : (start txEndpoint : Writes κ).Inv where
  configured := configured_opened txEndpoint
  others := fun _ _ => trivial
  free := fun _ => ⟨⟨rfl, rfl⟩, rfl, rfl, rfl⟩
  held := nofun

/-- A thread before the lock does not hold it. -/
theorem Inv.not_holder (h : s.Inv) (hpc : (s.pc k).Unlocked) : s.opLock ≠ some k :=
  fun hlock => (h.held k hlock).not_unlocked hpc

/-- A thread behind the lock holds it, and the channel is at its stage. -/
theorem Inv.holding (h : s.Inv) {pc : WritePc} (hpc : s.pc k = pc) (hbehind : ¬ pc.Unlocked) :
    s.opLock = some k ∧ s.Holding k pc := by
  subst hpc
  have hlock : s.opLock = some k := by
    by_contra hlock
    exact hbehind (h.others k hlock)
  exact ⟨hlock, h.held k hlock⟩

/-- The other threads are before the lock. -/
theorem Inv.others_of_holder (h : s.Inv) (hlock : s.opLock = some k) :
    ∀ j, j ≠ k → (s.pc j).Unlocked := by
  intro j hj
  apply h.others
  rw [hlock]
  rintro ⟨⟩
  exact hj rfl

/-- A step of the channel or the device, while the threads stay where they are. -/
theorem Inv.of_keeps (h : s.Inv) {c : TxChannel κ} (hconfigured : c.Configured)
    (hkeeps : s.toTxChannel.Keeps c) : Inv { s with toTxChannel := c } where
  configured := hconfigured
  others := by
    intro k hk
    exact h.others k (by rw [← hkeeps.opLock]; exact hk)
  free := by
    intro hfree
    have hidle := h.free (by rw [← hkeeps.opLock]; exact hfree)
    change c.Idle
    rw [hkeeps.idle hidle]
    exact hidle
  held := by
    intro k hk
    exact (h.held k (by rw [← hkeeps.opLock]; exact hk)).of_keeps hkeeps

variable [DecidableEq κ]

/-- A thread moves before the lock. -/
theorem Inv.before_lock (h : s.Inv) (hpc : (s.pc k).Unlocked) {pc : WritePc}
    (hunlocked : pc.Unlocked) : Inv { s with pc := Function.update s.pc k pc } where
  configured := h.configured
  others := by
    intro j hj
    change (Function.update s.pc k pc j).Unlocked
    rw [Function.update_apply]
    split
    · exact hunlocked
    · exact h.others j hj
  free := h.free
  held := by
    intro j hj
    have hne : j ≠ k := by
      rintro rfl
      exact h.not_holder hpc hj
    change s.Holding j (Function.update s.pc k pc j)
    rw [Function.update_of_ne hne]
    exact h.held j hj

/-- A thread has the lock after its step, or has given it back. -/
theorem inv_of_placed {pcs : κ → WritePc} {c : TxChannel κ} {pc : WritePc}
    (hothers : ∀ j, j ≠ k → (pcs j).Unlocked) (hconfigured : c.Configured)
    (hplaced : c.Placed k pc) : Inv ⟨c, Function.update pcs k pc⟩ := by
  have hother : ∀ j, j ≠ k → (Function.update pcs k pc j).Unlocked := by
    intro j hj
    rw [Function.update_of_ne hj]
    exact hothers j hj
  rcases hplaced with ⟨hlock, hholding⟩ | ⟨hlock, rfl, hidle⟩
  · refine ⟨hconfigured, ?_, ?_, ?_⟩
    · intro j hj
      apply hother
      rintro rfl
      exact hj hlock
    · intro hfree
      rw [show c.opLock = none from hfree] at hlock
      cases hlock
    · intro j hj
      obtain rfl : k = j := Option.some.inj (hlock.symm.trans hj)
      change c.Holding k (Function.update pcs k pc k)
      rw [Function.update_self]
      exact hholding
  · refine ⟨hconfigured, ?_, fun _ => hidle, ?_⟩
    · intro j _
      by_cases hj : j = k
      · subst hj
        change (Function.update pcs j .outside j).Unlocked
        rw [Function.update_self]
        trivial
      · exact hother j hj
    · intro j hj
      rw [show c.opLock = some j from hj] at hlock
      cases hlock

/-- The next step of a thread in `write` keeps the invariant. -/
theorem Inv.write (h : s.Inv) (k : κ) (submits : Bool) : (s.step (.write k submits)).Inv := by
  by_cases hlock : s.opLock = some k
  · exact inv_of_placed (h.others_of_holder hlock) (h.configured.write k submits (s.pc k))
      ((h.held k hlock).write hlock submits)
  have hunlocked := h.others k hlock
  unfold step
  dsimp only
  rcases s.write_of_unlocked k hunlocked submits with hstays | ⟨hfree, data, htakes⟩
  · rw [hstays]
    exact h.before_lock hunlocked hunlocked
  · rw [htakes]
    have hothers : ∀ j, j ≠ k → (s.pc j).Unlocked := fun j _ => h.others j (by rw [hfree]; nofun)
    obtain ⟨hnobody, hflight, hcallback, hsettled⟩ := h.free hfree
    exact inv_of_placed hothers ⟨h.configured.autoReset, h.configured.out⟩
      (.inl ⟨rfl, hnobody, hflight, hcallback, hsettled⟩)

/-- Every step that finds its signal keeps the invariant. -/
theorem Inv.step (h : s.Inv) {a : WritesStep κ} (hfinds : s.FindsSignal a) : (s.step a).Inv := by
  cases a with
  | call k data =>
    unfold Writes.step
    dsimp only
    split
    · next hpc => exact h.before_lock (by rw [hpc]; trivial) trivial
    · exact h
  | write k submits => exact h.write k submits
  | wake k result => exact h.of_keeps (h.configured.signal _) (keeps_wake _ k result)
  | resume k => exact h.of_keeps (h.configured.signal _) (keeps_resume hfinds)
  | transferEnds status actualLength =>
    exact h.of_keeps (h.configured.transferEnds status actualLength)
      (keeps_transferEnds _ status actualLength)
  | handleEvents chosen =>
    exact h.of_keeps (h.configured.handleEvents chosen) (h.configured.keeps_handleEvents chosen)

/-- As long as every wait finds its signal, a write comes back from its wait when its transfer
is done. -/
theorem Inv.finished (h : s.Inv) : s.Finished := by
  intro k data hpc hback
  obtain ⟨-, -, hwaiting⟩ := h.holding hpc id
  obtain ⟨-, hflight, hcallback, -⟩ := hwaiting.of_back hback
  exact ⟨hflight, hcallback⟩

omit [DecidableEq κ] in
/-- A woken thread is the write that holds the lock. -/
theorem Inv.of_woken (h : s.Inv) (hwoken : s.txSignal.woken ≠ []) :
    ∃ k data result, s.pc k = .waiting data ∧ s.txSignal.blocked = [] ∧
      s.txSignal.woken = [(⟨some k, waitForever⟩, result)] ∧ s.Transferring k data := by
  cases hlock : s.opLock with
  | none => exact absurd (h.free hlock).nobody.2 hwoken
  | some k =>
    obtain ⟨data, result, hpc, hblocked, hsome, htransfer⟩ := (h.held k hlock).of_woken hwoken
    exact ⟨k, data, result, hpc, hblocked, hsome, htransfer⟩

/-- A wait that does not find its signal comes back while its transfer is under way. -/
theorem Inv.unfinished (h : s.Inv) {a : WritesStep κ} (hfinds : ¬ s.FindsSignal a) :
    ¬ (s.step a).Finished := by
  cases a with
  | call => exact absurd trivial hfinds
  | write => exact absurd trivial hfinds
  | wake => exact absurd trivial hfinds
  | transferEnds => exact absurd trivial hfinds
  | handleEvents => exact absurd trivial hfinds
  | resume j =>
    simp only [FindsSignal, Event.FindsSignal, not_forall] at hfinds
    obtain ⟨waiter, result', hentry, -, hunset⟩ := hfinds
    have hsome : s.txSignal.woken ≠ [] := by
      intro hnone
      simp [Event.wokenEntry, hnone] at hentry
    obtain ⟨k, data, result, hpc, hblocked, hwoken, htransfer⟩ := h.of_woken hsome
    obtain rfl : k = j := by
      simp only [Event.wokenEntry, hwoken, List.find?_cons, List.find?_nil] at hentry
      split at hentry
      · next hthread => simpa using hthread
      · cases hentry
    intro hfinished
    have hsignal : (s.step (.resume k)).txSignal =
        { s.txSignal with woken := [] }.take (some k) := by
      refine (Event.step_resume_singleton hwoken rfl (some k)).trans ?_
      rw [if_pos rfl]
    have hback : (s.step (.resume k)).txSignal.inWait (some k) = false := by
      rw [hsignal]
      apply Event.inWait_eq_false
      · change ∀ waiter ∈ s.txSignal.blocked, _
        rw [hblocked]
        simp
      · change ∀ entry ∈ [], _
        simp
    obtain ⟨hflight, hcallback⟩ := hfinished k data hpc hback
    cases htransfer with
    | flying hflight' => exact absurd (hflight'.symm.trans hflight) (by simp)
    | ended _ hcallback' => exact absurd (hcallback'.symm.trans hcallback) (by simp)
    | signalled _ _ hset => exact hunset hset

/-- Every woken thread finds its signal. -/
def Attentive (s : Writes κ) : Prop := s.txSignal.woken = [] ∨ s.txSignal.isSignalled = true

/-- Without spurious wake-ups every thread that is woken finds its signal. -/
theorem Attentive.findsSignal (h : s.Attentive) (a : WritesStep κ) : s.FindsSignal a := by
  cases a with
  | resume k =>
    intro waiter result hentry _
    rcases h with hnone | hset
    · simp [Event.wokenEntry, hnone] at hentry
    · exact hset
  | _ => trivial

/-- What concerns the woken threads in a step of `write`: it leaves the signal alone, or nobody is
woken. -/
theorem Inv.write_woken (h : s.Inv) (k : κ) (submits : Bool) :
    (s.step (.write k submits)).txSignal = s.txSignal ∨
      (s.step (.write k submits)).txSignal.woken = [] := by
  by_cases hlock : s.opLock = some k
  · exact (h.held k hlock).write_woken submits
  · left
    change (s.toTxChannel.write k submits (s.pc k)).2.txSignal = s.txSignal
    rcases s.write_of_unlocked k (h.others k hlock) submits with hstays | ⟨-, data, htakes⟩
    · rw [hstays]
    · rw [htakes]

/-- And it stays so. -/
theorem Attentive.step (h : s.Attentive) (hinv : s.Inv) {a : WritesStep κ}
    (hspurious : s.NotSpurious a) : (s.step a).Attentive := by
  unfold Attentive at h ⊢
  cases a with
  | call k data =>
    unfold Writes.step
    dsimp only
    split
    · exact h
    · exact h
  | write k submits =>
    rcases hinv.write_woken k submits with hsame | hnone
    · rw [hsame]
      exact h
    · exact .inl hnone
  | wake => exact hspurious.elim
  | resume k =>
    change (s.txSignal.step (.resume (some k))).woken = [] ∨
      (s.txSignal.step (.resume (some k))).isSignalled = true
    by_cases hwoken : s.txSignal.woken = []
    · rw [Event.step_resume_nil hwoken]
      exact h
    · obtain ⟨j, data, result, -, -, hsome, -⟩ := hinv.of_woken hwoken
      rw [Event.step_resume_singleton hsome rfl]
      split
      · exact .inl rfl
      · exact h
  | transferEnds status actualLength =>
    change (s.toTxChannel.transferEnds status actualLength).txSignal.woken = [] ∨
      (s.toTxChannel.transferEnds status actualLength).txSignal.isSignalled = true
    rw [(s.toTxChannel.transferEnds_frame status actualLength).2.1]
    exact h
  | handleEvents chosen =>
    change (s.toTxChannel.handleEvents chosen).txSignal.woken = [] ∨
      (s.toTxChannel.handleEvents chosen).txSignal.isSignalled = true
    unfold TxChannel.handleEvents
    rw [hinv.configured.callback]
    split
    · rcases s.txSignal.step_set_true_cases none chosen with hset | hsame
      · exact .inr hset
      · change (s.txSignal.step _).woken = [] ∨ (s.txSignal.step _).isSignalled = true
        rw [hsame]
        exact h
    · exact h

/-- Runs without spurious wake-ups meet the condition. -/
theorem findsSignal_of_notSpurious {txEndpoint : SlU16} {steps : List (WritesStep κ)}
    (hspurious : StepsMeet step NotSpurious (start txEndpoint) steps) :
    StepsMeet step FindsSignal (start txEndpoint) steps := by
  have hstart : (start txEndpoint : Writes κ).Inv ∧ (start txEndpoint : Writes κ).Attentive :=
    ⟨inv_start txEndpoint, .inl rfl⟩
  refine StepsMeet.imp (P := fun s => s.Inv ∧ s.Attentive) ?_ ?_ hspurious hstart
  · rintro s a ⟨hinv, hattentive⟩ hquiet
    exact ⟨hinv.step (hattentive.findsSignal a), hattentive.step hinv hquiet⟩
  · rintro s a ⟨-, hattentive⟩ -
    exact hattentive.findsSignal a

/-- **When a write on a USB channel waits for its transfer.** For any threads in `write` and any
order of their steps with those of the device and of the thread that handles events: no write
comes back from its wait before its transfer is done, exactly if every wait finds the event
signalled, as `wait` asserts. Without spurious wake-ups of `pthread_cond_wait` that is so. -/
theorem usb_writes_finished_iff (txEndpoint : SlU16) (steps : List (WritesStep κ)) :
    (StepsMeet step FindsSignal (start txEndpoint) steps ↔
      ∀ before after, steps = before ++ after →
        (before.foldl step (start txEndpoint)).Finished) ∧
    (StepsMeet step NotSpurious (start txEndpoint) steps →
      StepsMeet step FindsSignal (start txEndpoint) steps) := by
  refine ⟨⟨?_, ?_⟩, findsSignal_of_notSpurious⟩
  · rintro hmeet before after rfl
    exact (hmeet.invariant_at (fun _ _ hs hfinds => hs.step hfinds) (inv_start txEndpoint)).finished
  · intro hfinished
    exact stepsMeet_of_each (fun _ _ hs _ hfinds => hs.step hfinds)
      (fun _ _ hs _ hfinds => hs.unfinished hfinds) (stepsMeet_true _ steps)
      (inv_start txEndpoint) hfinished

/-- A thread is woken spuriously. Its write returns the length of a transfer that is in flight, by
the status of no transfer. -/
example :
    let s : Writes ℕ := [WritesStep.call 1 [7], .write 1 true, .write 1 true, .write 1 true,
      .write 1 true, .wake 1 .success, .resume 1, .write 1 true].foldl step (start 2)
    s.results = [(1, [7], 1)] ∧ s.inFlight = some (1, [7]) ∧ s.outcomes = [] :=
  ⟨rfl, rfl, rfl⟩

end Writes

end Slamkit
