import Slamkit.SingleWaiter
import Slamkit.Usb.Writes

/-!
# The stages of a write on a USB channel

A thread that has `_op_lock` is at one of the stages of `write`, and each stage says where the
transfer, its callback and its event are. Every step of the device, of libusb and of a wake-up
keeps the stage; a step of the thread itself leads to the next one, or gives the lock back.
-/

namespace Slamkit

variable {κ : Type}

namespace TxChannel

/-- What `write` would return if it called libusb synchronously: `UsbCache.write`, for a libusb
that answers with the outcome. -/
def returned (data : List SlU8) (outcome : Submitted) : ℤ :=
  (UsbCache.write ⟨fun _ _ _ => (⟨false, []⟩, ()), fun _ _ => (outcome, ())⟩ data ()).1.returned

/-- What the writes would return, in the order of their transfers. -/
def returns (outcomes : List (κ × List SlU8 × Submitted)) : List (κ × List SlU8 × ℤ) :=
  outcomes.map fun o => (o.1, o.2.1, returned o.2.1 o.2.2)

/-- Nobody is in a wait for the transfer. -/
def Nobody (c : TxChannel κ) : Prop := c.txSignal.blocked = [] ∧ c.txSignal.woken = []

/-- Every outcome so far has had its result. -/
def Settled (c : TxChannel κ) : Prop := c.results = returns c.outcomes

/-- The last outcome is that of the transfer of a write which has still to return. -/
def Recorded (c : TxChannel κ) (k : κ) (data : List SlU8) : Prop :=
  ∃ earlier actualLength,
    c.outcomes = earlier ++ [(k, data, ⟨true, true, c.status, actualLength⟩)] ∧
    c.results = returns earlier

/-- No transfer is on its way. -/
structure Idle (c : TxChannel κ) : Prop where
  nobody : c.Nobody
  flight : c.inFlight = none
  callback : c.callback = false
  settled : c.Settled

/-- Where the transfer of a write is that has submitted it and not come back from its wait. -/
inductive Transferring (c : TxChannel κ) (k : κ) (data : List SlU8) : Prop
  | flying (hflight : c.inFlight = some (k, data)) (hcallback : c.callback = false)
      (hunset : c.txSignal.isSignalled = false) (hsettled : c.Settled)
  | ended (hflight : c.inFlight = none) (hcallback : c.callback = true)
      (hunset : c.txSignal.isSignalled = false) (hrecorded : c.Recorded k data)
  | signalled (hflight : c.inFlight = none) (hcallback : c.callback = false)
      (hset : c.txSignal.isSignalled = true) (hrecorded : c.Recorded k data)

/-- How far a write has come that has called `wait`. -/
inductive Waiting (c : TxChannel κ) (k : κ) (data : List SlU8) : Prop
  | blocked (hblocked : c.txSignal.blocked = [⟨some k, waitForever⟩])
      (hwoken : c.txSignal.woken = []) (hunset : c.txSignal.isSignalled = false)
      (htransfer : c.Transferring k data)
  | woken (result : CondResult) (hblocked : c.txSignal.blocked = [])
      (hwoken : c.txSignal.woken = [(⟨some k, waitForever⟩, result)])
      (htransfer : c.Transferring k data)
  | back (hnobody : c.Nobody) (hflight : c.inFlight = none) (hcallback : c.callback = false)
      (hrecorded : c.Recorded k data)

/-- What holds when a thread holds the lock, by where it is in `write`. -/
def Holding (c : TxChannel κ) (k : κ) : WritePc → Prop
  | .outside | .locking _ => False
  | .locked _ => c.Idle
  | .cleared data => c.buffer = data ∧ c.txSignal.isSignalled = false ∧ c.Idle
  | .submitted data => c.buffer = data ∧ c.Nobody ∧ c.Transferring k data
  | .waiting data => c.buffer = data ∧ c.Waiting k data

/-- Where a thread is after a step with the lock: it still has the lock, or has left `write`. -/
def Placed (c : TxChannel κ) (k : κ) (pc : WritePc) : Prop :=
  (c.opLock = some k ∧ c.Holding k pc) ∨ (c.opLock = none ∧ pc = .outside ∧ c.Idle)

/-- What a step keeps that no thread takes in `write`. -/
structure Keeps (c c' : TxChannel κ) : Prop where
  opLock : c'.opLock = c.opLock
  buffer : c'.buffer = c.buffer
  idle : c.Idle → c' = c
  submitted : ∀ k data, c.Nobody → c.Transferring k data → c'.Nobody ∧ c'.Transferring k data
  waiting : ∀ k data, c.Waiting k data → c'.Waiting k data

/-- What always holds of the transfer and its event: the transfer goes to the device, so that its
callback signals the event of `write`. -/
structure Configured (c : TxChannel κ) : Prop where
  autoReset : c.txSignal.isAutoReset = true
  out : c.endpoint &&& 0x80#8 = 0#8

/-- It holds of a new channel. -/
theorem configured_opened (txEndpoint : SlU16) : (opened txEndpoint : TxChannel κ).Configured where
  autoReset := rfl
  out := by
    unfold opened
    rw [BitVec.setWidth_and, BitVec.and_assoc,
      show (0x0f#16).setWidth 8 &&& 0x80#8 = 0#8 from rfl, BitVec.and_zero]

/-- One more outcome is settled by its result. -/
theorem returns_concat (outcomes : List (κ × List SlU8 × Submitted)) (k : κ) (data : List SlU8)
    (outcome : Submitted) :
    returns (outcomes ++ [(k, data, outcome)]) =
      returns outcomes ++ [(k, data, returned data outcome)] := by
  unfold returns
  rw [List.map_append]
  rfl

variable {c c' : TxChannel κ} {k : κ} {data : List SlU8} {pc : WritePc}

/-- A thread at a stage is behind the lock. -/
theorem Holding.not_unlocked (h : c.Holding k pc) : ¬ pc.Unlocked := by
  intro hunlocked
  cases pc with
  | outside => exact h
  | locking => exact h
  | locked => exact hunlocked
  | cleared => exact hunlocked
  | submitted => exact hunlocked
  | waiting => exact hunlocked

/-- Every stage is kept by the steps that no thread takes in `write`. -/
theorem Holding.of_keeps (h : c.Holding k pc) (hkeeps : c.Keeps c') : c'.Holding k pc := by
  cases pc with
  | outside => exact h
  | locking => exact h
  | locked =>
    rw [hkeeps.idle h]
    exact h
  | cleared =>
    rw [hkeeps.idle h.2.2]
    exact h
  | submitted data =>
    obtain ⟨hdata, hnobody, htransfer⟩ := h
    exact ⟨hkeeps.buffer.trans hdata, hkeeps.submitted k data hnobody htransfer⟩
  | waiting data =>
    obtain ⟨hdata, hwaiting⟩ := h
    exact ⟨hkeeps.buffer.trans hdata, hkeeps.waiting k data hwaiting⟩

/-- A woken thread is in its wait, and its transfer is under way. -/
theorem Holding.of_woken (h : c.Holding k pc) (hwoken : c.txSignal.woken ≠ []) :
    ∃ data result, pc = .waiting data ∧ c.txSignal.blocked = [] ∧
      c.txSignal.woken = [(⟨some k, waitForever⟩, result)] ∧ c.Transferring k data := by
  cases pc with
  | outside => exact h.elim
  | locking => exact h.elim
  | locked => exact absurd (Idle.nobody h).2 hwoken
  | cleared => exact absurd h.2.2.nobody.2 hwoken
  | submitted => exact absurd h.2.1.2 hwoken
  | waiting data =>
    obtain ⟨-, hwaiting⟩ := h
    cases hwaiting with
    | blocked _ hnone => exact absurd hnone hwoken
    | woken result hblocked hsome htransfer =>
      exact ⟨data, result, rfl, hblocked, hsome, htransfer⟩
    | back hnobody => exact absurd hnobody.2 hwoken

/-- Where a transfer is does not depend on who waits for it. -/
theorem Transferring.frame (h : c.Transferring k data)
    (hflight : c'.inFlight = c.inFlight) (hcallback : c'.callback = c.callback)
    (hsignal : c'.txSignal.isSignalled = c.txSignal.isSignalled) (hstatus : c'.status = c.status)
    (houtcomes : c'.outcomes = c.outcomes) (hresults : c'.results = c.results) :
    c'.Transferring k data := by
  have hrecords : c.Recorded k data → c'.Recorded k data := by
    rintro ⟨earlier, actualLength, hlast, hearlier⟩
    exact ⟨earlier, actualLength, by rw [houtcomes, hlast, hstatus], hresults.trans hearlier⟩
  cases h with
  | flying h₁ h₂ h₃ h₄ =>
    refine .flying (hflight.trans h₁) (hcallback.trans h₂) (hsignal.trans h₃) ?_
    unfold Settled
    rw [hresults, houtcomes]
    exact h₄
  | ended h₁ h₂ h₃ h₄ =>
    exact .ended (hflight.trans h₁) (hcallback.trans h₂) (hsignal.trans h₃) (hrecords h₄)
  | signalled h₁ h₂ h₃ h₄ =>
    exact .signalled (hflight.trans h₁) (hcallback.trans h₂) (hsignal.trans h₃) (hrecords h₄)

/-- A transfer whose event is signalled is done. -/
theorem Transferring.of_signalled (h : c.Transferring k data)
    (hset : c.txSignal.isSignalled = true) :
    c.inFlight = none ∧ c.callback = false ∧ c.Recorded k data := by
  cases h with
  | flying _ _ hunset => rw [hset] at hunset; cases hunset
  | ended _ _ hunset => rw [hset] at hunset; cases hunset
  | signalled hflight hcallback _ hrecorded => exact ⟨hflight, hcallback, hrecorded⟩

/-- A transfer that is not in flight does not end. -/
theorem transferEnds_of_none (h : c.inFlight = none) (status : TransferStatus) (actualLength : ℕ) :
    c.transferEnds status actualLength = c := by
  unfold transferEnds
  rw [h]

/-- Apart from its status, the end of a transfer changes what `write` has not come to yet. -/
theorem transferEnds_frame (c : TxChannel κ) (status : TransferStatus) (actualLength : ℕ) :
    (c.transferEnds status actualLength).opLock = c.opLock ∧
      (c.transferEnds status actualLength).txSignal = c.txSignal ∧
      (c.transferEnds status actualLength).buffer = c.buffer ∧
      (c.transferEnds status actualLength).endpoint = c.endpoint := by
  unfold transferEnds
  split
  · exact ⟨rfl, rfl, rfl, rfl⟩
  · split
    · exact ⟨rfl, rfl, rfl, rfl⟩
    · exact ⟨rfl, rfl, rfl, rfl⟩

/-- A transfer that is in flight ends, with an outcome that is recorded. -/
theorem Transferring.transferEnds (h : c.Transferring k data) (status : TransferStatus)
    (actualLength : ℕ) : (c.transferEnds status actualLength).Transferring k data := by
  cases h with
  | flying hflight hcallback hunset hsettled =>
    unfold TxChannel.transferEnds
    rw [hflight]
    dsimp only
    rw [if_neg (by rw [hcallback]; decide)]
    exact .ended rfl rfl hunset ⟨c.outcomes, actualLength, rfl, hsettled⟩
  | ended hflight hcallback hunset hrecorded =>
    rw [transferEnds_of_none hflight]
    exact .ended hflight hcallback hunset hrecorded
  | signalled hflight hcallback hset hrecorded =>
    rw [transferEnds_of_none hflight]
    exact .signalled hflight hcallback hset hrecorded

/-- The write that waits for it goes on waiting. -/
theorem Waiting.transferEnds (h : c.Waiting k data) (status : TransferStatus)
    (actualLength : ℕ) : (c.transferEnds status actualLength).Waiting k data := by
  obtain ⟨-, hsignal, -, -⟩ := c.transferEnds_frame status actualLength
  cases h with
  | blocked hblocked hwoken hunset htransfer =>
    rw [← hsignal] at hblocked hwoken hunset
    exact .blocked hblocked hwoken hunset (htransfer.transferEnds status actualLength)
  | woken result hblocked hwoken htransfer =>
    rw [← hsignal] at hblocked hwoken
    exact .woken result hblocked hwoken (htransfer.transferEnds status actualLength)
  | back hnobody hflight hcallback hrecorded =>
    rw [transferEnds_of_none hflight]
    exact .back hnobody hflight hcallback hrecorded

/-- The end of a transfer keeps what holds at every stage. -/
theorem keeps_transferEnds (c : TxChannel κ) (status : TransferStatus) (actualLength : ℕ) :
    c.Keeps (c.transferEnds status actualLength) := by
  obtain ⟨hlock, hsignal, hbuffer, -⟩ := c.transferEnds_frame status actualLength
  refine ⟨hlock, hbuffer, fun hidle => transferEnds_of_none hidle.flight _ _, ?_,
    fun k data hwaiting => hwaiting.transferEnds status actualLength⟩
  intro k data hnobody htransfer
  refine ⟨?_, htransfer.transferEnds status actualLength⟩
  unfold Nobody
  rw [hsignal]
  exact hnobody

variable [DecidableEq κ]

omit [DecidableEq κ] in
/-- No thread is in a wait if nobody is. -/
theorem Nobody.inWait [DecidableEq κ] (h : c.Nobody) (thread : Option κ) :
    c.txSignal.inWait thread = false := by
  apply Event.inWait_eq_false
  · rw [h.1]
    exact fun _ hmem => absurd hmem List.not_mem_nil
  · rw [h.2]
    exact fun _ hmem => absurd hmem List.not_mem_nil

/-- The thread that handles events is not in a wait. -/
theorem Waiting.inWait_none (h : c.Waiting k data) : c.txSignal.inWait none = false := by
  cases h with
  | blocked hblocked hwoken =>
    apply Event.inWait_eq_false
    · rw [hblocked]
      simp
    · rw [hwoken]
      simp
  | woken result hblocked hwoken =>
    apply Event.inWait_eq_false
    · rw [hblocked]
      simp
    · rw [hwoken]
      simp
  | back hnobody => exact hnobody.inWait none

/-- A write that has come back from its wait finds its transfer done. -/
theorem Waiting.of_back (h : c.Waiting k data) (hback : c.txSignal.inWait (some k) = false) :
    c.Nobody ∧ c.inFlight = none ∧ c.callback = false ∧ c.Recorded k data := by
  cases h with
  | blocked hblocked => simp [Event.inWait, Event.blockedEntry, hblocked] at hback
  | woken result _ hwoken => simp [Event.inWait, Event.wokenEntry, hwoken] at hback
  | back hnobody hflight hcallback hrecorded => exact ⟨hnobody, hflight, hcallback, hrecorded⟩

/-- `transfer_cb_proc` signals the event of `write`. -/
theorem Configured.callback (h : c.Configured) (chosen : ℕ) :
    c.transferCbProc chosen = { c with txSignal := c.txSignal.step (.set none true chosen) } := by
  unfold transferCbProc
  rw [if_neg (by rw [h.out]; decide)]

/-- No callback is called for a transfer that has not ended. -/
theorem handleEvents_of_not (h : c.callback = false) (chosen : ℕ) : c.handleEvents chosen = c := by
  unfold handleEvents
  rw [if_neg (by rw [h]; decide)]

/-- The handling of events changes only the signals and what is known of the callback. -/
theorem handleEvents_frame (c : TxChannel κ) (chosen : ℕ) :
    (c.handleEvents chosen).opLock = c.opLock ∧ (c.handleEvents chosen).buffer = c.buffer := by
  unfold handleEvents transferCbProc
  split
  · split
    · exact ⟨rfl, rfl⟩
    · exact ⟨rfl, rfl⟩
  · exact ⟨rfl, rfl⟩

/-- The callback of the transfer signals the event, if no thread but the write is in a wait. -/
theorem Transferring.handleEvents (h : c.Transferring k data) (hconfigured : c.Configured)
    (hnobody : c.txSignal.inWait none = false) (chosen : ℕ) :
    (c.handleEvents chosen).Transferring k data ∧
      (c.handleEvents chosen = c ∨
        (c.handleEvents chosen).txSignal =
          { c.txSignal.condSignal chosen with
            isSignalled := true, signals := c.txSignal.signals + 1 }) := by
  cases h with
  | flying hflight hcallback hunset hsettled =>
    rw [handleEvents_of_not hcallback]
    exact ⟨.flying hflight hcallback hunset hsettled, .inl rfl⟩
  | signalled hflight hcallback hset hrecorded =>
    rw [handleEvents_of_not hcallback]
    exact ⟨.signalled hflight hcallback hset hrecorded, .inl rfl⟩
  | ended hflight hcallback hunset hrecorded =>
    unfold TxChannel.handleEvents
    rw [if_pos hcallback, hconfigured.callback]
    have hset := Event.step_set_true hnobody hunset chosen
    rw [hset]
    exact ⟨.signalled hflight rfl rfl hrecorded, .inr rfl⟩

/-- The write that is blocked is woken by it. -/
theorem Waiting.handleEvents (h : c.Waiting k data) (hconfigured : c.Configured) (chosen : ℕ) :
    (c.handleEvents chosen).Waiting k data := by
  have hnot := h.inWait_none
  cases h with
  | blocked hblocked hwoken hunset htransfer =>
    obtain ⟨htransfer', hsame | hsignal⟩ := htransfer.handleEvents hconfigured hnot chosen
    · rw [hsame]
      exact .blocked hblocked hwoken hunset htransfer
    · rw [Event.condSignal_singleton hblocked, hwoken, List.nil_append] at hsignal
      exact .woken .success (by rw [hsignal]) (by rw [hsignal]) htransfer'
  | woken result hblocked hwoken htransfer =>
    obtain ⟨htransfer', hsame | hsignal⟩ := htransfer.handleEvents hconfigured hnot chosen
    · rw [hsame]
      exact .woken result hblocked hwoken htransfer
    · rw [Event.condSignal_nil hblocked] at hsignal
      exact .woken result (by rw [hsignal, hblocked]) (by rw [hsignal, hwoken]) htransfer'
  | back hnobody hflight hcallback hrecorded =>
    rw [handleEvents_of_not hcallback]
    exact .back hnobody hflight hcallback hrecorded

/-- The handling of events keeps what holds at every stage. -/
theorem Configured.keeps_handleEvents (h : c.Configured) (chosen : ℕ) :
    c.Keeps (c.handleEvents chosen) := by
  obtain ⟨hlock, hbuffer⟩ := c.handleEvents_frame chosen
  refine ⟨hlock, hbuffer, fun hidle => handleEvents_of_not hidle.callback chosen, ?_,
    fun k data hwaiting => hwaiting.handleEvents h chosen⟩
  intro k data hnobody htransfer
  obtain ⟨htransfer', hsame | hsignal⟩ := htransfer.handleEvents h (hnobody.inWait none) chosen
  · rw [hsame]
    exact ⟨hnobody, htransfer⟩
  · refine ⟨?_, htransfer'⟩
    unfold Nobody
    rw [hsignal, Event.condSignal_nil hnobody.1]
    exact hnobody

/-- A step of the event that does nothing if nobody is in a wait keeps what holds at every stage,
if it keeps that of a write in its wait. -/
theorem keeps_signal {a : EventStep (Option κ)}
    (hnobody : c.Nobody → c.txSignal.step a = c.txSignal)
    (hwaiting : ∀ k data, c.Waiting k data →
      Waiting { c with txSignal := c.txSignal.step a } k data) :
    c.Keeps { c with txSignal := c.txSignal.step a } := by
  refine ⟨rfl, rfl, ?_, ?_, hwaiting⟩
  · intro hidle
    rw [hnobody hidle.nobody]
  · intro k data hquiet htransfer
    rw [hnobody hquiet]
    exact ⟨hquiet, htransfer⟩

/-- A write that is woken spuriously is still in its wait. -/
theorem Waiting.wake (h : c.Waiting k data) (thread : κ) (result : CondResult) :
    Waiting { c with txSignal := c.txSignal.step (.unblock (some thread) result) } k data := by
  cases h with
  | blocked hblocked hwoken hunset htransfer =>
    rw [Event.step_unblock_singleton hblocked]
    split
    · refine .woken result rfl ?_ (htransfer.frame rfl rfl rfl rfl rfl rfl)
      simp [hwoken]
    · exact .blocked hblocked hwoken hunset htransfer
  | woken result' hblocked hwoken htransfer =>
    rw [Event.step_unblock_nil hblocked]
    exact .woken result' hblocked hwoken htransfer
  | back hnobody hflight hcallback hrecorded =>
    rw [Event.step_unblock_nil hnobody.1]
    exact .back hnobody hflight hcallback hrecorded

/-- A spurious wake-up keeps what holds at every stage. -/
theorem keeps_wake (c : TxChannel κ) (thread : κ) (result : CondResult) :
    c.Keeps { c with txSignal := c.txSignal.step (.unblock (some thread) result) } :=
  keeps_signal (fun hnobody => Event.step_unblock_nil hnobody.1 _ _)
    fun _ _ hwaiting => hwaiting.wake thread result

/-- A write that finds its signal is back from its wait. -/
theorem Waiting.resume (h : c.Waiting k data) (thread : κ)
    (hfinds : c.txSignal.FindsSignal (.resume (some thread))) :
    Waiting { c with txSignal := c.txSignal.step (.resume (some thread)) } k data := by
  cases h with
  | blocked hblocked hwoken hunset htransfer =>
    rw [Event.step_resume_nil hwoken]
    exact .blocked hblocked hwoken hunset htransfer
  | woken result hblocked hwoken htransfer =>
    rw [Event.step_resume_singleton hwoken rfl]
    split
    · next hthread =>
      obtain rfl : k = thread := Option.some.inj hthread
      have hset : c.txSignal.isSignalled = true := by
        apply hfinds ⟨some k, waitForever⟩ result
        · simp [Event.wokenEntry, hwoken]
        · exact .inl rfl
      obtain ⟨hflight, hcallback, hrecorded⟩ := htransfer.of_signalled hset
      exact .back ⟨hblocked, rfl⟩ hflight hcallback hrecorded
    · exact .woken result hblocked hwoken htransfer
  | back hnobody hflight hcallback hrecorded =>
    rw [Event.step_resume_nil hnobody.2]
    exact .back hnobody hflight hcallback hrecorded

/-- A thread that finds its signal keeps what holds at every stage. -/
theorem keeps_resume {thread : κ} (hfinds : c.txSignal.FindsSignal (.resume (some thread))) :
    c.Keeps { c with txSignal := c.txSignal.step (.resume (some thread)) } :=
  keeps_signal (fun hnobody => Event.step_resume_nil hnobody.2 _)
    fun _ _ hwaiting => hwaiting.resume thread hfinds

/-- A thread before the lock stays where it is, or takes the lock if that is free. -/
theorem write_of_unlocked (c : TxChannel κ) (k : κ) (hunlocked : pc.Unlocked)
    (submits : Bool) :
    c.write k submits pc = (pc, c) ∨
      c.opLock = none ∧
        ∃ data, c.write k submits pc = (.locked data, { c with opLock := some k }) := by
  cases pc with
  | outside => exact .inl rfl
  | locking data =>
    unfold TxChannel.write
    dsimp only
    split
    · next hfree => exact .inr ⟨hfree, data, rfl⟩
    · exact .inl rfl
  | locked => exact hunlocked.elim
  | cleared => exact hunlocked.elim
  | submitted => exact hunlocked.elim
  | waiting => exact hunlocked.elim

/-- The event is cleared. -/
theorem Idle.write_locked (h : c.Idle) (hlock : c.opLock = some k) (submits : Bool) :
    (c.write k submits (.locked data)).2.Placed k (c.write k submits (.locked data)).1 := by
  have hnot := h.nobody.inWait (some k)
  unfold TxChannel.write
  dsimp only
  rw [Event.step_set_false hnot]
  exact .inl ⟨hlock, rfl, rfl, h.nobody, h.flight, h.callback, h.settled⟩

/-- The transfer is submitted, or `write` returns zero. -/
theorem Idle.write_cleared (h : c.Idle) (hlock : c.opLock = some k) (hdata : c.buffer = data)
    (hunset : c.txSignal.isSignalled = false) (submits : Bool) :
    (c.write k submits (.cleared data)).2.Placed k (c.write k submits (.cleared data)).1 := by
  unfold TxChannel.write
  rw [h.flight]
  cases submits with
  | true => exact .inl ⟨hlock, hdata, h.nobody, .flying rfl h.callback hunset h.settled⟩
  | false =>
    refine .inr ⟨rfl, rfl, h.nobody, h.flight, h.callback, ?_⟩
    change c.results ++ [(k, data, 0)] = returns (c.outcomes ++ [_])
    rw [returns_concat, h.settled]
    rfl

/-- `wait` is called: it blocks the thread, or takes the signal. -/
theorem Transferring.write_submitted (h : c.Transferring k data) (hlock : c.opLock = some k)
    (hdata : c.buffer = data) (hnobody : c.Nobody) (submits : Bool) :
    (c.write k submits (.submitted data)).2.Placed k (c.write k submits (.submitted data)).1 := by
  refine .inl ⟨hlock, hdata, ?_⟩
  have hnot := hnobody.inWait (some k)
  unfold TxChannel.write
  dsimp only
  cases hsignal : c.txSignal.isSignalled with
  | false =>
    rw [Event.step_wait_unset hnot hsignal]
    refine .blocked ?_ hnobody.2 hsignal (h.frame rfl rfl rfl rfl rfl rfl)
    simp [hnobody.1]
  | true =>
    rw [Event.step_wait_set hnot hsignal]
    obtain ⟨hflight, hcallback, hrecorded⟩ := h.of_signalled hsignal
    exact .back hnobody hflight hcallback hrecorded

/-- A thread stays in its wait, or `write` returns by the status of the transfer. -/
theorem Waiting.write (h : c.Waiting k data) (hlock : c.opLock = some k)
    (hdata : c.buffer = data) (submits : Bool) :
    (c.write k submits (.waiting data)).2.Placed k (c.write k submits (.waiting data)).1 := by
  unfold TxChannel.write
  dsimp only
  by_cases hwait : c.txSignal.inWait (some k) = true
  · rw [if_pos hwait]
    exact .inl ⟨hlock, hdata, h⟩
  · obtain ⟨hnobody, hflight, hcallback, earlier, actualLength, houtcomes, hresults⟩ :=
      h.of_back (Bool.eq_false_iff.mpr hwait)
    rw [if_neg hwait]
    refine .inr ⟨rfl, rfl, hnobody, hflight, hcallback, ?_⟩
    change c.results ++ [_] = returns c.outcomes
    rw [houtcomes, returns_concat, hresults, hdata]
    cases c.status with
    | completed => rfl
    | stall => rfl
    | other => rfl

/-- The next step of the thread that holds the lock: it goes on, or leaves with a result. -/
theorem Holding.write (h : c.Holding k pc) (hlock : c.opLock = some k) (submits : Bool) :
    (c.write k submits pc).2.Placed k (c.write k submits pc).1 := by
  cases pc with
  | outside => exact h.elim
  | locking => exact h.elim
  | locked => exact Idle.write_locked h hlock submits
  | cleared =>
    obtain ⟨hdata, hunset, hidle⟩ := h
    exact hidle.write_cleared hlock hdata hunset submits
  | submitted =>
    obtain ⟨hdata, hnobody, htransfer⟩ := h
    exact htransfer.write_submitted hlock hdata hnobody submits
  | waiting =>
    obtain ⟨hdata, hwaiting⟩ := h
    exact hwaiting.write hlock hdata submits

/-- A step of a thread leaves the signal alone, or nobody is woken then. -/
theorem Holding.write_woken (h : c.Holding k pc) (submits : Bool) :
    (c.write k submits pc).2.txSignal = c.txSignal ∨
      (c.write k submits pc).2.txSignal.woken = [] := by
  cases pc with
  | outside => exact .inl rfl
  | locking => exact h.elim
  | locked =>
    right
    change c.Idle at h
    unfold TxChannel.write
    dsimp only
    rw [Event.step_set_false (h.nobody.inWait _)]
    exact h.nobody.2
  | cleared =>
    left
    unfold TxChannel.write
    dsimp only
    split
    · rfl
    · rfl
  | submitted =>
    right
    obtain ⟨-, hnobody, -⟩ := h
    unfold TxChannel.write
    dsimp only
    cases hsignal : c.txSignal.isSignalled with
    | false =>
      rw [Event.step_wait_unset (hnobody.inWait _) hsignal]
      exact hnobody.2
    | true =>
      rw [Event.step_wait_set (hnobody.inWait _) hsignal]
      exact hnobody.2
  | waiting =>
    left
    unfold TxChannel.write
    dsimp only
    split
    · rfl
    · rfl

/-- Whatever a step does with its event, the transfer still goes to the device. -/
theorem Configured.signal (h : c.Configured) (a : EventStep (Option κ)) :
    Configured { c with txSignal := c.txSignal.step a } :=
  ⟨(Event.step_effect h.autoReset a).1, h.out⟩

omit [DecidableEq κ] in
/-- The end of a transfer leaves it configured. -/
theorem Configured.transferEnds (h : c.Configured) (status : TransferStatus) (actualLength : ℕ) :
    (c.transferEnds status actualLength).Configured := by
  obtain ⟨-, hsignal, -, hendpoint⟩ := c.transferEnds_frame status actualLength
  refine ⟨?_, ?_⟩
  · rw [hsignal]
    exact h.autoReset
  · rw [hendpoint]
    exact h.out

/-- So does the handling of events. -/
theorem Configured.handleEvents (h : c.Configured) (chosen : ℕ) :
    (c.handleEvents chosen).Configured := by
  unfold TxChannel.handleEvents
  rw [h.callback]
  split
  · exact ⟨(h.signal _).autoReset, h.out⟩
  · exact h

/-- So does a step of `write`. -/
theorem Configured.write (h : c.Configured) (k : κ) (submits : Bool) (pc : WritePc) :
    (c.write k submits pc).2.Configured := by
  cases pc with
  | outside => exact h
  | locking =>
    unfold TxChannel.write
    dsimp only
    split
    · exact ⟨h.autoReset, h.out⟩
    · exact h
  | locked => exact ⟨(h.signal _).autoReset, h.out⟩
  | cleared =>
    unfold TxChannel.write
    dsimp only
    split
    · exact ⟨h.autoReset, h.out⟩
    · exact ⟨h.autoReset, h.out⟩
  | submitted => exact h.signal _
  | waiting =>
    unfold TxChannel.write
    dsimp only
    split
    · exact h
    · exact ⟨h.autoReset, h.out⟩

end TxChannel

end Slamkit
