import Slamkit.Library.Run

/-!
# The pipeline thread of a USB channel

`start_pipe_line` creates the thread that runs `pipeline_handler` and then sets
`_is_pipe_working`, the flag on which the loop of that thread depends. This file interleaves
the thread that opens and closes the channel, the created thread, a client in `write` and the
device, and says which orders leave the loop running.
-/

namespace Slamkit

open Library

/-- Where the thread is that calls `open` and then `close`, by the next thing it does with
`_is_pipe_working` or with the created thread. -/
inductive OwnerPc where
  /-- In `start_pipe_line`, before its test of the flag. -/
  | starting
  /-- Before the creation of the thread. -/
  | creating
  /-- Before the store of true. -/
  | storing
  /-- `open` has returned true. -/
  | opened
  /-- In `close`, before the store of false. -/
  | closing
  /-- Before the thread is joined. -/
  | joining
  | closed
  deriving DecidableEq

/-- Where the created thread is in `pipeline_handler`. -/
inductive HandlerPc where
  | notCreated
  /-- Before the test of the `while` loop. -/
  | testing
  /-- Before `libusb_handle_events_timeout`. -/
  | handling
  /-- After the loop. -/
  | left
  deriving DecidableEq

/-- Where a client is in `write`. -/
inductive WriterPc where
  | idle
  /-- After `_tx_completion_signal.set(false)`. -/
  | cleared
  /-- In `_tx_completion_signal.wait()`. -/
  | waiting
  deriving DecidableEq

/-- The transfer `_tx_libusb_transfer`. -/
inductive TxTransfer where
  | idle
  | submitted
  /-- It has ended, and its callback has not been called. -/
  | completed
  deriving DecidableEq

/-- The members of `USBChannel` that its threads share, and where the threads are. -/
structure Pipeline where
  isPipeWorking : Bool
  /-- Whether `_tx_completion_signal` is signalled. -/
  txSignalled : Bool
  tx : TxTransfer
  owner : OwnerPc
  handler : HandlerPc
  writer : WriterPc
  deriving DecidableEq

/-- One step of one of the threads, or of the device. -/
inductive PipelineStep where
  | owner
  /-- `handled`: whether `libusb_handle_events_timeout` succeeds. -/
  | handler (handled : Bool)
  /-- `submitted`: whether `libusb_submit_transfer` succeeds. -/
  | writer (submitted : Bool)
  | device
  deriving DecidableEq

namespace Pipeline

/-- A channel before `start_pipe_line`. -/
def start : Pipeline := ⟨false, false, .idle, .starting, .notCreated, .idle⟩

/-- `start_pipe_line`, with which `open` ends. -/
def startPipeLine (s : Pipeline) : Pipeline :=
  match s.owner with
  | .starting => { s with owner := if s.isPipeWorking then .opened else .creating }
  | .creating => { s with handler := .testing, owner := .storing }
  | .storing => { s with isPipeWorking := true, owner := .opened }
  | _ => s

/-- `close`, up to the return of `_pipe_thread.join()`. -/
def close (s : Pipeline) : Pipeline :=
  match s.owner with
  | .opened => { s with owner := if s.isPipeWorking then .closing else .closed }
  | .closing => { s with isPipeWorking := false, owner := .joining }
  | .joining => if s.handler = .left then { s with owner := .closed } else s
  | _ => s

/-- The next step of the thread that opens and closes the channel. -/
def ownerStep (s : Pipeline) : Pipeline :=
  match s.owner with
  | .starting | .creating | .storing => s.startPipeLine
  | _ => s.close

/-- `transfer_cb_proc` for the transfer of `write`, if it has ended. -/
def transferCbProc (s : Pipeline) : Pipeline :=
  match s.tx with
  | .completed => { s with txSignalled := true, tx := .idle }
  | _ => s

/-- `pipeline_handler`: the test of the loop, and its body. -/
def pipelineHandler (s : Pipeline) (handled : Bool) : Pipeline :=
  match s.handler with
  | .testing => { s with handler := if s.isPipeWorking then .handling else .left }
  | .handling => { if handled then s.transferCbProc else s with handler := .testing }
  | _ => s

/-- `write`, of a client who calls it when the channel is open. The event is reset by the wait
that it ends. -/
def write (s : Pipeline) (submitted : Bool) : Pipeline :=
  match s.writer with
  | .idle => if s.owner = .opened then { s with txSignalled := false, writer := .cleared } else s
  | .cleared =>
    if submitted then { s with tx := .submitted, writer := .waiting }
    else { s with writer := .idle }
  | .waiting => if s.txSignalled then { s with txSignalled := false, writer := .idle } else s

/-- The device, or its timeout, ends the transfer. -/
def deviceStep (s : Pipeline) : Pipeline :=
  match s.tx with
  | .submitted => { s with tx := .completed }
  | _ => s

/-- One step. -/
def step (s : Pipeline) : PipelineStep → Pipeline
  | .owner => s.ownerStep
  | .handler handled => s.pipelineHandler handled
  | .writer submitted => s.write submitted
  | .device => s.deviceStep

/-- `open` has returned true, and `close` has not stored false. -/
def IsOpen (s : Pipeline) : Prop := s.owner = .opened ∨ s.owner = .closing

/-- The created thread has not left its loop. -/
def InLoop (s : Pipeline) : Prop := s.handler = .testing ∨ s.handler = .handling

/-- A client in `wait` is signalled, or its transfer is with the device, or one round of the
loop of the handler signals it. -/
def Served (s : Pipeline) : Prop :=
  s.writer = .waiting → s.txSignalled = true ∨ s.tx = .submitted ∨
    ((s.step (.handler true)).step (.handler true)).txSignalled = true

/-- While the channel is open, the thread is in its loop, and nobody waits in vain. -/
def Working (s : Pipeline) : Prop := s.IsOpen → s.InLoop ∧ s.Served

instance (s : Pipeline) : Decidable s.IsOpen := inferInstanceAs (Decidable (_ ∨ _))

instance (s : Pipeline) : Decidable s.InLoop := inferInstanceAs (Decidable (_ ∨ _))

instance (s : Pipeline) : Decidable s.Served := inferInstanceAs (Decidable (_ → _))

instance (s : Pipeline) : Decidable s.Working := inferInstanceAs (Decidable (_ → _))

/-- The created thread does not test the flag before it has been set. -/
def Ordered (s : Pipeline) : PipelineStep → Prop
  | .handler _ => s.owner ≠ .storing
  | _ => True

/-- The created thread changes neither the owner nor the flag nor the client. -/
theorem pipelineHandler_frame (s : Pipeline) (handled : Bool) :
    (s.pipelineHandler handled).owner = s.owner ∧
      (s.pipelineHandler handled).isPipeWorking = s.isPipeWorking ∧
      (s.pipelineHandler handled).writer = s.writer := by
  cases hhandler : s.handler <;> cases handled <;> cases htx : s.tx <;>
    simp [pipelineHandler, transferCbProc, hhandler, htx]

/-- It does not take back a signal, and ends a transfer only with a signal. -/
theorem pipelineHandler_signal (s : Pipeline) (handled : Bool)
    (h : s.txSignalled = true ∨ s.tx ≠ .idle) :
    (s.pipelineHandler handled).txSignalled = true ∨ (s.pipelineHandler handled).tx ≠ .idle := by
  have hdispatched : s.transferCbProc.txSignalled = true ∨ s.transferCbProc.tx ≠ .idle := by
    rw [transferCbProc]
    split
    · exact .inl rfl
    · exact h
  rw [pipelineHandler]
  split
  · exact h
  · split
    · exact hdispatched
    · exact h
  · exact h

/-- Where the created thread goes. -/
theorem pipelineHandler_handler (s : Pipeline) (handled : Bool) :
    (s.pipelineHandler handled).handler = match s.handler with
      | .testing => if s.isPipeWorking then .handling else .left
      | .handling => .testing
      | handler => handler := by
  cases hhandler : s.handler <;> cases handled <;> simp [pipelineHandler, hhandler]

/-- A client in `write` changes neither the other threads nor the flag. -/
theorem write_frame (s : Pipeline) (submitted : Bool) :
    (s.write submitted).owner = s.owner ∧ (s.write submitted).handler = s.handler ∧
      (s.write submitted).isPipeWorking = s.isPipeWorking := by
  rw [write]
  split
  · split <;> exact ⟨rfl, rfl, rfl⟩
  · split <;> exact ⟨rfl, rfl, rfl⟩
  · split <;> exact ⟨rfl, rfl, rfl⟩

/-- Nor does the device, which leaves the client alone as well. -/
theorem deviceStep_frame (s : Pipeline) :
    s.deviceStep.owner = s.owner ∧ s.deviceStep.handler = s.handler ∧
      s.deviceStep.isPipeWorking = s.isPipeWorking ∧ s.deviceStep.writer = s.writer := by
  cases htx : s.tx <;> simp [deviceStep, htx]

/-- The states of the owner, the flag and the created thread in a run in order. -/
inductive Phase : OwnerPc → Bool → HandlerPc → Prop where
  | starting : Phase .starting false .notCreated
  | creating : Phase .creating false .notCreated
  | storing : Phase .storing false .testing
  | opened {handler : HandlerPc} (hloop : handler = .testing ∨ handler = .handling) :
      Phase .opened true handler
  | closing {handler : HandlerPc} (hloop : handler = .testing ∨ handler = .handling) :
      Phase .closing true handler
  | joining {flag : Bool} {handler : HandlerPc} : Phase .joining flag handler
  | closed {flag : Bool} {handler : HandlerPc} : Phase .closed flag handler

/-- The states of a run in order. A client who waits has a transfer under way until the signal
is set. -/
structure Inv (s : Pipeline) : Prop where
  phase : Phase s.owner s.isPipeWorking s.handler
  awaited : s.writer = .waiting → s.txSignalled = true ∨ s.tx ≠ .idle

/-- The owner goes from phase to phase. -/
theorem Inv.ownerStep {s : Pipeline} (h : s.Inv) : s.ownerStep.Inv := by
  obtain ⟨flag, signalled, tx, owner, handler, writer⟩ := s
  obtain ⟨hphase, hawaited⟩ := h
  cases hphase with
  | starting => exact ⟨.creating, hawaited⟩
  | creating => exact ⟨.storing, hawaited⟩
  | storing => exact ⟨.opened (.inl rfl), hawaited⟩
  | opened hloop => exact ⟨.closing hloop, hawaited⟩
  | closing _ => exact ⟨.joining, hawaited⟩
  | joining =>
    cases handler with
    | left => exact ⟨.closed, hawaited⟩
    | notCreated | testing | handling => exact ⟨.joining, hawaited⟩
  | closed => exact ⟨.closed, hawaited⟩

/-- The created thread stays in its loop. -/
theorem Inv.pipelineHandler {s : Pipeline} (h : s.Inv) (hordered : s.owner ≠ .storing)
    (handled : Bool) : (s.pipelineHandler handled).Inv := by
  obtain ⟨howner, hflag, hwriter⟩ := s.pipelineHandler_frame handled
  constructor
  · rw [howner, hflag, s.pipelineHandler_handler handled]
    obtain ⟨flag, signalled, tx, owner, handler, writer⟩ := s
    cases h.phase with
    | starting => exact .starting
    | creating => exact .creating
    | storing => exact absurd rfl hordered
    | opened hloop =>
      rcases hloop with rfl | rfl
      · exact .opened (.inr rfl)
      · exact .opened (.inl rfl)
    | closing hloop =>
      rcases hloop with rfl | rfl
      · exact .closing (.inr rfl)
      · exact .closing (.inl rfl)
    | joining => exact .joining
    | closed => exact .closed
  · rw [hwriter]
    exact fun hwaiting => s.pipelineHandler_signal handled (h.awaited hwaiting)

/-- A client who waits has handed over a transfer. -/
theorem Inv.write {s : Pipeline} (h : s.Inv) (submitted : Bool) :
    (s.write submitted).Inv := by
  obtain ⟨howner, hhandler, hflag⟩ := s.write_frame submitted
  refine ⟨by rw [howner, hflag, hhandler]; exact h.phase, ?_⟩
  rw [Pipeline.write]
  split
  · split
    · intro hwaiting
      cases hwaiting
    · exact h.awaited
  · split
    · exact fun _ => .inr (by simp)
    · intro hwaiting
      cases hwaiting
  · split
    · intro hwaiting
      cases hwaiting
    · exact h.awaited

/-- The device ends a transfer. -/
theorem Inv.deviceStep {s : Pipeline} (h : s.Inv) : s.deviceStep.Inv := by
  obtain ⟨howner, hhandler, hflag, hwriter⟩ := s.deviceStep_frame
  refine ⟨by rw [howner, hflag, hhandler]; exact h.phase, ?_⟩
  rw [hwriter]
  intro hwaiting
  have hawaited := h.awaited hwaiting
  cases htx : s.tx <;> simp [Pipeline.deviceStep, htx] at hawaited ⊢
  exact hawaited

/-- A step in order. -/
theorem Inv.step {s : Pipeline} (h : s.Inv) {a : PipelineStep} (ha : s.Ordered a) :
    (s.step a).Inv := by
  cases a with
  | owner => exact h.ownerStep
  | handler handled => exact h.pipelineHandler ha handled
  | writer submitted => exact h.write submitted
  | device => exact h.deviceStep

/-- In a run in order the channel works while it is open. -/
theorem Inv.working {s : Pipeline} (h : s.Inv) : s.Working := by
  intro hopen
  obtain ⟨flag, signalled, tx, owner, handler, writer⟩ := s
  obtain ⟨hphase, hawaited⟩ := h
  have hloop : flag = true ∧ (handler = .testing ∨ handler = .handling) := by
    cases hphase with
    | opened hloop | closing hloop => exact ⟨rfl, hloop⟩
    | starting | creating | storing | joining | closed => rcases hopen with h | h <;> cases h
  obtain ⟨rfl, hhandler⟩ := hloop
  refine ⟨hhandler, fun hwaiting => ?_⟩
  cases tx with
  | submitted => exact .inr (.inl rfl)
  | idle => exact .inl ((hawaited hwaiting).resolve_right (fun h => h rfl))
  | completed =>
    -- the loop dispatches the transfer in this round or in the next
    rcases hhandler with rfl | rfl
    · exact .inr (.inr rfl)
    · exact .inr (.inr rfl)

/-- The created thread has left its loop before the flag was set. -/
def Doomed (s : Pipeline) : Prop := s.owner = .storing ∧ s.handler = .left

/-- A thread that tests the flag too early leaves its loop. -/
theorem Inv.doomed {s : Pipeline} (h : s.Inv) {a : PipelineStep} (ha : ¬ s.Ordered a) :
    (s.step a).Doomed := by
  cases a with
  | owner | writer | device => exact absurd trivial ha
  | handler handled =>
    have howner : s.owner = .storing := Classical.not_not.mp ha
    refine ⟨(s.pipelineHandler_frame handled).1.trans howner, ?_⟩
    have hphase := h.phase
    rw [howner] at hphase
    generalize hflag : s.isPipeWorking = flag at hphase
    generalize hhandler : s.handler = handler at hphase
    cases hphase
    rw [Pipeline.step, s.pipelineHandler_handler, hhandler, hflag]
    rfl

/-- `open` returns true nevertheless. -/
theorem Doomed.owner {s : Pipeline} (h : s.Doomed) : ¬ (s.step .owner).Working := by
  obtain ⟨flag, signalled, tx, owner, handler, writer⟩ := s
  obtain ⟨rfl, rfl⟩ := h
  intro hworking
  obtain ⟨hloop | hloop, -⟩ := hworking (.inl rfl)
  · cases hloop
  · cases hloop

/-- The thread does not come back. -/
theorem Doomed.step {s : Pipeline} (h : s.Doomed) (a : PipelineStep) :
    (s.step a).Doomed ∨ ¬ (s.step a).Working := by
  cases a with
  | owner => exact .inr h.owner
  | handler handled =>
    refine .inl ⟨(s.pipelineHandler_frame handled).1.trans h.1, ?_⟩
    rw [Pipeline.step, s.pipelineHandler_handler, h.2]
  | writer submitted =>
    obtain ⟨howner, hhandler, -⟩ := s.write_frame submitted
    exact .inl ⟨howner.trans h.1, hhandler.trans h.2⟩
  | device =>
    obtain ⟨howner, hhandler, -⟩ := s.deviceStep_frame
    exact .inl ⟨howner.trans h.1, hhandler.trans h.2⟩

/-- **The pipeline thread stays alive.** The threads and the device in any order: the created
thread never tests the flag before it is set if and only if in every state of the run, and
after one more step of the owner, an open channel has a thread in its loop and no client
waits in vain. -/
theorem ordered_iff (steps : List PipelineStep) :
    StepsMeet step Ordered start steps ↔ ∀ before after,
      steps ++ [PipelineStep.owner] = before ++ after → (before.foldl step start).Working := by
  have hstart : start.Inv := ⟨.starting, fun h => by cases h⟩
  have hinv := fun (s : Pipeline) (a : PipelineStep) (hs : s.Inv) (ha : s.Ordered a) => hs.step ha
  constructor
  · intro hmeet before after hsplit
    exact hmeet.throughout hinv (fun _ hs => hs.working)
      (fun _ hs => (hs.step (a := .owner) trivial).working) hstart hsplit
  · intro h
    exact stepsMeet_of_throughout hinv (fun _ _ hs ha => hs.doomed ha) (fun _ a hd => hd.step a)
      (fun _ hd => hd.owner) hstart h

/-- The created thread tests the flag before it is set. `open` returns true, a client hands over
a transfer, the transfer ends, and nobody calls its callback. -/
theorem thread_left_before_store :
    let s := [PipelineStep.owner, .owner, .handler true, .owner, .writer true, .writer true,
      .device, .handler true, .handler true].foldl step start
    s.owner = .opened ∧ s.handler = .left ∧ s.writer = .waiting ∧ s.tx = .completed ∧
      s.txSignalled = false ∧ ¬ s.Working := by
  decide

end Pipeline

end Slamkit
