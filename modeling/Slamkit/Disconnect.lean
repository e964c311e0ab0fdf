import Slamkit.Library.History
import Slamkit.Library.Run
import Slamkit.Replies
import Slamkit.Session

/-!
# A request and a disconnection

One client makes a request while another one disconnects the same driver. A request holds
`_lock` around its channel calls, but `disconnect` does not take it. This file runs the two
programs in any order of their steps and says which orders keep the request away from a
channel that has been closed.
-/

namespace Slamkit

open Library

variable {ι σ α : Type}

/-- The operations of the driver code that another client can notice: all but the accesses to
`_channel`, which belong to the channel call they precede. -/
def isVisible : DriverOp ι → Bool
  | .loadChannel => false
  | .storeChannel _ => false
  | _ => true

/-- One step of a client: its code up to and including the next operation that others can
notice. The lock is taken only while it is free. -/
def clientStep (channels : Channels ι σ) (locked : Bool) (p : DriverProgram ι α)
    (s : DriverState ι σ) : DriverProgram ι α × Bool × DriverState ι σ :=
  match p with
  | .call .lock next => if locked then (.call .lock next, locked, s) else (next (), true, s)
  | .call .unlock next => (next (), false, s)
  | p =>
    let r := p.runUntil (DriverState.handle channels) isVisible s
    (r.1, locked, r.2)

/-- A driver with `_lock`, and what is left of the code of its two clients. -/
structure Race (ι σ α : Type) where
  driver : DriverState ι σ
  locked : Bool
  requesting : DriverProgram ι α
  disconnecting : DriverProgram ι Unit

/-- The client who takes the next step. -/
inductive Party where
  | request
  | disconnect
  deriving DecidableEq

namespace Race

/-- One step of one of the clients. -/
def step (channels : Channels ι σ) (s : Race ι σ α) : Party → Race ι σ α
  | .request =>
    let r := clientStep channels s.locked s.requesting s.driver
    { s with driver := r.2.2, locked := r.2.1, requesting := r.1 }
  | .disconnect =>
    let r := clientStep channels s.locked s.disconnecting s.driver
    { s with driver := r.2.2, locked := r.2.1, disconnecting := r.1 }

/-- Both clients before their first step, on a driver whose lock is free. -/
def start (r : Request) (out : r.Output) (timeout : SlU32) (channel : Option ι)
    (connected : Bool) (env : σ) : Race ι σ (SlResult × r.Output) where
  driver := ⟨channel, connected, env, []⟩
  locked := false
  requesting := r.program out timeout
  disconnecting := disconnect

end Race

/-- No method that needs an open channel is called after `close`. -/
def NoTransferAfterClose (calls : List (ChannelCall ι)) : Prop :=
  EachAfter (fun past call => call.op.NeedsOpen → ∀ c ∈ past, c.op ≠ .close) [] calls

/-- A call of a channel method. -/
def DriverOp.isCall : DriverOp ι → Bool
  | .call _ _ => true
  | _ => false

/-- A call of `close`. -/
def DriverOp.isClose : DriverOp ι → Bool
  | .call _ .close => true
  | _ => false

/-- A test of `_isConnected`. -/
def DriverOp.isTest : DriverOp ι → Bool
  | .loadConnected => true
  | _ => false

namespace Race

/-- The next step of the request is an operation of a kind. -/
def requestNext (channels : Channels ι σ) (kind : DriverOp ι → Bool) (s : Race ι σ α) : Bool :=
  (s.requesting.nextOp (DriverState.handle channels) isVisible s.driver).any kind

/-- The next step of `disconnect` is an operation of a kind. -/
def disconnectNext (channels : Channels ι σ) (kind : DriverOp ι → Bool) (s : Race ι σ α) : Bool :=
  (s.disconnecting.nextOp (DriverState.handle channels) isVisible s.driver).any kind

/-- The channel has been closed. -/
def closed (s : Race ι σ α) : Bool := s.driver.calls.any fun call => call.op == .close

/-- A step that keeps the clients apart: the channel is not closed while the request is about
to call it, and the request does not test the connection between `close` and the store that
follows it. -/
def Apart (channels : Channels ι σ) (s : Race ι σ α) : Party → Prop
  | .disconnect => s.disconnectNext channels DriverOp.isClose = true →
      s.requestNext channels DriverOp.isCall = false
  | .request => s.requestNext channels DriverOp.isTest = true → s.closed = true →
      s.driver.isConnected = false

end Race

/-- Code that calls no channel method as long as the driver is not connected. -/
def Harmless : DriverProgram ι α → Prop
  | .done _ => True
  | .call .lock next => Harmless (next ())
  | .call .unlock next => Harmless (next ())
  | .call .loadConnected next => Harmless (next false)
  | .call _ _ => False

/-- Code whose next step is a call of a channel method. -/
def CallsNext (p : DriverProgram ι α) : Prop :=
  ∃ (op : ChannelOp) (f : op.Result → DriverProgram ι α), op.NeedsOpen ∧
    p = invoke op >>= f

/-- Code that makes transfers only after a test of the connection, and in a row: at any other
point the rest of it is harmless. The constructors are its steps. -/
inductive Tested : DriverProgram ι α → Prop where
  | done (a : α) : Tested (.done a)
  | lock {next : Unit → DriverProgram ι α} (hharmless : Harmless (next ()))
      (hrest : Tested (next ())) : Tested (.call .lock next)
  | unlock {next : Unit → DriverProgram ι α} (hharmless : Harmless (next ()))
      (hrest : Tested (next ())) : Tested (.call .unlock next)
  | test {next : Bool → DriverProgram ι α} (hharmless : Harmless (next false))
      (hfalse : Tested (next false)) (hcalls : CallsNext (next true)) (htrue : Tested (next true)) :
      Tested (.call .loadConnected next)
  | transfer (op : ChannelOp) {f : op.Result → DriverProgram ι α} (hop : op.NeedsOpen)
      (hrest : ∀ r, Tested (f r)) : Tested (invoke op >>= f)

/-- `_sendCommand` and what follows it, by the answer of the test. -/
theorem sendCommand_bind (cmd : SlU8) (payload : List SlU8) (g : SlResult → DriverProgram ι α) :
    (sendCommand cmd payload >>= g) = .call .loadConnected fun connected =>
      bif connected then do
        invoke .flush
        invoke .clearReadCache
        let _ ← invoke (.write (copyPacket (cmdPacket cmd payload)))
        g slResultOk
      else g slResultOperationFail := by
  refine congrArg (Program.call DriverOp.loadConnected) (funext fun connected => ?_)
  cases connected <;> rfl

/-- `_waitResponse` and what follows it, by the answer of the test. -/
theorem waitResponse_bind (payload : List SlU8) (size : ℕ) (timeout : SlU32)
    (g : SlResult × List SlU8 → DriverProgram ι α) :
    (waitResponse payload size timeout >>= g) = .call .loadConnected fun connected =>
      bif connected then do
        let ready ← invoke (.waitForData (pktSizeExPayload + size) timeout)
        bif ready then do
          let r ← invoke (.read (pktSizeExPayload + size))
          g (slResultOk, overlay r.stored payload)
        else g (slResultOperationTimeout, payload)
      else g (slResultOperationFail, payload) := by
  refine congrArg (Program.call DriverOp.loadConnected) (funext fun connected => ?_)
  cases connected with
  | false => rfl
  | true =>
    refine congrArg (Program.call DriverOp.loadChannel) (funext fun c => ?_)
    refine congrArg (Program.call (DriverOp.call c _)) (funext fun ready => ?_)
    cases ready <;> rfl

/-- The sending section is harmless and tested code if what follows it is. -/
theorem tested_sendCommand (cmd : SlU8) (payload : List SlU8) {g : SlResult → DriverProgram ι α}
    (hg : ∀ ans, Harmless (g ans) ∧ Tested (g ans)) :
    Harmless (sendCommand cmd payload >>= g) ∧ Tested (sendCommand cmd payload >>= g) := by
  rw [sendCommand_bind]
  refine ⟨(hg _).1, .test (hg _).1 (hg _).2 ⟨.flush, _, trivial, rfl⟩ ?_⟩
  refine .transfer .flush trivial fun _ => ?_
  refine .transfer .clearReadCache trivial fun _ => ?_
  exact .transfer (.write _) trivial fun _ => (hg _).2

/-- The waiting section is harmless and tested code if what follows it is. -/
theorem tested_waitResponse (payload : List SlU8) (size : ℕ) (timeout : SlU32)
    {g : SlResult × List SlU8 → DriverProgram ι α} (hg : ∀ r, Harmless (g r) ∧ Tested (g r)) :
    Harmless (waitResponse payload size timeout >>= g) ∧
      Tested (waitResponse payload size timeout >>= g) := by
  rw [waitResponse_bind]
  refine ⟨(hg _).1, .test (hg _).1 (hg _).2 ⟨.waitForData _ _, _, trivial, rfl⟩ ?_⟩
  refine .transfer (.waitForData _ _) trivial fun ready => ?_
  cases ready with
  | false => exact (hg _).2
  | true => exact .transfer (.read _) trivial fun _ => (hg _).2

/-- A release of the lock is harmless and tested code if what follows it is. -/
theorem tested_release {p : DriverProgram ι α} (h : Harmless p ∧ Tested p) :
    Harmless (release >>= fun _ => p) ∧ Tested (release >>= fun _ => p) :=
  ⟨h.1, .unlock h.1 h.2⟩

/-- So is the acquisition of the lock. -/
theorem tested_acquire {p : DriverProgram ι α} (h : Harmless p ∧ Tested p) :
    Harmless (acquire >>= fun _ => p) ∧ Tested (acquire >>= fun _ => p) :=
  ⟨h.1, .lock h.1 h.2⟩

/-- Every request is harmless and tested code. -/
theorem Request.tested (r : Request) (out : r.Output) (timeout : SlU32) :
    Harmless (r.program out timeout : DriverProgram ι _) ∧
      Tested (r.program out timeout : DriverProgram ι _) := by
  have hreturn (a : SlResult × r.Output) :
      Harmless (pure a : DriverProgram ι _) ∧ Tested (pure a : DriverProgram ι _) :=
    ⟨trivial, .done a⟩
  rw [r.program_eq, transact]
  refine tested_acquire (tested_sendCommand _ _ fun ans => tested_release ?_)
  split
  · exact hreturn _
  · refine tested_acquire (tested_waitResponse _ _ _ fun response => tested_release ?_)
    split
    · exact hreturn _
    · exact hreturn _

/-- Tested code is harmless wherever its next step is not a channel call. -/
theorem Tested.harmless {p : DriverProgram ι α} (h : Tested p) {channels : Channels ι σ}
    {s : DriverState ι σ}
    (hnext : (p.nextOp (DriverState.handle channels) isVisible s).any DriverOp.isCall = false) :
    Harmless p := by
  cases h with
  | done a => trivial
  | lock hharmless _ => exact hharmless
  | unlock hharmless _ => exact hharmless
  | test hharmless _ _ _ => exact hharmless
  | transfer _ _ _ => cases hnext

/-- And where it is one, it is a transfer. -/
theorem Tested.callsNext {p : DriverProgram ι α} (h : Tested p) {channels : Channels ι σ}
    {s : DriverState ι σ}
    (hnext : (p.nextOp (DriverState.handle channels) isVisible s).any DriverOp.isCall = true) :
    CallsNext p := by
  cases h with
  | done a => cases hnext
  | lock _ _ => cases hnext
  | unlock _ _ => cases hnext
  | test _ _ _ _ => cases hnext
  | transfer _ hop _ => exact ⟨_, _, hop, rfl⟩

/-- What is left of `disconnect` between its steps. -/
inductive Closing : DriverProgram ι Unit → Prop where
  | test : Closing (.call .loadConnected fun connected =>
      bif connected then do
        invoke .close
        setConnected false
      else setConnected false)
  | close : Closing (do
      invoke .close
      setConnected false)
  | store : Closing (setConnected false)
  | done : Closing (.done ())

/-- `disconnect` begins with its test. -/
theorem closing_disconnect : Closing (disconnect : DriverProgram ι Unit) := by
  have heq : (disconnect : DriverProgram ι Unit) = .call .loadConnected fun connected =>
      bif connected then do
        invoke .close
        setConnected false
      else setConnected false := by
    refine congrArg (Program.call DriverOp.loadConnected) (funext fun connected => ?_)
    cases connected <;> rfl
  rw [heq]
  exact .test

/-- Code only adds to the record of channel calls. -/
theorem runUntil_calls (channels : Channels ι σ) (p : DriverProgram ι α) (s : DriverState ι σ) :
    ∃ more, (p.runUntil (DriverState.handle channels) isVisible s).2.calls = s.calls ++ more := by
  induction p generalizing s with
  | done a => exact ⟨[], by simp⟩
  | call op next ih =>
    have hop : ∃ more, (DriverState.handle channels op s).2.calls = s.calls ++ more := by
      cases op with
      | call c op => exact ⟨_, rfl⟩
      | _ => exact ⟨[], (List.append_nil _).symm⟩
    rw [Program.runUntil_call]
    split
    · exact hop
    · obtain ⟨more, hmore⟩ := hop
      obtain ⟨rest, hrest⟩ := ih (DriverState.handle channels op s).1
        (DriverState.handle channels op s).2
      exact ⟨more ++ rest, by rw [hrest, hmore, List.append_assoc]⟩

/-- So does a step of a client. -/
theorem clientStep_calls (channels : Channels ι σ) (locked : Bool) (p : DriverProgram ι α)
    (s : DriverState ι σ) :
    ∃ more, (clientStep channels locked p s).2.2.calls = s.calls ++ more := by
  unfold clientStep
  split
  · split
    · exact ⟨[], (List.append_nil _).symm⟩
    · exact ⟨[], (List.append_nil _).symm⟩
  · exact ⟨[], (List.append_nil _).symm⟩
  · exact runUntil_calls channels _ s

namespace Race

variable {channels : Channels ι σ} {s : Race ι σ α}

/-- A step of the race adds to the record of channel calls. -/
theorem step_calls (channels : Channels ι σ) (s : Race ι σ α) (party : Party) :
    ∃ more, (s.step channels party).driver.calls = s.driver.calls ++ more := by
  cases party with
  | request => exact clientStep_calls channels s.locked s.requesting s.driver
  | disconnect => exact clientStep_calls channels s.locked s.disconnecting s.driver

/-- The code that is left in a race. -/
structure Shape (s : Race ι σ α) : Prop where
  tested : Tested s.requesting
  closing : Closing s.disconnecting

/-- The states of a race whose steps are kept apart. -/
structure Inv (s : Race ι σ α) : Prop extends Shape s where
  harmless : s.closed = true → Harmless s.requesting
  calls : NoTransferAfterClose s.driver.calls

/-- Every step leaves code of the same shape. -/
theorem Shape.step (h : s.Shape) (channels : Channels ι σ) (party : Party) :
    (s.step channels party).Shape := by
  obtain ⟨driver, locked, requesting, disconnecting⟩ := s
  obtain ⟨htested, hclosing⟩ := h
  cases party with
  | request =>
    refine ⟨?_, hclosing⟩
    cases htested with
    | done a => exact .done a
    | lock hharmless hrest =>
      cases locked with
      | false => exact hrest
      | true => exact .lock hharmless hrest
    | unlock _ hrest => exact hrest
    | @test next hharmless hfalse hcalls htrue =>
      change Tested (next driver.isConnected)
      cases driver.isConnected with
      | false => exact hfalse
      | true => exact htrue
    | transfer _ _ hrest => exact hrest _
  | disconnect =>
    refine ⟨htested, ?_⟩
    cases hclosing with
    | test =>
      change Closing (bif driver.isConnected then _ else _)
      cases driver.isConnected with
      | false => exact .store
      | true => exact .close
    | close => exact .store
    | store => exact .done
    | done => exact .done

/-- The channel has been closed if a call of `close` is recorded. -/
theorem closed_iff : s.closed = true ↔ ∃ call ∈ s.driver.calls, call.op = .close := by
  simp [closed]

/-- One more call keeps the record clean if it is no transfer or nothing was closed. -/
theorem noTransferAfterClose_concat {s : Race ι σ α} (h : NoTransferAfterClose s.driver.calls)
    {call : ChannelCall ι} (hcall : call.op.NeedsOpen → s.closed = false) :
    NoTransferAfterClose (s.driver.calls ++ [call]) := by
  rw [NoTransferAfterClose, eachAfter_append]
  refine ⟨h, fun htransfer c hc hclose => ?_, trivial⟩
  have hclosed : s.closed = true := closed_iff.mpr ⟨c, hc, hclose⟩
  rw [hcall htransfer] at hclosed
  cases hclosed

/-- A channel that the request is about to call is open. -/
theorem Inv.closed_eq_false (h : s.Inv) (hcalls : CallsNext s.requesting) : s.closed = false := by
  obtain ⟨op, f, -, hreq⟩ := hcalls
  refine Bool.eq_false_iff.mpr fun hclosed => ?_
  have hharmless := h.harmless hclosed
  rw [hreq] at hharmless
  exact hharmless

/-- Whatever the request does next, it is no transfer on a closed channel. -/
theorem Inv.request_calls (h : s.Inv) (channels : Channels ι σ) :
    NoTransferAfterClose (s.step channels .request).driver.calls := by
  have hopen := h.closed_eq_false
  obtain ⟨driver, locked, requesting, disconnecting⟩ := s
  obtain ⟨⟨htested, -⟩, -, hcalls⟩ := h
  cases htested with
  | lock _ _ => cases locked <;> exact hcalls
  | transfer _ hop _ => exact noTransferAfterClose_concat hcalls fun _ => hopen ⟨_, _, hop, rfl⟩
  | done | unlock | test => exact hcalls

/-- A step of the request that is kept apart. -/
theorem Inv.request (h : s.Inv) (hapart : s.Apart channels .request) :
    (s.step channels .request).Inv := by
  suffices hharmless : (s.step channels .request).closed = true →
      Harmless (s.step channels .request).requesting from
    ⟨h.toShape.step channels .request, hharmless, h.request_calls channels⟩
  intro hclosed
  have hopen := h.closed_eq_false
  obtain ⟨driver, locked, requesting, disconnecting⟩ := s
  obtain ⟨⟨htested, -⟩, -, -⟩ := h
  cases htested with
  | done a => trivial
  | lock hrest _ => cases locked <;> exact hrest
  | unlock hrest _ => exact hrest
  | @test next hfalse _ _ _ =>
    have hconn : driver.isConnected = false := hapart rfl hclosed
    change Harmless (next driver.isConnected)
    rwa [hconn]
  | @transfer op f hop _ =>
    -- the channel was open, and the call does not close it
    obtain ⟨call, hcall, hclose⟩ := closed_iff.mp hclosed
    rcases List.mem_append.mp hcall with hold | hnew
    · have hbefore : @closed ι σ α ⟨driver, locked, invoke op >>= f, disconnecting⟩ = true :=
        closed_iff.mpr ⟨call, hold, hclose⟩
      exact absurd ((hopen ⟨op, f, hop, rfl⟩).symm.trans hbefore) Bool.false_ne_true
    · obtain rfl := List.mem_singleton.mp hnew
      obtain rfl : op = .close := hclose
      cases hop

/-- A step of `disconnect` that is kept apart. -/
theorem Inv.disconnect (h : s.Inv) (hapart : s.Apart channels .disconnect) :
    (s.step channels .disconnect).Inv := by
  suffices hmain : ((s.step channels .disconnect).closed = true →
      Harmless (s.step channels .disconnect).requesting) ∧
      NoTransferAfterClose (s.step channels .disconnect).driver.calls from
    ⟨h.toShape.step channels .disconnect, hmain.1, hmain.2⟩
  obtain ⟨driver, locked, requesting, disconnecting⟩ := s
  obtain ⟨⟨htested, hclosing⟩, hharmless, hcalls⟩ := h
  cases hclosing with
  | test => exact ⟨hharmless, hcalls⟩
  | close =>
    refine ⟨fun _ => htested.harmless (hapart rfl), noTransferAfterClose_concat hcalls ?_⟩
    intro htransfer
    cases htransfer
  | store => exact ⟨hharmless, hcalls⟩
  | done => exact ⟨hharmless, hcalls⟩

/-- A step that is kept apart. -/
theorem Inv.step (h : s.Inv) {party : Party} (hapart : s.Apart channels party) :
    (s.step channels party).Inv := by
  cases party with
  | request => exact h.request hapart
  | disconnect => exact h.disconnect hapart

/-- The start of a race. -/
theorem inv_start (r : Request) (out : r.Output) (timeout : SlU32) (channel : Option ι)
    (connected : Bool) (env : σ) : (start r out timeout channel connected env).Inv where
  tested := (r.tested out timeout).2
  closing := closing_disconnect
  harmless := fun _ => (r.tested out timeout).1
  calls := trivial

/-- The channel has been closed, and the next step of the request is a transfer. -/
def Doomed (s : Race ι σ α) : Prop := s.closed = true ∧ CallsNext s.requesting

/-- The channel stays closed. -/
theorem closed_step (channels : Channels ι σ) (party : Party) (h : s.closed = true) :
    (s.step channels party).closed = true := by
  obtain ⟨more, hmore⟩ := s.step_calls channels party
  rw [closed] at h ⊢
  rw [hmore, List.any_append, h, Bool.true_or]

/-- A step that is not kept apart dooms the race. -/
theorem Shape.doomed (h : s.Shape) {party : Party} (hapart : ¬ s.Apart channels party) :
    (s.step channels party).Doomed := by
  obtain ⟨driver, locked, requesting, disconnecting⟩ := s
  obtain ⟨htested, hclosing⟩ := h
  cases party with
  | request =>
    rw [Apart, Classical.not_imp, Classical.not_imp, Bool.not_eq_false] at hapart
    obtain ⟨htest, hclosed, hconn⟩ := hapart
    cases htested with
    | @test next _ _ hcalls _ =>
      refine ⟨closed_step channels .request hclosed, ?_⟩
      change CallsNext (next driver.isConnected)
      rwa [hconn]
    | done | lock | unlock | transfer => cases htest
  | disconnect =>
    rw [Apart, Classical.not_imp, Bool.not_eq_false] at hapart
    obtain ⟨hclose, hcall⟩ := hapart
    refine ⟨?_, htested.callsNext hcall⟩
    cases hclosing with
    | close => exact closed_iff.mpr ⟨_, List.mem_append_right _ (List.mem_singleton_self _), rfl⟩
    | test | store | done => cases hclose

/-- In a doomed race the next step of the request is a transfer on the closed channel. -/
theorem Doomed.request (h : s.Doomed) (channels : Channels ι σ) :
    ¬ NoTransferAfterClose (s.step channels .request).driver.calls := by
  obtain ⟨driver, locked, requesting, disconnecting⟩ := s
  obtain ⟨hclosed, op, f, hop, rfl⟩ := h
  obtain ⟨call, hcall, hclose⟩ := closed_iff.mp hclosed
  intro hclean
  have hsplit := (eachAfter_append [] driver.calls [_]).mp hclean
  exact hsplit.2.1 hop call hcall hclose

/-- A doomed race stays so while `disconnect` goes on. -/
theorem Doomed.step (h : s.Doomed) (channels : Channels ι σ) (party : Party) :
    (s.step channels party).Doomed ∨
      ¬ NoTransferAfterClose (s.step channels party).driver.calls := by
  cases party with
  | request => exact .inr (h.request channels)
  | disconnect => exact .inl ⟨closed_step channels .disconnect h.1, h.2⟩

/-- **A request is kept away from a closed channel.** A request and `disconnect` on one driver,
their steps in any order: every step of the run is kept apart if and only if in no state of
the run, nor after one more step of the request, has the channel been called for a transfer
after its `close`. -/
theorem apart_iff (r : Request) (out : r.Output) (timeout : SlU32) (channels : Channels ι σ)
    (channel : Option ι) (connected : Bool) (env : σ) (steps : List Party) :
    StepsMeet (step channels) (Apart channels) (start r out timeout channel connected env) steps ↔
      ∀ before after, steps ++ [Party.request] = before ++ after → NoTransferAfterClose
        (before.foldl (step channels)
          (start r out timeout channel connected env)).driver.calls := by
  have hstart := inv_start r out timeout channel connected env
  constructor
  · intro hmeet before after hsplit
    exact hmeet.throughout (P := fun s => NoTransferAfterClose s.driver.calls)
      (fun _ _ hs hapart => hs.step hapart) (fun _ hs => hs.calls)
      (fun _ hs => hs.request_calls channels) hstart hsplit
  · intro h
    exact stepsMeet_of_throughout (P := fun s => NoTransferAfterClose s.driver.calls)
      (fun _ party hs _ => Shape.step hs channels party) (fun _ _ hs hapart => hs.doomed hapart)
      (fun _ party hd => hd.step channels party) (fun _ hd => hd.request channels)
      hstart.toShape h

/-- A request takes the lock and tests the connection. Then the channel is closed, which the
lock does not prevent, and the request goes on to flush it. -/
theorem flush_after_close :
    let s := [Party.request, .request, .disconnect, .disconnect, .request].foldl
      (step (cannedChannels [])) (start .imuRaw zeroImuRawData defaultTimeout (some ()) true ())
    s.driver.calls.map ChannelCall.op = [.close, .flush] ∧
      ¬ NoTransferAfterClose s.driver.calls := by
  intro s
  refine ⟨rfl, fun hclean => ?_⟩
  exact hclean.2.1 trivial _ (List.mem_singleton_self _) rfl

end Race

end Slamkit
