import Slamkit.Library.History
import Slamkit.Library.Run
import Slamkit.Replies

/-!
# Sessions of one client

One client calls the methods of the driver in any order, with any channels, and
the destructor ends the session. The channels answer as they like. This file
proves what holds of the channel calls of every session: the driver talks to a
channel only while it is open, and opens and closes pair up.
-/

namespace Slamkit

open Library

variable {ι σ : Type} [DecidableEq ι]

/-- A call that has opened channel `c`. -/
def ChannelCall.opens (c : ι) : ChannelCall ι → Bool
  | ⟨channel, .«open», result⟩ => result && channel == some c
  | _ => false

/-- A call that closes channel `c`. -/
def ChannelCall.closes (c : ι) : ChannelCall ι → Bool
  | ⟨channel, .close, _⟩ => channel == some c
  | _ => false

/-- The number of times channel `c` was opened with success. -/
def openCount (calls : List (ChannelCall ι)) (c : ι) : ℕ := calls.countP (·.opens c)

/-- The number of times channel `c` was closed. -/
def closeCount (calls : List (ChannelCall ι)) (c : ι) : ℕ := calls.countP (·.closes c)

/-- Channel `c` has been opened and not yet closed. -/
def IsOpen (calls : List (ChannelCall ι)) (c : ι) : Prop := closeCount calls c < openCount calls c

@[simp] theorem openCount_append (past calls : List (ChannelCall ι)) (c : ι) :
    openCount (past ++ calls) c = openCount past c + openCount calls c := List.countP_append

@[simp] theorem closeCount_append (past calls : List (ChannelCall ι)) (c : ι) :
    closeCount (past ++ calls) c = closeCount past c + closeCount calls c := List.countP_append

/-- What a call may rely on: a channel is opened only while it is closed, and
every other method is called on an open channel. -/
def CallAllowed (past : List (ChannelCall ι)) (call : ChannelCall ι) : Prop :=
  ∃ c, call.channel = some c ∧
    match call.op with
    | .«open» => closeCount past c = openCount past c
    | _ => openCount past c = closeCount past c + 1

/-- A read directly follows a successful wait for as many bytes on its channel,
which follows a write. -/
def ReadAllowed (past : List (ChannelCall ι)) (call : ChannelCall ι) : Prop :=
  ∀ size, call.op = .read size → ∃ earlier timeout,
    past = earlier ++ [⟨call.channel, .waitForData size timeout, true⟩] ∧
    ∃ data written, ⟨call.channel, .write data, written⟩ ∈ earlier

/-- The calls a client makes on the driver. -/
inductive SessionOp (ι : Type) where
  | connect (channel : Option ι)
  | disconnect
  | request (r : Request) (out : r.Output) (timeout : SlU32)

/-- Run one operation of a session: its result and the driver afterwards. -/
def SessionOp.run (channels : Channels ι σ) :
    SessionOp ι → DriverState ι σ → SlResult × DriverState ι σ
  | .connect channel, s => s.exec channels (Slamkit.connect channel)
  | .disconnect, s => (slResultOk, (s.exec channels Slamkit.disconnect).2)
  | .request r out timeout, s =>
    let r := s.exec channels (r.program out timeout)
    (r.1.1, r.2)

/-- A session: the driver, the channel last passed to a `connect` that returned
`SL_RESULT_OK`, and the channel calls of each operation. -/
structure Session (ι σ : Type) where
  driver : DriverState ι σ
  lastConnected : Option ι
  segments : List (List (ChannelCall ι))

/-- All channel calls of a session, oldest first. -/
def Session.history (s : Session ι σ) : List (ChannelCall ι) := s.segments.flatten

/-- The session of a newly constructed driver. -/
def Session.start (env : σ) : Session ι σ := ⟨⟨none, false, env, []⟩, none, []⟩

/-- The channel a connection is remembered by after an operation with a result. -/
def SessionOp.connected (op : SessionOp ι) (result : SlResult) (last : Option ι) : Option ι :=
  match op with
  | .connect channel => if result = slResultOk then channel else last
  | _ => last

/-- One operation of a session. -/
def Session.step (channels : Channels ι σ) (s : Session ι σ) (op : SessionOp ι) : Session ι σ :=
  let r := op.run channels { s.driver with calls := [] }
  { driver := r.2
    lastConnected := op.connected r.1 s.lastConnected
    segments := s.segments ++ [r.2.calls] }

/-- The session after some operations. -/
def Session.runOps (channels : Channels ι σ) (env : σ) (ops : List (SessionOp ι)) : Session ι σ :=
  ops.foldl (Session.step channels) (Session.start env)

/-- A whole session: the operations, and `disconnect` from the destructor. -/
def Session.complete (channels : Channels ι σ) (env : σ) (ops : List (SessionOp ι)) :
    Session ι σ :=
  Session.runOps channels env (ops ++ [.disconnect])

omit [DecidableEq ι] in
/-- What an operation of a session can do to the driver and to its channels. -/
theorem SessionOp.run_cases (channels : Channels ι σ) (op : SessionOp ι) {s : DriverState ι σ}
    (hcalls : s.calls = []) :
    let r := op.run channels s
    -- no channel call, nothing changes
    (r.2.calls = [] ∧ r.2.channel = s.channel ∧ r.2.isConnected = s.isConnected ∧
      (op = .disconnect → s.isConnected = false) ∧
      ∀ channel, op = .connect channel → r.1 ≠ slResultOk) ∨
    -- a channel could not be opened
    (∃ c, op = .connect (some c) ∧ s.isConnected = false ∧
      r.2.calls = [⟨some c, .«open», false⟩] ∧ r.2.isConnected = false ∧ r.1 ≠ slResultOk) ∨
    -- a channel was opened
    (∃ c, op = .connect (some c) ∧ s.isConnected = false ∧
      r.2.calls = [⟨some c, .«open», true⟩, ⟨some c, .flush, ()⟩] ∧
      r.2.channel = some c ∧ r.2.isConnected = true ∧ r.1 = slResultOk) ∨
    -- the channel was closed
    (op = .disconnect ∧ s.isConnected = true ∧ r.2.calls = [⟨s.channel, .close, ()⟩] ∧
      r.2.isConnected = false) ∨
    -- a request was sent
    (∃ request out timeout, op = .request request out timeout ∧ s.isConnected = true ∧
      r.2.calls = (request.send channels s.channel s.env).calls ++
        (request.await channels s.channel timeout s.env).calls ∧
      r.2.channel = s.channel ∧ r.2.isConnected = true) := by
  intro r
  cases op with
  | connect channel =>
    cases channel with
    | none =>
      left
      have hr : r = (slResultOperationFail, s) := connect_exec_null channels s
      rw [hr]
      exact ⟨hcalls, rfl, rfl, by simp, fun _ _ => operationFail_ne_ok⟩
    | some c =>
      cases hconn : s.isConnected with
      | true =>
        left
        have hr : r = (slResultAlreadyDone, s) := connect_exec_of_connected channels hconn c
        rw [hr]
        exact ⟨hcalls, rfl, hconn, by simp, fun _ _ => alreadyDone_ne_ok⟩
      | false =>
        right
        cases hopen : (channels (some c) .«open» s.env).1 with
        | false =>
          left
          have hr : r = _ := connect_exec_of_open_failed channels hconn hopen
          rw [hr]
          exact ⟨c, rfl, rfl, by rw [hcalls]; rfl, hconn, operationFail_ne_ok⟩
        | true =>
          right; left
          have hr : r = _ := connect_exec_of_opened channels hconn hopen
          rw [hr]
          exact ⟨c, rfl, rfl, by rw [hcalls]; rfl, rfl, rfl, rfl⟩
  | disconnect =>
    cases hconn : s.isConnected with
    | false =>
      left
      have hr : r = (slResultOk, (s.exec channels Slamkit.disconnect).2) := rfl
      rw [hr, disconnect_exec_of_not_connected channels hconn]
      exact ⟨hcalls, rfl, hconn, fun _ => rfl, nofun⟩
    | true =>
      right; right; right; left
      have hr : r = (slResultOk, (s.exec channels Slamkit.disconnect).2) := rfl
      rw [hr, disconnect_exec channels hconn]
      exact ⟨rfl, rfl, by rw [hcalls]; rfl, rfl⟩
  | request request out timeout =>
    have hr : r = ((s.exec channels (request.program out timeout)).1.1,
      (s.exec channels (request.program out timeout)).2) := rfl
    cases hconn : s.isConnected with
    | false =>
      left
      rw [hr, request.exec_of_not_connected channels hconn]
      exact ⟨hcalls, rfl, hconn, by simp, nofun⟩
    | true =>
      right; right; right; right
      rw [hr, request.exec channels hconn]
      exact ⟨request, out, timeout, rfl, rfl, by rw [hcalls]; rfl, rfl, hconn⟩

omit [DecidableEq ι] in
/-- After `disconnect` the driver is not connected. -/
theorem Session.step_disconnect (channels : Channels ι σ) (s : Session ι σ) :
    (s.step channels .disconnect).driver.isConnected = false := by
  change (({ s.driver with calls := [] } : DriverState ι σ).exec channels
    Slamkit.disconnect).2.isConnected = false
  cases hconn : s.driver.isConnected with
  | false => rw [disconnect_exec_of_not_connected channels (by exact hconn)]; exact hconn
  | true => rw [disconnect_exec channels (by exact hconn)]

/-- A call on channel `c` that neither opens nor closes it. -/
def ChannelCall.IsTransfer (c : ι) (call : ChannelCall ι) : Prop :=
  call.channel = some c ∧ call.op ≠ .«open» ∧ call.op ≠ .close

/-- A transfer opens nothing. -/
theorem ChannelCall.IsTransfer.not_opens {c : ι} {call : ChannelCall ι} (h : call.IsTransfer c)
    (d : ι) : call.opens d = false := by
  obtain ⟨channel, op, result⟩ := call
  obtain ⟨_, hopen, _⟩ := h
  cases op <;> first | rfl | exact absurd rfl hopen

/-- A transfer closes nothing. -/
theorem ChannelCall.IsTransfer.not_closes {c : ι} {call : ChannelCall ι} (h : call.IsTransfer c)
    (d : ι) : call.closes d = false := by
  obtain ⟨channel, op, result⟩ := call
  obtain ⟨_, _, hclose⟩ := h
  cases op <;> first | rfl | exact absurd rfl hclose

/-- Transfers leave every channel as open as it was. -/
theorem counts_of_transfers {c : ι} {calls : List (ChannelCall ι)}
    (h : ∀ call ∈ calls, call.IsTransfer c) (d : ι) :
    openCount calls d = 0 ∧ closeCount calls d = 0 := by
  simp only [openCount, closeCount, List.countP_eq_zero, Bool.not_eq_true]
  exact ⟨fun call hcall => (h call hcall).not_opens d,
    fun call hcall => (h call hcall).not_closes d⟩

/-- Transfers on an open channel are allowed. -/
theorem callAllowed_of_transfers {c : ι} {past calls : List (ChannelCall ι)}
    (hopen : openCount past c = closeCount past c + 1)
    (h : ∀ call ∈ calls, call.IsTransfer c) : EachAfter CallAllowed past calls := by
  rw [eachAfter_iff]
  rintro before call after rfl
  have hbefore : ∀ call ∈ before, call.IsTransfer c := fun call hcall => h call (by simp [hcall])
  obtain ⟨hopens, hcloses⟩ := counts_of_transfers hbefore c
  obtain ⟨hchannel, hnotopen, _⟩ := h call (by simp)
  refine ⟨c, hchannel, ?_⟩
  obtain ⟨channel, op, result⟩ := call
  cases op
  case «open» => exact absurd rfl hnotopen
  all_goals simp only [openCount_append, closeCount_append]; omega

omit [DecidableEq ι] in
/-- The channel calls of a request are transfers. -/
theorem Request.calls_transfer (r : Request) (channels : Channels ι σ) (c : ι) (timeout : SlU32)
    (env : σ) :
    ∀ call ∈ (r.send channels (some c) env).calls ++ (r.await channels (some c) timeout env).calls,
      call.IsTransfer c := by
  intro call hcall
  have hsend := send_calls channels (some c) r.frame env
  have hawait := await_cases channels (some c) (pktSizeExPayload + r.size) timeout
    (r.send channels (some c) env).env
  rw [Request.send, hsend] at hcall
  rcases hawait with ⟨hcalls, -⟩ | ⟨a, hcalls, -⟩ <;>
  · rw [Request.await, hcalls] at hcall
    simp only [List.cons_append, List.nil_append, List.mem_cons, List.not_mem_nil, or_false]
      at hcall
    rcases hcall with rfl | rfl | rfl | rfl | rfl <;>
      exact ⟨rfl, by simp, by simp⟩

omit [DecidableEq ι] in
/-- A request reads directly after its successful wait, and after its write. -/
theorem Request.calls_read (r : Request) (channels : Channels ι σ) (channel : Option ι)
    (timeout : SlU32) (env : σ) :
    EachAfter ReadAllowed []
      ((r.send channels channel env).calls ++ (r.await channels channel timeout env).calls) := by
  have hsend := send_calls channels channel r.frame env
  have hawait := await_cases channels channel (pktSizeExPayload + r.size) timeout
    (r.send channels channel env).env
  rw [Request.send, hsend]
  rcases hawait with ⟨hcalls, -⟩ | ⟨a, hcalls, -⟩
  · rw [Request.await, hcalls]
    simp [ReadAllowed]
  · rw [Request.await, hcalls]
    simp only [List.cons_append, List.nil_append, eachAfter_cons, eachAfter_nil, and_true]
    refine ⟨by simp [ReadAllowed], by simp [ReadAllowed], by simp [ReadAllowed],
      by simp [ReadAllowed], ?_⟩
    intro size hsize
    obtain rfl : pktSizeExPayload + r.size = size := by simpa using hsize
    exact ⟨[⟨channel, .flush, ()⟩, ⟨channel, .clearReadCache, ()⟩,
      ⟨channel, .write r.frame, (Slamkit.send channels channel r.frame env).written⟩],
      timeout, rfl, r.frame, (Slamkit.send channels channel r.frame env).written, by simp⟩

/-- What holds between the operations of a session. -/
structure SessionInv (s : Session ι σ) : Prop where
  counts : ∀ c, openCount s.history c = closeCount s.history c +
    if s.driver.isConnected = true ∧ s.driver.channel = some c then 1 else 0
  connected : s.driver.isConnected = true →
    ∃ c, s.driver.channel = some c ∧ s.lastConnected = some c
  allowed : EachAfter CallAllowed [] s.history
  reads : ∀ segment ∈ s.segments, EachAfter ReadAllowed [] segment

/-- The invariant holds of a new driver. -/
theorem sessionInv_start (env : σ) : SessionInv (Session.start env : Session ι σ) where
  counts c := by simp [Session.start, Session.history, openCount, closeCount]
  connected h := by cases h
  allowed := trivial
  reads segment h := by cases h

/-- The invariant after an operation with some channel calls, from what these calls are. -/
theorem SessionInv.extend {s s' : Session ι σ} (h : SessionInv s) {calls : List (ChannelCall ι)}
    (hsegments : s'.segments = s.segments ++ [calls])
    (hcounts : ∀ c, openCount s.history c + openCount calls c =
      closeCount s.history c + closeCount calls c +
        if s'.driver.isConnected = true ∧ s'.driver.channel = some c then 1 else 0)
    (hconnected : s'.driver.isConnected = true →
      ∃ c, s'.driver.channel = some c ∧ s'.lastConnected = some c)
    (hallowed : EachAfter CallAllowed s.history calls)
    (hreads : EachAfter ReadAllowed [] calls) : SessionInv s' := by
  have hhistory : s'.history = s.history ++ calls := by simp [Session.history, hsegments]
  refine ⟨?_, hconnected, ?_, ?_⟩
  · intro c
    rw [hhistory, openCount_append, closeCount_append]
    exact hcounts c
  · rw [hhistory, eachAfter_append]
    exact ⟨h.allowed, hallowed⟩
  · intro segment hsegment
    rw [hsegments] at hsegment
    rcases List.mem_append.mp hsegment with hold | hlast
    · exact h.reads segment hold
    · rw [List.mem_singleton.mp hlast]
      exact hreads

/-- A driver that is not connected has closed every channel it has opened. -/
theorem SessionInv.closed {s : Session ι σ} (h : SessionInv s)
    (hconn : s.driver.isConnected = false) (c : ι) :
    openCount s.history c = closeCount s.history c := by
  have hcount := h.counts c
  rwa [if_neg (by simp [hconn]), Nat.add_zero] at hcount

/-- The channel of a connected driver is open, and no other. -/
theorem SessionInv.opened {s : Session ι σ} (h : SessionInv s) {c : ι}
    (hconn : s.driver.isConnected = true) (hchannel : s.driver.channel = some c) (d : ι) :
    openCount s.history d = closeCount s.history d + if c = d then 1 else 0 := by
  have hcount := h.counts d
  simpa only [hconn, hchannel, true_and, Option.some.injEq] using hcount

/-- The calls of a successful `connect` open its channel. -/
theorem counts_open (c d : ι) :
    openCount [(⟨some c, .«open», true⟩ : ChannelCall ι), ⟨some c, .flush, ()⟩] d =
        (if c = d then 1 else 0) ∧
      closeCount [(⟨some c, .«open», true⟩ : ChannelCall ι), ⟨some c, .flush, ()⟩] d = 0 := by
  by_cases hcd : c = d <;>
    simp [openCount, closeCount, ChannelCall.opens, ChannelCall.closes, hcd]

/-- The call of `disconnect` closes its channel. -/
theorem counts_close (c d : ι) :
    openCount [(⟨some c, .close, ()⟩ : ChannelCall ι)] d = 0 ∧
      closeCount [(⟨some c, .close, ()⟩ : ChannelCall ι)] d = if c = d then 1 else 0 := by
  by_cases hcd : c = d <;>
    simp [openCount, closeCount, ChannelCall.opens, ChannelCall.closes, hcd]

/-- One operation preserves the session invariant. -/
theorem SessionInv.step {channels : Channels ι σ} {s : Session ι σ} (h : SessionInv s)
    (op : SessionOp ι) : SessionInv (s.step channels op) := by
  have hcases := op.run_cases channels (s := { s.driver with calls := [] }) rfl
  set r := op.run channels { s.driver with calls := [] }
  have hdriver : (s.step channels op).driver = r.2 := rfl
  have hlast : (s.step channels op).lastConnected = op.connected r.1 s.lastConnected := rfl
  have hsegments : (s.step channels op).segments = s.segments ++ [r.2.calls] := rfl
  rcases hcases with ⟨hcalls, hchannel, hconn, -, hresult⟩ |
    ⟨c, rfl, hconn, hcalls, hconn', hresult⟩ | ⟨c, rfl, hconn, hcalls, hchannel, hconn', hresult⟩ |
    ⟨rfl, hconn, hcalls, hconn'⟩ | ⟨request, out, timeout, rfl, hconn, hcalls, hchannel, hconn'⟩ <;>
    simp only at hconn <;> rw [hcalls] at hsegments
  · -- nothing happened
    refine h.extend hsegments ?_ ?_ trivial trivial
    · intro c
      rw [hdriver, hchannel, hconn]
      exact h.counts c
    · have hkeep : op.connected r.1 s.lastConnected = s.lastConnected := by
        cases op with
        | connect channel => exact if_neg (hresult channel rfl)
        | disconnect => rfl
        | request => rfl
      rw [hdriver, hlast, hchannel, hconn, hkeep]
      exact h.connected
  · -- a channel could not be opened
    have hclosed := h.closed hconn
    refine h.extend hsegments ?_ ?_ ⟨⟨c, rfl, (hclosed c).symm⟩, trivial⟩ (by simp [ReadAllowed])
    · intro d
      rw [hdriver, hconn', hclosed d]
      rfl
    · rw [hdriver, hconn']
      exact nofun
  · -- a channel was opened
    have hclosed := h.closed hconn
    refine h.extend hsegments ?_ ?_ ⟨⟨c, rfl, (hclosed c).symm⟩, ⟨c, rfl, ?_⟩, trivial⟩
      (by simp [ReadAllowed])
    · intro d
      obtain ⟨hopens, hcloses⟩ := counts_open c d
      rw [hdriver, hconn', hchannel, hclosed d, hopens, hcloses]
      simp
    · rw [hdriver, hlast, hchannel, hresult]
      exact fun _ => ⟨c, rfl, rfl⟩
    · have hopened : openCount [(⟨some c, .«open», true⟩ : ChannelCall ι)] c = 1 := by
        simp [openCount, ChannelCall.opens]
      have hnone : closeCount [(⟨some c, .«open», true⟩ : ChannelCall ι)] c = 0 := rfl
      rw [openCount_append, closeCount_append, hclosed c, hopened, hnone]
  · -- the channel was closed
    obtain ⟨c, hchannel, -⟩ := h.connected hconn
    have hopen := h.opened hconn hchannel
    simp only [hchannel] at hsegments
    refine h.extend hsegments ?_ ?_ ⟨⟨c, rfl, ?_⟩, trivial⟩ (by simp [ReadAllowed])
    · intro d
      obtain ⟨hopens, hcloses⟩ := counts_close c d
      rw [hdriver, hconn', hopen d, hopens, hcloses]
      simp
    · rw [hdriver, hconn']
      exact nofun
    · simpa using hopen c
  · -- a request was sent
    simp only at hchannel hsegments
    obtain ⟨c, hc, hlastc⟩ := h.connected hconn
    rw [hc] at hchannel hsegments
    have htransfers := request.calls_transfer channels c timeout s.driver.env
    have hopen := h.opened hconn hc
    refine h.extend hsegments ?_ ?_ (callAllowed_of_transfers ?_ htransfers)
      (request.calls_read channels (some c) timeout s.driver.env)
    · intro d
      obtain ⟨hopens, hcloses⟩ := counts_of_transfers htransfers d
      rw [hdriver, hconn', hchannel, hopen d, hopens, hcloses]
      simp
    · rw [hdriver, hlast, hchannel]
      exact fun _ => ⟨c, rfl, hlastc⟩
    · simpa using hopen c

/-- The session invariant holds after any operations. -/
theorem sessionInv_runOps (channels : Channels ι σ) (env : σ) (ops : List (SessionOp ι)) :
    SessionInv (Session.runOps channels env ops) :=
  invariant_of_foldl (fun _ op hs => hs.step op) (sessionInv_start env) ops

/-- The methods that are only called on an open channel. -/
def ChannelOp.NeedsOpen : ChannelOp → Prop
  | .«open» => False
  | .close => False
  | _ => True

/-- **The session invariant of the driver.** For every session of one client, with
any channels and any results of their methods:
* after any operations, `isConnected` tells exactly whether the channel last passed
  to a successful `connect` is open;
* data and cache methods are only called on a channel that is open at that moment,
  channels are opened only while closed, and closed only while open;
* within an operation, a read directly follows a successful wait for as many bytes
  on the same channel, after a write;
* when the destructor has run, every successful open of a channel has been matched
  by a close. -/
theorem session_invariant (channels : Channels ι σ) (env : σ) (ops : List (SessionOp ι)) :
    (let s := Session.runOps channels env ops;
      s.driver.isConnected = true ↔ ∃ c, s.lastConnected = some c ∧ IsOpen s.history c) ∧
    (let s := Session.complete channels env ops;
      (∀ before call after, s.history = before ++ call :: after →
        ∃ c, call.channel = some c ∧
          (call.op.NeedsOpen → IsOpen before c) ∧
          (call.op = .«open» → openCount before c = closeCount before c) ∧
          (call.op = .close → openCount before c = closeCount before c + 1)) ∧
      (∀ segment ∈ s.segments, ∀ before call after, segment = before ++ call :: after →
        ∀ size, call.op = .read size → ∃ earlier timeout,
          before = earlier ++ [⟨call.channel, .waitForData size timeout, true⟩] ∧
          ∃ data written, ⟨call.channel, .write data, written⟩ ∈ earlier) ∧
      ∀ c, openCount s.history c = closeCount s.history c) := by
  have hinv := sessionInv_runOps channels env ops
  have hend := sessionInv_runOps channels env (ops ++ [.disconnect])
  refine ⟨⟨?_, ?_⟩, ?_, ?_, ?_⟩
  · intro hconn
    obtain ⟨c, hchannel, hlast⟩ := hinv.connected hconn
    refine ⟨c, hlast, ?_⟩
    have hcount := hinv.counts c
    rw [if_pos ⟨hconn, hchannel⟩] at hcount
    simp only [IsOpen]
    omega
  · rintro ⟨c, -, hopen⟩
    by_contra hconn
    have hcount := hinv.counts c
    rw [if_neg fun h => hconn h.1] at hcount
    simp only [IsOpen] at hopen
    omega
  · intro before call after hsplit
    obtain ⟨c, hchannel, hcall⟩ := (eachAfter_iff _ _).mp hend.allowed before call after hsplit
    rw [List.nil_append] at hcall
    refine ⟨c, hchannel, ?_⟩
    obtain ⟨channel, op, result⟩ := call
    cases op
    case «open» => exact ⟨nofun, fun _ => hcall.symm, nofun⟩
    case close => exact ⟨nofun, nofun, fun _ => hcall⟩
    all_goals
      refine ⟨fun _ => ?_, nofun, nofun⟩
      simp only [IsOpen] at hcall ⊢
      omega
  · intro segment hsegment before call after hsplit
    have hread := (eachAfter_iff _ _).mp (hend.reads segment hsegment) before call after hsplit
    rwa [List.nil_append] at hread
  · intro c
    have hcount := hend.counts c
    rwa [if_neg, Nat.add_zero] at hcount
    rintro ⟨hconn, -⟩
    have hlast : Session.runOps channels env (ops ++ [.disconnect]) =
        (Session.runOps channels env ops).step channels .disconnect := by
      rw [Session.runOps, List.foldl_append]
      rfl
    rw [hlast, Session.step_disconnect] at hconn
    cases hconn

end Slamkit
