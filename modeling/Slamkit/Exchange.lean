import Slamkit.Framing

/-!
# One request on a channel

A request of a connected driver is two exchanges with the channel, one in each
critical section: the command is sent, and the reply is awaited. This file says
once what a request does with any channel, and derives what the driver checks
of a reply, what it does not, and how a reply is decoded.
-/

namespace Slamkit

open Library

variable {ι σ β : Type}

/-- `connect` refuses a null channel. -/
theorem connect_exec_null (channels : Channels ι σ) (s : DriverState ι σ) :
    s.exec channels (connect none) = (slResultOperationFail, s) := rfl

/-- `connect` of a connected driver does nothing. -/
theorem connect_exec_of_connected (channels : Channels ι σ) {s : DriverState ι σ}
    (hconn : s.isConnected = true) (c : ι) :
    s.exec channels (connect (some c)) = (slResultAlreadyDone, s) := by
  simp [DriverState.exec, connect, isConnected, DriverState.handle, hconn]

/-- `connect` to a channel that does not open: only the channel is replaced. -/
theorem connect_exec_of_open_failed (channels : Channels ι σ) {s : DriverState ι σ}
    (hconn : s.isConnected = false) {c : ι} (hopen : (channels (some c) .«open» s.env).1 = false) :
    s.exec channels (connect (some c)) = (slResultOperationFail,
      { s with
        channel := some c
        env := (channels (some c) .«open» s.env).2
        calls := s.calls ++ [⟨some c, .«open», false⟩] }) := by
  simp [DriverState.exec, connect, isConnected, setChannel, acquire, release, invoke,
    DriverState.handle, hconn, hopen]

/-- `connect` to a channel that opens. -/
theorem connect_exec_of_opened (channels : Channels ι σ) {s : DriverState ι σ}
    (hconn : s.isConnected = false) {c : ι} (hopen : (channels (some c) .«open» s.env).1 = true) :
    s.exec channels (connect (some c)) = (slResultOk,
      { channel := some c
        isConnected := true
        env := (channels (some c) .flush (channels (some c) .«open» s.env).2).2
        calls := s.calls ++ [⟨some c, .«open», true⟩, ⟨some c, .flush, ()⟩] }) := by
  simp [DriverState.exec, connect, isConnected, setChannel, acquire, release, setConnected, invoke,
    DriverState.handle, hconn, hopen]

/-- `disconnect` closes the channel of a connected driver. -/
theorem disconnect_exec (channels : Channels ι σ) {s : DriverState ι σ}
    (hconn : s.isConnected = true) :
    s.exec channels disconnect = ((),
      { s with
        isConnected := false
        env := (channels s.channel .close s.env).2
        calls := s.calls ++ [⟨s.channel, .close, ()⟩] }) := by
  simp [DriverState.exec, disconnect, isConnected, setConnected, invoke, DriverState.handle, hconn]

/-- `disconnect` without a connection does nothing. -/
theorem disconnect_exec_of_not_connected (channels : Channels ι σ) {s : DriverState ι σ}
    (hconn : s.isConnected = false) : s.exec channels disconnect = ((), s) := by
  cases s
  simp only at hconn
  simp [DriverState.exec, disconnect, isConnected, setConnected, DriverState.handle, hconn]

/-- The channel calls of the sending section: their record, the result of `write`
and the environment afterwards. -/
structure Sent (ι σ : Type) where
  calls : List (ChannelCall ι)
  written : WriteResult
  env : σ

/-- `flush`, `clearReadCache` and `write` in a row. -/
def send (channels : Channels ι σ) (channel : Option ι) (frame : List SlU8) (env : σ) :
    Sent ι σ :=
  let flushed := channels channel .flush env
  let cleared := channels channel .clearReadCache flushed.2
  let written := channels channel (.write frame) cleared.2
  { calls := [⟨channel, .flush, flushed.1⟩, ⟨channel, .clearReadCache, cleared.1⟩,
      ⟨channel, .write frame, written.1⟩]
    written := written.1
    env := written.2 }

/-- The channel calls of the waiting section: their record, the result of `read`
if the wait succeeded, and the environment afterwards. -/
structure Awaited (ι σ : Type) where
  calls : List (ChannelCall ι)
  answer : Option ReadResult
  env : σ

/-- `waitForData`, and `read` of as many bytes if it returns true. -/
def await (channels : Channels ι σ) (channel : Option ι) (pktSize : ℕ) (timeout : SlU32)
    (env : σ) : Awaited ι σ :=
  let ready := channels channel (.waitForData pktSize timeout) env
  if ready.1 = true then
    let r := channels channel (.read pktSize) ready.2
    { calls := [⟨channel, .waitForData pktSize timeout, ready.1⟩, ⟨channel, .read pktSize, r.1⟩]
      answer := some r.1
      env := r.2 }
  else
    { calls := [⟨channel, .waitForData pktSize timeout, ready.1⟩]
      answer := none
      env := ready.2 }

/-- The sending section makes three calls. -/
theorem send_calls (channels : Channels ι σ) (channel : Option ι) (frame : List SlU8) (env : σ) :
    (send channels channel frame env).calls = [⟨channel, .flush, ()⟩,
      ⟨channel, .clearReadCache, ()⟩,
      ⟨channel, .write frame, (send channels channel frame env).written⟩] := rfl

/-- The waiting section makes one call or, after a successful wait, two. -/
theorem await_cases (channels : Channels ι σ) (channel : Option ι) (pktSize : ℕ) (timeout : SlU32)
    (env : σ) :
    let awaited := await channels channel pktSize timeout env
    (awaited.calls = [⟨channel, .waitForData pktSize timeout, false⟩] ∧ awaited.answer = none) ∨
    ∃ a, awaited.calls = [⟨channel, .waitForData pktSize timeout, true⟩,
      ⟨channel, .read pktSize, a⟩] ∧ awaited.answer = some a := by
  intro awaited
  cases hready : (channels channel (.waitForData pktSize timeout) env).1 with
  | false =>
    left
    simp [awaited, await, hready]
  | true =>
    right
    simp [awaited, await, hready]

/-- After a successful wait the answer is what `read` returns. -/
theorem await_of_ready (channels : Channels ι σ) (channel : Option ι) {pktSize : ℕ}
    {timeout : SlU32} {env : σ}
    (hready : (channels channel (.waitForData pktSize timeout) env).1 = true) :
    let awaited := await channels channel pktSize timeout env
    let r := channels channel (.read pktSize)
      (channels channel (.waitForData pktSize timeout) env).2
    awaited.answer = some r.1 ∧ awaited.env = r.2 := by
  intro awaited r
  unfold awaited await
  simp only
  rw [if_pos hready]
  exact ⟨rfl, rfl⟩

/-- After a wait that fails there is no answer. -/
theorem await_of_not_ready (channels : Channels ι σ) (channel : Option ι) {pktSize : ℕ}
    {timeout : SlU32} {env : σ}
    (hready : (channels channel (.waitForData pktSize timeout) env).1 = false) :
    let awaited := await channels channel pktSize timeout env
    awaited.answer = none ∧
      awaited.env = (channels channel (.waitForData pktSize timeout) env).2 := by
  intro awaited
  unfold awaited await
  simp only
  rw [if_neg (by rw [hready]; exact Bool.false_ne_true)]
  exact ⟨rfl, rfl⟩

/-- A connected driver sends its packet in `_sendCommand`. -/
theorem sendCommand_exec (channels : Channels ι σ) {s : DriverState ι σ}
    (hconn : s.isConnected = true) (cmd : SlU8) (payload : List SlU8) :
    let sent := send channels s.channel (copyPacket (cmdPacket cmd payload)) s.env
    s.exec channels (sendCommand cmd payload) =
      (slResultOk, { s with env := sent.env, calls := s.calls ++ sent.calls }) := by
  simp [DriverState.exec, sendCommand, isConnected, invoke, DriverState.handle, hconn, send]

/-- Without a connection `_sendCommand` does nothing. -/
theorem sendCommand_exec_of_not_connected (channels : Channels ι σ) {s : DriverState ι σ}
    (hconn : s.isConnected = false) (cmd : SlU8) (payload : List SlU8) :
    s.exec channels (sendCommand cmd payload) = (slResultOperationFail, s) := by
  simp [DriverState.exec, sendCommand, isConnected, DriverState.handle, hconn]

/-- A connected driver waits for its reply in `_waitResponse`. -/
theorem waitResponse_exec (channels : Channels ι σ) {s : DriverState ι σ}
    (hconn : s.isConnected = true) (payload : List SlU8) (size : ℕ) (timeout : SlU32) :
    let awaited := await channels s.channel (pktSizeExPayload + size) timeout s.env
    s.exec channels (waitResponse payload size timeout) =
      (awaited.answer.elim (slResultOperationTimeout, payload)
          (fun r => (slResultOk, overlay r.stored payload)),
        { s with env := awaited.env, calls := s.calls ++ awaited.calls }) := by
  by_cases hready :
      (channels s.channel (.waitForData (pktSizeExPayload + size) timeout) s.env).1 = true
  · simp [DriverState.exec, waitResponse, isConnected, invoke, DriverState.handle, hconn, await,
      hready]
  · simp [DriverState.exec, waitResponse, isConnected, invoke, DriverState.handle, hconn, await,
      hready]

/-- What a request returns, from the answer of the channel. -/
def respond (load : List SlU8 → β) (answer : Option ReadResult) (out : β) : SlResult × β :=
  answer.elim (slResultOperationTimeout, out)
    (fun r => accept load (overlay r.stored zeroBuffer) out)

/-- The failures of a request are failures of the SDK. -/
theorem slIsFail_failures : slIsFail slResultOperationTimeout = true ∧
    slIsFail slResultInvalidData = true ∧ slIsFail slResultOperationFail = true := by decide

/-- A request that has been answered either fails, without touching the output structure, or
succeeds. -/
theorem respond_cases (load : List SlU8 → β) (answer : Option ReadResult) (out : β) :
    slIsFail (respond load answer out).1 = true ∧ (respond load answer out).2 = out ∨
      (respond load answer out).1 = slResultOk := by
  obtain ⟨htimeout, hinvalid, hfail⟩ := slIsFail_failures
  cases answer with
  | none => exact .inl ⟨htimeout, rfl⟩
  | some a =>
    simp only [respond, Option.elim_some, accept]
    split
    · exact .inl ⟨hinvalid, rfl⟩
    · split
      · exact .inl ⟨hfail, rfl⟩
      · exact .inr rfl

/-- The two tests on the result of `_waitResponse`, `SL_IS_FAIL(ans)` and `ans`,
agree on every result it has. -/
theorem Request.waitFailed_eq (r : Request) :
    r.waitFailed slResultOk = false ∧ r.waitFailed slResultOperationTimeout = true := by
  cases r <;> exact ⟨rfl, rfl⟩

/-- The exchange of a request: its sending section run in `env`. -/
def Request.send (r : Request) (channels : Channels ι σ) (channel : Option ι) (env : σ) :
    Sent ι σ :=
  Slamkit.send channels channel r.frame env

/-- The exchange of a request: its waiting section run after its sending section. -/
def Request.await (r : Request) (channels : Channels ι σ) (channel : Option ι) (timeout : SlU32)
    (env : σ) : Awaited ι σ :=
  Slamkit.await channels channel (pktSizeExPayload + r.size) timeout
    (r.send channels channel env).env

/-- What all methods but `open` and `close` keep, the exchange of a request keeps. -/
theorem Request.await_keeps (r : Request) (channels : Channels ι σ) (channel : Option ι)
    (timeout : SlU32) {I : σ → Prop}
    (hkeep : ∀ op env, op ≠ .«open» → op ≠ .close → I env → I (channels channel op env).2)
    {env : σ} (henv : I env) : I (r.await channels channel timeout env).env := by
  have hflushed := hkeep .flush env nofun nofun henv
  have hcleared := hkeep .clearReadCache _ nofun nofun hflushed
  have hwritten : I (r.send channels channel env).env :=
    hkeep (.write r.frame) _ nofun nofun hcleared
  have hwaited := hkeep (.waitForData (pktSizeExPayload + r.size) timeout) _ nofun nofun hwritten
  unfold Request.await Slamkit.await
  simp only
  split
  · exact hkeep (.read _) _ nofun nofun hwaited
  · exact hwaited

/-- A request of a connected driver is its two exchanges with the channel. -/
theorem Request.exec (r : Request) (channels : Channels ι σ) {s : DriverState ι σ}
    (hconn : s.isConnected = true) (out : r.Output) (timeout : SlU32) :
    let sent := r.send channels s.channel s.env
    let awaited := r.await channels s.channel timeout s.env
    s.exec channels (r.program out timeout) =
      (respond r.load awaited.answer out,
        { s with env := awaited.env, calls := s.calls ++ sent.calls ++ awaited.calls }) := by
  obtain ⟨hok, htimeout⟩ := r.waitFailed_eq
  have hsend := sendCommand_exec channels hconn cmdCodeSlamtecSlamkit r.txReq
  simp only [DriverState.exec] at hsend ⊢
  rw [r.program_eq, transact]
  simp only [acquire, release, Program.perform_bind, Program.run_call, DriverState.handle,
    Program.run_bind, hsend]
  have hwait := waitResponse_exec channels
    (s := { s with
      env := (r.send channels s.channel s.env).env
      calls := s.calls ++ (r.send channels s.channel s.env).calls })
    hconn zeroBuffer r.size timeout
  simp only [DriverState.exec, Request.send, Request.frame] at hwait
  rw [if_neg (by decide)]
  simp only [Program.run_call, Program.run_bind, DriverState.handle, hwait]
  cases hanswer : (r.await channels s.channel timeout s.env).answer with
  | none =>
    simp only [Request.await, Request.send, Request.frame] at hanswer
    simp [hanswer, htimeout, respond, Request.await, Request.send, Request.frame]
  | some a =>
    simp only [Request.await, Request.send, Request.frame] at hanswer
    simp [hanswer, hok, respond, Request.await, Request.send, Request.frame]

/-- The result of a request of a connected driver. -/
theorem Request.exec_fst (r : Request) (channels : Channels ι σ) {s : DriverState ι σ}
    (hconn : s.isConnected = true) (out : r.Output) (timeout : SlU32) :
    (s.exec channels (r.program out timeout)).1 =
      respond r.load (r.await channels s.channel timeout s.env).answer out := by
  rw [r.exec channels hconn]

/-- A request of a driver that is not connected fails and does nothing. -/
theorem Request.exec_of_not_connected (r : Request) (channels : Channels ι σ)
    {s : DriverState ι σ} (hconn : s.isConnected = false) (out : r.Output) (timeout : SlU32) :
    s.exec channels (r.program out timeout) = ((slResultOperationFail, out), s) := by
  have hsend := sendCommand_exec_of_not_connected channels hconn cmdCodeSlamtecSlamkit r.txReq
  simp only [DriverState.exec] at hsend ⊢
  rw [r.program_eq, transact]
  simp only [acquire, release, Program.perform_bind, Program.run_call, DriverState.handle,
    Program.run_bind, hsend]
  rw [if_pos (by decide)]
  rfl

/-- Every request of any driver either fails, without touching the output structure, or
succeeds. -/
theorem Request.exec_cases (r : Request) (channels : Channels ι σ) (s : DriverState ι σ)
    (out : r.Output) (timeout : SlU32) :
    let result := (s.exec channels (r.program out timeout)).1
    slIsFail result.1 = true ∧ result.2 = out ∨ result.1 = slResultOk := by
  cases hconn : s.isConnected with
  | false =>
    rw [r.exec_of_not_connected channels hconn]
    exact .inl ⟨slIsFail_failures.2.2, rfl⟩
  | true =>
    rw [r.exec_fst channels hconn]
    exact respond_cases _ _ _

end Slamkit
