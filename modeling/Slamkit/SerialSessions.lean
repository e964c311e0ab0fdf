import Slamkit.SerialTracking
import Slamkit.SerialWait
import Slamkit.SessionTrace

/-!
# Driver sessions on a serial port

In every session of the driver on a `SerialPortChannel`, each system call is given descriptors that
the port has obtained and not yet released. The session keeps the protocol of the channel, and the
single methods of `raw_serial` keep the rest.
-/

namespace Slamkit

open Library RawSerial

namespace SerialLine

/-- The invariant of a channel. An open channel has no `close` pending. -/
structure Inv (gnuc isOpen : Bool) (s : SerialLine) : Prop where
  rxtx : s.channel.rxtxSerial.Inv gnuc isOpen
  notPending : isOpen = true → s.channel.closePending = false

/-- `open` keeps the invariant. -/
theorem Inv.open {gnuc isOpen : Bool} {s : SerialLine} (h : s.Inv gnuc isOpen) :
    (s.open gnuc).2.Inv gnuc (s.open gnuc).1 := by
  have hbound : (s.channel.bind s.channel.device s.channel.baudrate).2.rxtxSerial.Inv gnuc
      isOpen :=
    ⟨⟨h.rxtx.tracked.recorded, h.rxtx.tracked.sound⟩,
      ⟨h.rxtx.owned.custody, h.rxtx.owned.free, h.rxtx.owned.noPipe⟩, h.rxtx.opened,
      h.rxtx.serial, h.rxtx.piped⟩
  exact ⟨hbound.open s.now.opening s.now.pipeFlags, fun _ => rfl⟩

/-- `close` keeps the invariant. -/
theorem Inv.close {gnuc isOpen : Bool} {s : SerialLine} (h : s.Inv gnuc isOpen) :
    s.close.Inv gnuc false :=
  ⟨h.rxtx.cancelOperation.close, nofun⟩

/-- `write` on an open channel keeps the invariant. -/
theorem Inv.write {gnuc : Bool} {s : SerialLine} (h : s.Inv gnuc true) (data : List SlU8) :
    (s.write data).2.Inv gnuc true := by
  refine ⟨?_, h.notPending⟩
  unfold SerialLine.write
  simp only
  cases hsend : s.channel.rxtxSerial.senddata data (s.now.writes ++ [.error false]) with
  | none => exact h.rxtx
  | some r =>
    obtain ⟨r', -, rfl⟩ := Option.map_eq_some_iff.mp hsend
    have huses : ∀ call ∈ (if !s.channel.rxtxSerial.port.isSerialOpened || data.length = 0 then []
        else SerialRxtx.sendCalls s.channel.rxtxSerial.port.serialFd data.length
          (s.now.writes ++ [.error false]) 0), s.channel.rxtxSerial.Uses call := by
      intro call hcall
      split at hcall
      · cases hcall
      · rw [SerialRxtx.sendCalls_eq _ _ _ _ call hcall]
        exact h.rxtx.uses_serialFd rfl rfl
    have hissue := h.rxtx.issue huses
    exact ⟨⟨hissue.tracked.recorded, hissue.tracked.sound⟩, hissue.owned, hissue.opened,
      hissue.serial, hissue.piped⟩

/-- `read` on an open channel keeps the invariant. -/
theorem Inv.read {gnuc : Bool} {s : SerialLine} (h : s.Inv gnuc true) (size : ℕ) :
    (s.read size).2.Inv gnuc true := by
  refine ⟨?_, h.notPending⟩
  have huses : ∀ call ∈ (if !s.channel.rxtxSerial.port.isSerialOpened then []
      else [PortCall.read s.channel.rxtxSerial.port.serialFd]),
      s.channel.rxtxSerial.Uses call := by
    intro call hcall
    split at hcall
    · cases hcall
    · rw [List.mem_singleton.mp hcall]
      exact h.rxtx.uses_serialFd rfl rfl
  have hissue := h.rxtx.issue huses
  exact ⟨⟨hissue.tracked.recorded, hissue.tracked.sound⟩, hissue.owned, hissue.opened,
    hissue.serial, hissue.piped⟩

/-- A transfer is allowed in the open phase, and leads to it. -/
theorem transfer_phases {isOpen isOpen' : Bool}
    (h : (if isOpen then some true else none) = some isOpen') : isOpen = true ∧ isOpen' = true := by
  cases isOpen with
  | false => cases h
  | true => exact ⟨rfl, (Option.some.inj h).symm⟩

/-- Every method that is called as the protocol allows keeps the invariant. -/
theorem Inv.step {gnuc isOpen isOpen' : Bool} {channel : Option Unit} {op : ChannelOp}
    {s : SerialLine} (h : s.Inv gnuc isOpen)
    (hnext : nextPhase () isOpen ⟨channel, op, (serialChannels gnuc channel op s).1⟩ =
      some isOpen') : (serialChannels gnuc channel op s).2.Inv gnuc isOpen' := by
  obtain _ | ⟨⟩ := channel
  · cases hnext
  · cases op with
    | «open» =>
      cases isOpen with
      | true => cases hnext
      | false =>
        obtain rfl : (s.open gnuc).1 = isOpen' := Option.some.inj hnext
        exact h.open
    | close =>
      cases isOpen with
      | false => cases hnext
      | true =>
        obtain rfl : false = isOpen' := Option.some.inj hnext
        exact h.close
    | flush =>
      obtain ⟨rfl, rfl⟩ := transfer_phases hnext
      refine ⟨h.rxtx.issue ?_, h.notPending⟩
      intro call hcall
      rw [List.mem_singleton.mp hcall]
      exact h.rxtx.uses_serialFd rfl rfl
    | waitForData size timeout =>
      obtain ⟨rfl, rfl⟩ := transfer_phases hnext
      refine ⟨h.rxtx.issue ?_, h.notPending⟩
      intro call hcall
      rw [h.notPending rfl, if_neg Bool.false_ne_true] at hcall
      exact h.rxtx.uses_waitCalls _ _ _ _ _ _ call hcall
    | write data =>
      obtain ⟨rfl, rfl⟩ := transfer_phases hnext
      exact h.write data
    | read size =>
      obtain ⟨rfl, rfl⟩ := transfer_phases hnext
      exact h.read size
    | clearReadCache =>
      obtain ⟨rfl, rfl⟩ := transfer_phases hnext
      exact ⟨h.rxtx, h.notPending⟩

/-- A new channel. -/
theorem inv_new (gnuc : Bool) (device : List SlU8) (baudrate : SlS32) (uninitialised : Bool)
    (answers : ℕ → SerialAnswers) :
    (new gnuc device baudrate uninitialised answers).Inv gnuc false :=
  ⟨SerialRxtx.inv_new gnuc, nofun⟩

/-- The invariant holds in every session. -/
theorem inv_session (gnuc : Bool) {s : SerialLine} (h : s.Inv gnuc false)
    (ops : List (SessionOp Unit)) :
    (Session.runOps (serialChannels gnuc) s ops).driver.env.Inv gnuc
      (Session.runOps (serialChannels gnuc) s ops).driver.isConnected := by
  have hinv := Session.keeps (serialChannels gnuc) () (I := fun isOpen s => s.Inv gnuc isOpen)
    (fun _ _ _ _ _ hs hnext => hs.step hnext) h ops
  rwa [Session.connectedTo_unit] at hinv

/-- What the baud rate of a channel has to do with its line: an open port has been bound to it,
and waits divide by zero only if it is 0. -/
structure Bound (baudrate : SlS32) (isOpen : Bool) (s : SerialLine) : Prop where
  channel : s.channel.baudrate = baudrate
  port : isOpen = true → s.channel.rxtxSerial.port.baudrate = baudrate.toBitVec
  crashed : s.crashed = true → baudrate = 0

/-- `open` binds the port first. -/
theorem Bound.open {baudrate : SlS32} {isOpen : Bool} {s : SerialLine} (h : s.Bound baudrate isOpen)
    (gnuc : Bool) : (s.open gnuc).2.Bound baudrate (s.open gnuc).1 := by
  refine ⟨h.channel, fun _ => ?_, h.crashed⟩
  have hport := SerialRxtx.open_port gnuc s.now.opening s.now.pipeFlags
    (s.channel.bind s.channel.device s.channel.baudrate).2.rxtxSerial
  change (SerialRxtx.open gnuc s.now.opening s.now.pipeFlags
    (s.channel.bind s.channel.device s.channel.baudrate).2.rxtxSerial).2.port.baudrate = _
  rw [hport.2, SerialPort.openLinux_baudrate, ← h.channel]
  rfl

/-- `write` leaves the port alone. -/
theorem write_port (data : List SlU8) (s : SerialLine) :
    (s.write data).2.channel.rxtxSerial.port = s.channel.rxtxSerial.port := by
  unfold SerialLine.write SerialRxtx.senddata
  cases s.channel.rxtxSerial.view.senddata data (s.now.writes ++ [.error false]) <;> rfl

/-- A wait on an open port divides by zero only at baud rate 0. -/
theorem Bound.of_divides {baudrate : SlS32} {s : SerialLine} (h : s.Bound baudrate true)
    (hopen : s.channel.rxtxSerial.port.isSerialOpened = true) {size : ℕ} {timeout : SlU32}
    (hdivides : s.divides size timeout = true) : baudrate = 0 := by
  unfold divides at hdivides
  have hcrashed := eq_of_beq ((Bool.and_eq_true _ _).mp hdivides).2
  have hzero : s.channel.rxtxSerial.port.baudrate = 0 := baudrate_of_waitfordata hopen hcrashed
  rw [h.port rfl] at hzero
  exact Int32.toBitVec_inj.mp hzero

/-- Every method that is called as the protocol allows keeps this. -/
theorem Bound.step {gnuc isOpen isOpen' : Bool} {channel : Option Unit} {op : ChannelOp}
    {baudrate : SlS32} {s : SerialLine} (hinv : s.Inv gnuc isOpen) (h : s.Bound baudrate isOpen)
    (hnext : nextPhase () isOpen ⟨channel, op, (serialChannels gnuc channel op s).1⟩ =
      some isOpen') : (serialChannels gnuc channel op s).2.Bound baudrate isOpen' := by
  obtain _ | ⟨⟩ := channel
  · cases hnext
  · cases op with
    | «open» =>
      cases isOpen with
      | true => cases hnext
      | false =>
        obtain rfl : (s.open gnuc).1 = isOpen' := Option.some.inj hnext
        exact h.open gnuc
    | close =>
      cases isOpen with
      | false => cases hnext
      | true =>
        obtain rfl : false = isOpen' := Option.some.inj hnext
        exact ⟨h.channel, nofun, h.crashed⟩
    | flush =>
      obtain ⟨rfl, rfl⟩ := transfer_phases hnext
      exact ⟨h.channel, h.port, h.crashed⟩
    | waitForData size timeout =>
      obtain ⟨rfl, rfl⟩ := transfer_phases hnext
      refine ⟨h.channel, h.port, fun hcrashed => ?_⟩
      rcases (Bool.or_eq_true _ _).mp hcrashed with hbefore | hdivides
      · exact h.crashed hbefore
      · exact h.of_divides hinv.rxtx.opened hdivides
    | write data =>
      obtain ⟨rfl, rfl⟩ := transfer_phases hnext
      refine ⟨h.channel, fun hopen => ?_, h.crashed⟩
      change (s.write data).2.channel.rxtxSerial.port.baudrate = _
      rw [write_port]
      exact h.port hopen
    | read size =>
      obtain ⟨rfl, rfl⟩ := transfer_phases hnext
      exact ⟨h.channel, h.port, h.crashed⟩
    | clearReadCache =>
      obtain ⟨rfl, rfl⟩ := transfer_phases hnext
      exact ⟨h.channel, h.port, h.crashed⟩

/-- A new channel. -/
theorem bound_new (gnuc : Bool) (device : List SlU8) (baudrate : SlS32) (uninitialised : Bool)
    (answers : ℕ → SerialAnswers) :
    (new gnuc device baudrate uninitialised answers).Bound baudrate false :=
  ⟨rfl, nofun, nofun⟩

/-- Every session keeps the channel bound. -/
theorem bound_session (gnuc : Bool) {baudrate : SlS32} {s : SerialLine} (hinv : s.Inv gnuc false)
    (h : s.Bound baudrate false) (ops : List (SessionOp Unit)) :
    (Session.runOps (serialChannels gnuc) s ops).driver.env.Bound baudrate
      (Session.runOps (serialChannels gnuc) s ops).driver.isConnected := by
  have hkept := Session.keeps (serialChannels gnuc) ()
    (I := fun isOpen s => s.Inv gnuc isOpen ∧ s.Bound baudrate isOpen)
    (fun _ _ _ _ _ hs hnext => ⟨hs.1.step hnext, .step hs.1 hs.2 hnext⟩) ⟨hinv, h⟩ ops
  rw [Session.connectedTo_unit] at hkept
  exact hkept.2

end SerialLine

/-- **Sessions on a serial port use only descriptors of the port.** In every session of the driver
on a `SerialPortChannel` for Linux, whatever the system calls answer and whatever arrives, until
the driver and the channel are destroyed: every system call and every macro is given descriptors
that the port has obtained and not yet released. The only exception is `FD_ISSET` of -1, after
`pipe` has failed. After every session the members hold just these descriptors, no two of them the
same one if `::open` and `pipe` return descriptors that are not in use. In the end all have been
released, unless a wait has divided by zero, which takes a baud rate of 0. -/
theorem serial_session_descriptors (gnuc : Bool) (device : List SlU8) (baudrate : SlS32)
    (uninitialised : Bool) (answers : ℕ → SerialAnswers) (ops : List (SessionOp Unit)) :
    let line := SerialLine.new gnuc device baudrate uninitialised answers
    let rxtx := (Session.runOps (serialChannels gnuc) line ops).driver.env.channel.rxtxSerial
    let s := Session.complete (serialChannels gnuc) line ops
    let calls := s.driver.env.channel.destroy.rxtxSerial.calls
    (∀ before call after, calls = before ++ call :: after → ∀ fd ∈ call.descriptors,
      fdHandles.Live (before.filterMap PortCall.fdCall?) fd ∨
        call = .fdIsset (-1) ∧ PortCall.fdCall (.pipe none) ∈ before) ∧
    (∀ fd, fd ∈ rxtx.port.held ↔ fdHandles.Live (rxtx.calls.filterMap PortCall.fdCall?) fd) ∧
    (EachAfter fdHandles.Fresh [] (rxtx.calls.filterMap PortCall.fdCall?) →
      rxtx.port.held.Nodup) ∧
    (s.driver.env.crashed = true → baudrate = 0) ∧
    (s.driver.env.crashed = false → ∀ fd,
      fdHandles.releasedCount (calls.filterMap PortCall.fdCall?) fd =
        fdHandles.obtainedCount (calls.filterMap PortCall.fdCall?) fd) := by
  intro line rxtx s calls
  have hnew : line.Inv gnuc false :=
    SerialLine.inv_new gnuc device baudrate uninitialised answers
  have hbound : s.driver.env.Bound baudrate s.driver.isConnected := SerialLine.bound_session gnuc
    hnew (SerialLine.bound_new gnuc device baudrate uninitialised answers) _
  have hsofar := (SerialLine.inv_session gnuc hnew ops).rxtx
  have hrecorded : rxtx.calls.filterMap PortCall.fdCall? = rxtx.port.sysCalls :=
    hsofar.tracked.recorded
  have hsession : s.driver.env.Inv gnuc s.driver.isConnected :=
    SerialLine.inv_session gnuc hnew _
  have hend := hsession.rxtx.close
  refine ⟨?_, fun fd => ?_, fun hfresh => ?_, hbound.crashed, fun _ fd => ?_⟩
  · intro before call after hsplit fd hfd
    have hsound := (eachAfter_iff _ _).mp hend.tracked.sound before call after hsplit
    rw [List.nil_append] at hsound
    exact hsound fd hfd
  · rw [hrecorded]
    exact (hsofar.owned.custody.live_iff fd).symm
  · rw [hrecorded] at hfresh
    exact hsofar.owned.custody.nodup hfresh
  · have hrecorded := hend.tracked.recorded
    change calls.filterMap PortCall.fdCall? = _ at hrecorded
    rw [hrecorded]
    have hcustody := hend.owned.custody
    rw [(hend.owned.free rfl).1] at hcustody
    exact hcustody.settled fd

/-- A line whose system calls succeed, on which nothing arrives. -/
def quietAnswers : SerialAnswers where
  opening := ⟨some 3, true, true, true, some (4, 5)⟩
  pipeFlags := 4
  arriving := []
  ioctlOk := true
  rounds := []
  writes := [.ok 1024]

/-- While it is connected, a channel holds three descriptors. -/
theorem serial_session_descriptors_quiet :
    let rxtx := (Session.runOps (serialChannels true)
      (.new true [] 115200 true fun _ => quietAnswers)
      [.connect (some ())]).driver.env.channel.rxtxSerial
    rxtx.port.held = [3, 4, 5] ∧ rxtx.port.held.Nodup := by
  have hfresh : EachAfter fdHandles.Fresh []
      [.open [] (some 3), .pipe (some (4, 5))] := by
    refine ⟨⟨?_, by decide⟩, ⟨?_, by decide⟩, trivial⟩
    · simp [fdHandles, Handles.Live, Handles.obtainedCount]
    · simp [fdHandles, Handles.Live, Handles.obtainedCount, Handles.releasedCount]
  exact ⟨by decide, (serial_session_descriptors true [] 115200 true (fun _ => quietAnswers)
    [.connect (some ())]).2.2.1 hfresh⟩

end Slamkit
