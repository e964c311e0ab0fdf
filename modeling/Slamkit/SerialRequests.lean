import Slamkit.Device
import Slamkit.SerialReconnect
import Slamkit.SerialSend
import Slamkit.SerialStream

/-!
# Requests over a serial port

`_sendCommand` flushes the port before it writes, and `raw_serial` waits until all bytes of the
reply are queued. So a request decodes the first bytes that arrive after its own flush, whatever
has happened to the requests before it.
-/

namespace Slamkit

open Library RawSerial

namespace SerialLine

variable {gnuc : Bool} {s : SerialLine}

/-- `waitForData` lets the queue grow, and returns true only on a queue that is long enough. -/
theorem waitForData_sound (s : SerialLine) (size : ℕ) (timeout : SlU32) :
    (∃ bytes, (s.waitForData size timeout).2.tty = s.tty.arrive bytes) ∧
      ((s.waitForData size timeout).1 = true →
        size ≤ (s.waitForData size timeout).2.tty.queue.length) := by
  unfold waitForData
  simp only
  cases hwait : s.channel.view.waitForData size timeout s.now.arriving s.now.ioctlOk
      (s.now.rounds ++ [timeoutRound]) s.tty with
  | none => exact ⟨⟨[], s.tty.arrive_nil.symm⟩, nofun⟩
  | some r => exact SerialPortChannel.waitForData_sound hwait

/-- A wait on a closed port does not return true. -/
theorem opened_of_waitForData {size : ℕ} {timeout : SlU32}
    (hready : (s.waitForData size timeout).1 = true) :
    s.channel.rxtxSerial.port.isSerialOpened = true := by
  by_contra hclosed
  have hfalse := SerialPortChannel.waitForData_closed (c := s.channel.view)
    (Bool.not_eq_true _ ▸ hclosed) size timeout s.now.arriving s.now.ioctlOk
    (s.now.rounds ++ [timeoutRound]) s.tty
  exact absurd (hready.symm.trans hfalse) (by decide)

/-- `write` on an open port is accepted as far as the answers of `::write` go. -/
theorem write_granted (hopen : s.channel.rxtxSerial.port.isSerialOpened = true) {data : List SlU8}
    (hpos : 0 < data.length) :
    (s.write data).1.accepted = min data.length (granted s.now.writes) := by
  obtain ⟨⟨n, taken, s'⟩, hloop⟩ := Option.isSome_iff_exists.mp (sendLoop_isSome_of_error data
    s.now.writes false { s.channel.rxtxSerial.view with requiredTxCnt := 0 } 0 [])
  have hgranted := sendLoop_granted (Nat.zero_le _) hloop
  rw [granted_concat_error, Nat.zero_add] at hgranted
  obtain ⟨hn, htaken, -, -⟩ := sendLoop_spec (Nat.zero_le _) rfl hloop
  have hview : s.channel.rxtxSerial.view.isSerialOpened = true := hopen
  unfold write SerialRxtx.senddata
  rw [senddata_of_open hview hpos, hloop]
  change taken.length = _
  rw [htaken, List.length_take, Nat.min_eq_left hn, hgranted]

/-- `read` on an open port takes what is asked for from the front of the queue. -/
theorem read_of_open (hopen : s.channel.rxtxSerial.port.isSerialOpened = true) (size : ℕ) :
    (s.read size).1 = ⟨(s.received.queue.take size).length, s.received.queue.take size⟩ ∧
      (s.read size).2.tty = (s.received.take size).2 := by
  have hview : s.channel.rxtxSerial.view.isSerialOpened = true := hopen
  unfold read SerialRxtx.recvdata recvdata
  rw [if_neg (by rw [hview]; decide)]
  exact ⟨rfl, rfl⟩

/-- The line after the wait of a request. -/
def awaited (r : Request) (gnuc : Bool) (timeout : SlU32) (s : SerialLine) : SerialLine :=
  ((r.send (serialChannels gnuc) (some ()) s).env.waitForData (pktSizeExPayload + r.size)
    timeout).2

/-- Between its flush and the end of its wait, a request only lets bytes arrive. -/
theorem awaited_tty (s : SerialLine) (gnuc : Bool) (r : Request) (timeout : SlU32) :
    ∃ bytes, (s.awaited r gnuc timeout).tty = s.flush.tty.arrive bytes := by
  have hcleared : s.flush.clearReadCache.tty =
      s.flush.tty.arrive s.flush.now.arriving := rfl
  have hwritten : (r.send (serialChannels gnuc) (some ()) s).env.tty =
      s.flush.clearReadCache.tty.arrive s.flush.clearReadCache.now.arriving := rfl
  obtain ⟨⟨bytes, hwaited⟩, -⟩ := (r.send (serialChannels gnuc) (some ()) s).env.waitForData_sound
    (pktSizeExPayload + r.size) timeout
  refine ⟨s.flush.now.arriving ++ s.flush.clearReadCache.now.arriving ++ bytes, ?_⟩
  unfold awaited
  rw [hwaited, hwritten, hcleared, Fifo.arrive_arrive, Fifo.arrive_arrive, List.append_assoc]

/-- The flush of a request leaves nothing queued. -/
theorem Inv.flush_queue (h : s.Inv gnuc true) : s.flush.tty.queue = [] := by
  unfold flush
  simp only
  rw [if_pos (h.rxtx.serial rfl)]

/-- An open port stays open while a request waits. -/
theorem Inv.awaited (h : s.Inv gnuc true) (r : Request) (timeout : SlU32) :
    (s.awaited r gnuc timeout).Inv gnuc true := by
  have hflushed : s.flush.Inv gnuc true :=
    @Inv.step gnuc true true (some ()) .flush s h rfl
  have hcleared : s.flush.clearReadCache.Inv gnuc true :=
    @Inv.step gnuc true true (some ()) .clearReadCache _ hflushed rfl
  have hwritten := hcleared.write r.frame
  exact @Inv.step gnuc true true (some ()) (.waitForData _ timeout) _ hwritten rfl

/-- **What the channel answers a request**: either nothing, or the first bytes that have arrived
since the flush of the request, as many as it has asked for. -/
theorem Inv.await_answer (h : s.Inv gnuc true) (r : Request) (timeout : SlU32) :
    let awaited := r.await (serialChannels gnuc) (some ()) timeout s
    awaited.answer = none ∨
      ∃ bytes rest, awaited.env.tty.arrived = s.flush.tty.arrived ++ (bytes ++ rest) ∧
        bytes.length = pktSizeExPayload + r.size ∧
        awaited.answer = some ⟨bytes.length, bytes⟩ := by
  intro awaited
  cases hready : ((r.send (serialChannels gnuc) (some ()) s).env.waitForData
      (pktSizeExPayload + r.size) timeout).1 with
  | false =>
    left
    exact (await_of_not_ready (serialChannels gnuc) (some ()) hready).1
  | true =>
    right
    have hawait : awaited.answer =
          some ((s.awaited r gnuc timeout).read (pktSizeExPayload + r.size)).1 ∧
        awaited.env = ((s.awaited r gnuc timeout).read (pktSizeExPayload + r.size)).2 :=
      await_of_ready (serialChannels gnuc) (some ()) hready
    obtain ⟨bytes, htty⟩ := s.awaited_tty gnuc r timeout
    have hlong := ((r.send (serialChannels gnuc) (some ()) s).env.waitForData_sound
      (pktSizeExPayload + r.size) timeout).2 hready
    change _ ≤ (s.awaited r gnuc timeout).tty.queue.length at hlong
    rw [htty, Fifo.arrive_queue, h.flush_queue, List.nil_append] at hlong
    obtain ⟨hread, hrest⟩ := read_of_open (h.awaited r timeout).rxtx.opened
      (pktSizeExPayload + r.size)
    have hreceived : (s.awaited r gnuc timeout).received =
        s.flush.tty.arrive (bytes ++ (s.awaited r gnuc timeout).now.arriving) := by
      unfold received
      rw [htty, Fifo.arrive_arrive]
    rw [hreceived, Fifo.arrive_queue, h.flush_queue, List.nil_append] at hread
    rw [hreceived] at hrest
    refine ⟨(bytes ++ (s.awaited r gnuc timeout).now.arriving).take (pktSizeExPayload + r.size),
      (bytes ++ (s.awaited r gnuc timeout).now.arriving).drop (pktSizeExPayload + r.size),
      ?_, ?_, ?_⟩
    · rw [hawait.2, hrest, List.take_append_drop]
      rfl
    · rw [List.length_take, List.length_append]
      omega
    · rw [hawait.1, hread]

end SerialLine

/-- What a request does by the methods of the channel, on a line that has not crashed. -/
theorem SerialLine.request_outcome (gnuc : Bool) (device : List SlU8) (baudrate : SlS32)
    (uninitialised : Bool) (answers : ℕ → SerialAnswers) (ops : List (SessionOp Unit))
    (r : Request) (out : r.Output) (timeout : SlU32) :
    let s := (Session.runOps (serialChannels gnuc)
      (.new gnuc device baudrate uninitialised answers) ops).driver
    let after := s.exec (serialChannels gnuc) (r.program out timeout)
    (slIsFail after.1.1 = true ∧ after.1.2 = out) ∨
    (after.1.1 = slResultOk ∧
      ∃ bytes rest, after.2.env.tty.arrived = s.env.flush.tty.arrived ++ (bytes ++ rest) ∧
        bytes.length = pktSizeExPayload + r.size ∧ HeaderAccepted bytes ∧
        after.1.2 = r.load (bytes.drop 4)) := by
  intro s after
  have hinv := SerialLine.inv_session gnuc
    (SerialLine.inv_new gnuc device baudrate uninitialised answers) ops
  cases hconn : s.isConnected with
  | false =>
    left
    have hafter : after = ((slResultOperationFail, out), s) :=
      r.exec_of_not_connected (serialChannels gnuc) hconn out timeout
    rw [hafter]
    exact ⟨slIsFail_failures.2.2, rfl⟩
  | true =>
    change s.env.Inv gnuc s.isConnected at hinv
    rw [hconn] at hinv
    have hchannel : s.channel = some () := by
      obtain ⟨c, hchannel, -⟩ := (sessionInv_runOps (serialChannels gnuc)
        (.new gnuc device baudrate uninitialised answers) ops).connected hconn
      exact hchannel
    have hexec : after = _ := r.exec (serialChannels gnuc) hconn out timeout
    rw [hchannel] at hexec
    rcases hinv.await_answer r timeout with hnone | ⟨bytes, rest, harrived, hlength, hanswer⟩
    · left
      rw [hexec, hnone]
      exact ⟨slIsFail_failures.1, rfl⟩
    · rcases respond_cases r.load (r.await (serialChannels gnuc) (some ()) timeout s.env).answer
        out with hfail | hok
      · left
        rw [hexec]
        exact hfail
      · right
        obtain ⟨a, ha, hheader⟩ := (respond_eq_ok_iff _ _ _).mp hok
        obtain rfl : ⟨bytes.length, bytes⟩ = a := Option.some.inj (hanswer.symm.trans ha)
        rw [hexec]
        refine ⟨hok, bytes, rest, harrived, hlength, hheader, ?_⟩
        change (respond r.load _ out).2 = _
        rw [hanswer, respond_of_full r hheader hlength]

/-- A request leaves the channel bound to its baud rate. -/
theorem SerialLine.Bound.exec {gnuc : Bool} {baudrate : SlS32}
    {s : DriverState Unit SerialLine} (hinv : s.env.Inv gnuc s.isConnected)
    (h : s.env.Bound baudrate s.isConnected)
    (hchannel : s.isConnected = true → s.channel = some ()) (r : Request) (out : r.Output)
    (timeout : SlU32) :
    (s.exec (serialChannels gnuc) (r.program out timeout)).2.env.Bound baudrate
      s.isConnected := by
  cases hconn : s.isConnected with
  | false =>
    rw [r.exec_of_not_connected (serialChannels gnuc) hconn, ← hconn]
    exact h
  | true =>
    rw [hconn] at hinv h
    rw [r.exec (serialChannels gnuc) hconn, hchannel hconn]
    refine (r.await_keeps (serialChannels gnuc) (some ()) timeout
      (I := fun line => line.Inv gnuc true ∧ line.Bound baudrate true) ?_ ⟨hinv, h⟩).2
    rintro op line hopen hclose ⟨hline, hbound⟩
    have hnext : nextPhase () true
        ⟨some (), op, (serialChannels gnuc (some ()) op line).1⟩ = some true := by
      cases op with
      | «open» => exact absurd rfl hopen
      | close => exact absurd rfl hclose
      | _ => rfl
    exact ⟨hline.step hnext, .step hline hbound hnext⟩

/-- **A request over a serial port decodes what arrives after its flush.** After any session of the
driver on a `SerialPortChannel`, whatever the system calls answer and whatever arrives, a request
that returns either fails and leaves the output alone, or it succeeds, and then it has decoded the
first bytes that have arrived since its flush: as many as its reply has, none of them older. It
returns unless a wait has divided by zero, which takes a baud rate of 0, or goes on for ever. -/
theorem serial_request (gnuc : Bool) (device : List SlU8) (baudrate : SlS32)
    (uninitialised : Bool) (answers : ℕ → SerialAnswers) (ops : List (SessionOp Unit))
    (r : Request) (out : r.Output) (timeout : SlU32) :
    let s := (Session.runOps (serialChannels gnuc)
      (.new gnuc device baudrate uninitialised answers) ops).driver
    let after := s.exec (serialChannels gnuc) (r.program out timeout)
    (after.2.env.crashed = true ∧ baudrate = 0) ∨
    (after.2.env.crashed = false ∧ slIsFail after.1.1 = true ∧ after.1.2 = out) ∨
    (after.2.env.crashed = false ∧ after.1.1 = slResultOk ∧
      ∃ bytes rest, after.2.env.tty.arrived = s.env.flush.tty.arrived ++ (bytes ++ rest) ∧
        bytes.length = pktSizeExPayload + r.size ∧ HeaderAccepted bytes ∧
        after.1.2 = r.load (bytes.drop 4)) := by
  intro s after
  have hnew := SerialLine.inv_new gnuc device baudrate uninitialised answers
  have hsession := sessionInv_runOps (serialChannels gnuc)
    (.new gnuc device baudrate uninitialised answers) ops
  have hbound : after.2.env.Bound baudrate s.isConnected := by
    refine SerialLine.Bound.exec (SerialLine.inv_session gnuc hnew ops)
      (SerialLine.bound_session gnuc hnew
        (SerialLine.bound_new gnuc device baudrate uninitialised answers) ops) ?_ r out timeout
    intro hconn
    obtain ⟨c, hchannel, -⟩ := hsession.connected hconn
    exact hchannel
  cases hcrashed : after.2.env.crashed with
  | true => exact .inl ⟨rfl, hbound.crashed hcrashed⟩
  | false =>
    right
    rcases SerialLine.request_outcome gnuc device baudrate uninitialised answers ops r out timeout
      with hfail | hok
    · exact .inl ⟨rfl, hfail⟩
    · exact .inr ⟨rfl, hok⟩

/-- What a device sends in reply to some commands, one reply after the other. -/
def Device.sent (device : Device) (commands : List (List SlU8)) : List SlU8 :=
  (List.range commands.length).flatMap (device.reply commands)

/-- Behind the replies to earlier commands comes the reply to the last one. -/
theorem Device.sent_concat (device : Device) (commands : List (List SlU8)) (command : List SlU8) :
    device.sent (commands ++ [command]) =
      device.sent commands ++ device.reply (commands ++ [command]) commands.length := by
  have hold : (List.range commands.length).flatMap (device.reply (commands ++ [command])) =
      (List.range commands.length).flatMap (device.reply commands) := by
    apply List.flatMap_congr
    intro k hk
    exact reply_append device [command] (List.mem_range.mp hk)
  unfold Device.sent
  rw [List.length_append, List.length_singleton, List.range_succ, List.flatMap_append, hold,
    List.flatMap_singleton]

/-- **A serial port recovers from late replies.** However many requests of a session have failed:
if the replies to all commands so far have arrived by the flush of a request, and afterwards
nothing arrives that the device has not sent, then the request decodes the reply to its own command
if it succeeds. -/
theorem serial_request_agrees (gnuc : Bool) (path : List SlU8) (baudrate : SlS32)
    (uninitialised : Bool) (answers : ℕ → SerialAnswers) (ops : List (SessionOp Unit))
    (r : Request) (out : r.Output) (timeout : SlU32) (device : Device)
    (commands : List (List SlU8)) :
    let s := (Session.runOps (serialChannels gnuc)
      (.new gnuc path baudrate uninitialised answers) ops).driver
    let after := s.exec (serialChannels gnuc) (r.program out timeout)
    s.env.flush.tty.arrived = device.sent commands →
    after.2.env.tty.arrived <+: device.sent (commands ++ [r.frame]) →
    Finished.Agrees device (commands ++ [r.frame]) ⟨r, out, some commands.length, after.1⟩ := by
  intro s after hidle hsent hok
  refine ⟨commands.length, rfl, ?_, ?_⟩
  · rw [List.getElem?_append_right (Nat.le_refl _), Nat.sub_self]
    rfl
  · rcases SerialLine.request_outcome gnuc path baudrate uninitialised answers ops r out timeout
      with ⟨hfail, -⟩ | ⟨-, bytes, rest, harrived, hlength, hheader, hload⟩
    · change slIsFail after.1.1 = true at hfail
      change after.1.1 = slResultOk at hok
      rw [hok] at hfail
      cases hfail
    · change after.2.env.tty.arrived = s.env.flush.tty.arrived ++ (bytes ++ rest) at harrived
      rw [harrived, hidle, Device.sent_concat, List.prefix_append_right_inj] at hsent
      obtain ⟨missing, hreply⟩ := hsent
      have htake : (device.reply (commands ++ [r.frame]) commands.length).take
          (pktSizeExPayload + r.size) = bytes := by
        rw [← hreply, List.append_assoc, ← hlength, List.take_left]
      change after.1 = respond r.load
        (some ⟨(List.take _ (device.reply _ _)).length, List.take _ (device.reply _ _)⟩) out
      rw [htake, respond_of_full r (a := ⟨bytes.length, bytes⟩) hheader hlength]
      exact Prod.ext hok hload

/-- The first request times out; its reply arrives just before the flush of the second one. -/
def lateAnswers : ℕ → SerialAnswers
  | 6 => { quietAnswers with arriving := countingDevice.sent [Request.imuRaw.frame] }
  | 9 => { quietAnswers with arriving := countingDevice [[], []] }
  | _ => quietAnswers

/-- The second request is given the second reply. -/
theorem serial_request_agrees_late :
    Finished.Agrees countingDevice [Request.imuRaw.frame, Request.imuRaw.frame]
      ⟨.imuRaw, zeroImuRawData, some 1, (slResultOk, { zeroImuRawData with timestamp := 2#32 })⟩ :=
  serial_request_agrees true [] 115200 false lateAnswers
    [.connect (some ()), .request .imuRaw zeroImuRawData defaultTimeout] .imuRaw zeroImuRawData
    defaultTimeout countingDevice [Request.imuRaw.frame] (by decide +kernel) (by decide +kernel)

end Slamkit
