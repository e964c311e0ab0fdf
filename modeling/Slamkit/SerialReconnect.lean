import Slamkit.Device
import Slamkit.SerialSessions

/-!
# Reconnecting over a serial port

A serial channel that has been closed behaves like a new one. The two are related as long as they
agree on what the methods look at: while the port is closed that is next to nothing, and `open`
makes the rest the same.
-/

namespace Slamkit

open Library RawSerial

namespace RawSerial

/-- Two ports that answer alike: the counters of the data methods are not looked at. -/
structure Alike (s t : RawSerial) : Prop where
  opened : s.isSerialOpened = t.isSerialOpened
  baudrate : s.baudrate = t.baudrate
  selfpipe : s.selfpipe = t.selfpipe

/-- Two waits have come to the same: the same answer, and the same bytes are queued. -/
inductive WaitRun.Alike : WaitRun → WaitRun → Prop
  | running : Alike .running .running
  | crashed : Alike .crashed .crashed
  | returned (ans : ℤ) (n : ℕ) {tty tty' : Tty} (hqueue : tty.queue = tty'.queue) :
    Alike (.returned ans n tty) (.returned ans n tty')

/-- The loop of `waitfordata` looks only at the bytes that are queued. -/
theorem waitLoop_alike {s t : RawSerial} (h : s.Alike t) (dataCount : ℕ)
    (rounds : List WaitRound) (inputSet : FdSet) (timeoutVal returnedSize : ℕ) {tty tty' : Tty}
    (hqueue : tty.queue = tty'.queue) :
    (waitLoop s dataCount rounds inputSet timeoutVal returnedSize tty).2.Alike
      (waitLoop t dataCount rounds inputSet timeoutVal returnedSize tty').2 := by
  induction rounds generalizing inputSet timeoutVal returnedSize tty tty' with
  | nil =>
    rw [waitLoop, waitLoop, h.opened]
    split
    · exact .returned _ _ hqueue
    · exact .running
  | cons round rounds ih =>
    rw [waitLoop, waitLoop, h.opened, h.baudrate]
    split
    · exact .returned _ _ hqueue
    · cases hselect : round.select with
      | error => exact .returned _ _ hqueue
      | timeout => exact .returned _ _ hqueue
      | ready set remaining =>
        have harrived : (tty.arrive round.arriving).queue = (tty'.arrive round.arriving).queue := by
          rw [Fifo.arrive_queue, Fifo.arrive_queue, hqueue]
        simp only [harrived]
        split
        · exact .returned _ _ hqueue
        · split
          · exact .returned _ _ harrived
          · split
            · exact .returned _ _ harrived
            · split
              · exact .crashed
              · exact ih _ _ _ harrived

/-- `waitfordata` looks only at the bytes that are queued. -/
theorem waitfordata_alike {s t : RawSerial} (h : s.Alike t) (dataCount : ℕ) (timeout : SlU32)
    (arriving : List SlU8) (ioctlOk : Bool) (rounds : List WaitRound) {tty tty' : Tty}
    (hqueue : tty.queue = tty'.queue) :
    (s.waitfordata dataCount timeout arriving ioctlOk rounds tty).2.Alike
      (t.waitfordata dataCount timeout arriving ioctlOk rounds tty').2 := by
  have harrived : (tty.arrive arriving).queue = (tty'.arrive arriving).queue := by
    rw [Fifo.arrive_queue, Fifo.arrive_queue, hqueue]
  unfold waitfordata
  simp only [h.opened, h.selfpipe, harrived]
  split
  · exact waitLoop_alike h _ _ _ _ _ hqueue
  · split
    · exact .returned _ _ harrived
    · split
      · exact .returned _ _ harrived
      · exact waitLoop_alike h _ _ _ _ _ harrived

/-- The loop of `senddata` does not look at the port. -/
theorem sendLoop_alike (data : List SlU8) (answers : List (SysResult ℕ)) (s t : RawSerial)
    (txLen : ℕ) (taken : List SlU8) :
    (sendLoop data answers s txLen taken).map (fun r => (r.1, r.2.1)) =
      (sendLoop data answers t txLen taken).map fun r => (r.1, r.2.1) := by
  induction answers generalizing s t txLen taken with
  | nil => rfl
  | cons ans answers ih =>
    cases ans with
    | error block => rfl
    | ok room =>
      unfold sendLoop
      simp only
      split
      · exact ih _ _ _ _
      · rfl

/-- `senddata` looks only at whether the port is open. -/
theorem senddata_alike {s t : RawSerial} (hopened : s.isSerialOpened = t.isSerialOpened)
    (data : List SlU8) (answers : List (SysResult ℕ)) :
    (s.senddata data answers).map (fun r => (r.returned, r.taken)) =
      (t.senddata data answers).map fun r => (r.returned, r.taken) := by
  unfold senddata
  rw [hopened]
  split
  · rfl
  · split
    · rfl
    · have hloop := sendLoop_alike data answers
        { s with isSerialOpened := t.isSerialOpened, requiredTxCnt := 0 }
        { t with requiredTxCnt := 0 } 0 []
      have hmap := congrArg
        (Option.map fun r : ℕ × List SlU8 => ((r.1 : ℤ).bmod (2 ^ 32), r.2)) hloop
      simpa only [Option.map_map, Function.comp_def] using hmap

/-- A wait on a closed port fails at once. -/
theorem waitfordata_closed {s : RawSerial} (hclosed : s.isSerialOpened = false) (dataCount : ℕ)
    (timeout : SlU32) (arriving : List SlU8) (ioctlOk : Bool) (rounds : List WaitRound)
    (tty : Tty) :
    s.waitfordata dataCount timeout arriving ioctlOk rounds tty =
      ([], .returned ansDevErr 0 tty) := by
  unfold waitfordata
  rw [hclosed]
  cases rounds <;> simp [waitLoop, hclosed]

end RawSerial

namespace SerialPort

/-- Two ports on which `open` and `close` do the same. -/
structure Alike (p q : SerialPort) : Prop where
  serialFd : p.serialFd = q.serialFd
  selfpipe : p.selfpipe = q.selfpipe
  opened : p.isSerialOpened = q.isSerialOpened

/-- `close` makes the same of both. -/
theorem Alike.close {p q : SerialPort} : p.closeLinux.Alike q.closeLinux := by
  refine ⟨?_, rfl, rfl⟩
  unfold closeLinux
  simp only [sysClose_serialFd]

/-- `open` does the same to both, if they are bound alike. -/
theorem Alike.open {p q : SerialPort} (h : p.Alike q) (hbaudrate : p.baudrate = q.baudrate)
    (gnuc : Bool) (o : OpenOutcome) :
    (p.openLinux gnuc o).1 = (q.openLinux gnuc o).1 ∧
      (p.openLinux gnuc o).2.Alike (q.openLinux gnuc o).2 ∧
      (p.openLinux gnuc o).2.baudrate = (q.openLinux gnuc o).2.baudrate := by
  have hbefore : (if p.isSerialOpened then p.closeLinux else p).Alike
        (if q.isSerialOpened then q.closeLinux else q) ∧
      (if p.isSerialOpened then p.closeLinux else p).baudrate =
        (if q.isSerialOpened then q.closeLinux else q).baudrate := by
    rw [h.opened]
    split
    · exact ⟨.close, by rw [closeLinux_baudrate, closeLinux_baudrate, hbaudrate]⟩
    · exact ⟨h, hbaudrate⟩
  unfold openLinux
  simp only
  generalize (if p.isSerialOpened then p.closeLinux else p) = p₀ at hbefore ⊢
  generalize (if q.isSerialOpened then q.closeLinux else q) = q₀ at hbefore ⊢
  obtain ⟨hbefore, hbaud⟩ := hbefore
  have hfd : (p₀.sysOpen o.fd).serialFd = (q₀.sysOpen o.fd).serialFd := rfl
  have hbaud' : (p₀.sysOpen o.fd).baudrate = (q₀.sysOpen o.fd).baudrate := hbaud
  rw [hfd, hbaud']
  split
  · exact ⟨rfl, ⟨rfl, hbefore.selfpipe, hbefore.opened⟩, hbaud⟩
  · split
    · exact ⟨rfl, .close, by rw [closeLinux_baudrate, closeLinux_baudrate, hbaud']⟩
    · split
      · exact ⟨rfl, .close, by rw [closeLinux_baudrate, closeLinux_baudrate, hbaud']⟩
      · split
        · exact ⟨rfl, .close, by rw [closeLinux_baudrate, closeLinux_baudrate, hbaud']⟩
        · refine ⟨rfl, ⟨rfl, ?_, rfl⟩, rfl⟩
          unfold sysPipe
          cases o.pipe with
          | none => exact hbefore.selfpipe
          | some pipe => rfl

/-- `open` leaves the port open exactly if it returns true. -/
theorem openLinux_opened (gnuc : Bool) (o : OpenOutcome) (s : SerialPort) :
    (s.openLinux gnuc o).2.isSerialOpened = (s.openLinux gnuc o).1 := by
  rcases s.open_cases (.linux gnuc) o with ⟨-, hopen⟩ | hopen | ⟨hmac, -⟩ | ⟨-, hopen⟩
  · change s.openLinux gnuc o = _ at hopen
    rw [hopen]
    unfold opening
    split
    · rfl
    · next hclosed =>
      change s.isSerialOpened = false
      simpa using hclosed
  · change s.openLinux gnuc o = _ at hopen
    rw [hopen]
    rfl
  · cases hmac
  · change s.openLinux gnuc o = _ at hopen
    rw [hopen]
    rfl

end SerialPort

/-- `waitForData` looks only at the bytes that are queued. -/
theorem SerialPortChannel.waitForData_alike {c d : SerialPortChannel}
    (hpending : c.closePending = d.closePending) (hview : c.rxtxSerial.Alike d.rxtxSerial)
    (size : ℕ) (timeout : SlU32) (arriving : List SlU8) (ioctlOk : Bool)
    (rounds : List WaitRound) {tty tty' : Tty} (hqueue : tty.queue = tty'.queue) :
    let r := (c.waitForData size timeout arriving ioctlOk rounds tty).getD (false, none, tty)
    let r' := (d.waitForData size timeout arriving ioctlOk rounds tty').getD (false, none, tty')
    r.1 = r'.1 ∧ r.2.2.queue = r'.2.2.queue := by
  have halike := waitfordata_alike hview size timeout arriving ioctlOk rounds hqueue
  unfold waitForData
  rw [hpending]
  split
  · exact ⟨rfl, hqueue⟩
  · generalize (c.rxtxSerial.waitfordata size timeout arriving ioctlOk rounds tty).2 = w at halike
    generalize (d.rxtxSerial.waitfordata size timeout arriving ioctlOk rounds tty').2 = w'
      at halike
    cases halike with
    | running => exact ⟨rfl, hqueue⟩
    | crashed => exact ⟨rfl, hqueue⟩
    | returned ans n hqueue' => exact ⟨rfl, hqueue'⟩

/-- `waitForData` on a closed port returns false. -/
theorem SerialPortChannel.waitForData_closed {c : SerialPortChannel}
    (hclosed : c.rxtxSerial.isSerialOpened = false) (size : ℕ) (timeout : SlU32)
    (arriving : List SlU8) (ioctlOk : Bool) (rounds : List WaitRound) (tty : Tty) :
    ((c.waitForData size timeout arriving ioctlOk rounds tty).getD (false, none, tty)).1 =
      false := by
  unfold waitForData
  rw [waitfordata_closed hclosed]
  split <;> rfl

namespace SerialLine

/-- Two channels that answer alike from now on. What is queued matters only on an open port, and
so do the baud rate of the port and a pending `close`. -/
structure Alike (s t : SerialLine) : Prop where
  port : s.channel.rxtxSerial.port.Alike t.channel.rxtxSerial.port
  device : s.channel.device = t.channel.device
  baudrate : s.channel.baudrate = t.channel.baudrate
  answers : ∀ k, s.answers (s.time + k) = t.answers (t.time + k)
  opened : s.channel.rxtxSerial.port.isSerialOpened = true →
    s.channel.closePending = t.channel.closePending ∧
    s.channel.rxtxSerial.port.baudrate = t.channel.rxtxSerial.port.baudrate ∧
    s.tty.queue = t.tty.queue

variable {s t : SerialLine}

/-- The next method finds the same answers. -/
theorem Alike.now (h : s.Alike t) : s.now = t.now := h.answers 0

/-- And so does the one after it. -/
theorem Alike.later (h : s.Alike t) (k : ℕ) :
    s.answers (s.time + 1 + k) = t.answers (t.time + 1 + k) := by
  have hnext := h.answers (1 + k)
  rwa [← Nat.add_assoc, ← Nat.add_assoc] at hnext

/-- The bytes of the next method. -/
theorem Alike.received (h : s.Alike t) (hopen : s.channel.rxtxSerial.port.isSerialOpened = true) :
    s.received.queue = t.received.queue := by
  unfold SerialLine.received
  rw [Fifo.arrive_queue, Fifo.arrive_queue, (h.opened hopen).2.2, h.now]

/-- Methods that leave the descriptors alone. -/
theorem Alike.keep (h : s.Alike t) {s' t' : SerialLine}
    (hs : s'.channel.rxtxSerial.port = s.channel.rxtxSerial.port ∧
      s'.channel.device = s.channel.device ∧ s'.channel.baudrate = s.channel.baudrate ∧
      s'.channel.closePending = s.channel.closePending ∧ s'.answers = s.answers ∧
      s'.time = s.time + 1)
    (ht : t'.channel.rxtxSerial.port = t.channel.rxtxSerial.port ∧
      t'.channel.device = t.channel.device ∧ t'.channel.baudrate = t.channel.baudrate ∧
      t'.channel.closePending = t.channel.closePending ∧ t'.answers = t.answers ∧
      t'.time = t.time + 1)
    (hqueue : s.channel.rxtxSerial.port.isSerialOpened = true → s'.tty.queue = t'.tty.queue) :
    s'.Alike t' := by
  obtain ⟨hsport, hsdevice, hsbaud, hspending, hsanswers, hstime⟩ := hs
  obtain ⟨htport, htdevice, htbaud, htpending, htanswers, httime⟩ := ht
  refine ⟨?_, ?_, ?_, ?_, ?_⟩
  · rw [hsport, htport]
    exact h.port
  · rw [hsdevice, htdevice]
    exact h.device
  · rw [hsbaud, htbaud]
    exact h.baudrate
  · intro k
    rw [hsanswers, htanswers, hstime, httime]
    exact h.later k
  · intro hopen
    rw [hsport] at hopen
    obtain ⟨hpending, hbaud, -⟩ := h.opened hopen
    rw [hspending, htpending, hsport, htport]
    exact ⟨hpending, hbaud, hqueue hopen⟩

/-- `open` discards what is queued before it returns true. -/
theorem flushes_of_open {gnuc : Bool} {o : OpenOutcome} {port : SerialPort}
    (hopen : (port.openLinux gnuc o).1 = true) :
    (o.fd.isSome && (gnuc || (termBauds.contains port.baudrate && o.tcsetattr))) = true := by
  have hbaud : (if port.isSerialOpened then port.closeLinux else port).baudrate =
      port.baudrate := by
    split
    · exact SerialPort.closeLinux_baudrate port
    · rfl
  unfold SerialPort.openLinux at hopen
  simp only [SerialPort.sysOpen, hbaud] at hopen
  cases hfd : o.fd with
  | none =>
    rw [hfd] at hopen
    cases hopen
  | some fd =>
    rw [hfd] at hopen
    have hne : ¬ (Option.elim (some fd) (-1 : ℤ) Int.ofNat) = -1 := by simp
    rw [if_neg hne] at hopen
    cases gnuc with
    | true => rfl
    | false =>
      cases hknown : termBauds.contains port.baudrate with
      | false =>
        rw [hknown] at hopen
        cases hopen
      | true =>
        cases hattr : o.tcsetattr with
        | false =>
          rw [hknown, hattr] at hopen
          cases hopen
        | true => rfl

/-- `open` answers alike. -/
theorem Alike.open (h : s.Alike t) (gnuc : Bool) :
    (s.open gnuc).1 = (t.open gnuc).1 ∧ (s.open gnuc).2.Alike (t.open gnuc).2 := by
  -- `bind` leaves the descriptors alone, and makes the baud rates of the ports the same
  have hbound : (s.channel.bind s.channel.device s.channel.baudrate).2.rxtxSerial.port.Alike
      (t.channel.bind t.channel.device t.channel.baudrate).2.rxtxSerial.port :=
    ⟨h.port.serialFd, h.port.selfpipe, h.port.opened⟩
  obtain ⟨hresult, hport, hbaud⟩ := hbound.open (congrArg Int32.toBitVec h.baudrate) gnuc
    s.now.opening
  have hs := SerialRxtx.open_port gnuc s.now.opening s.now.pipeFlags
    (s.channel.bind s.channel.device s.channel.baudrate).2.rxtxSerial
  have ht := SerialRxtx.open_port gnuc s.now.opening s.now.pipeFlags
    (t.channel.bind t.channel.device t.channel.baudrate).2.rxtxSerial
  have hflushes : (s.open gnuc).1 = true → (s.now.opening.fd.isSome &&
      (gnuc || (termBauds.contains s.channel.baudrate.toBitVec && s.now.opening.tcsetattr))) =
        true := by
    intro hopen
    have hport := hs.1.symm.trans hopen
    exact flushes_of_open hport
  rw [← hs.1, ← ht.1] at hresult
  rw [← hs.2, ← ht.2] at hport hbaud
  unfold SerialLine.open
  rw [← h.now]
  refine ⟨hresult, hport, h.device, h.baudrate, h.later, fun hopen => ⟨rfl, hbaud, ?_⟩⟩
  have htrue : (s.open gnuc).1 = true := by
    have hopened := SerialPort.openLinux_opened gnuc s.now.opening
      (s.channel.bind s.channel.device s.channel.baudrate).2.rxtxSerial.port
    rw [← hopen]
    exact hs.1.trans (hopened.symm.trans (congrArg SerialPort.isSerialOpened hs.2).symm)
  have hflushed := hflushes htrue
  simp only [← h.baudrate, hflushed, if_true]

/-- `close`. -/
theorem Alike.close (h : s.Alike t) : s.close.Alike t.close := by
  have hport : ∀ c : SerialLine,
      c.close.channel.rxtxSerial.port = c.channel.rxtxSerial.port.closeLinux := by
    intro c
    change c.channel.rxtxSerial.cancelOperation.close.port = _
    rw [SerialRxtx.close_port]
    unfold SerialRxtx.cancelOperation
    split <;> rfl
  refine ⟨?_, h.device, h.baudrate, h.later, ?_⟩
  · rw [hport, hport]
    exact .close
  · intro hopen
    rw [hport] at hopen
    cases hopen

/-- `waitForData` answers alike. -/
theorem Alike.waitForData (h : s.Alike t) (size : ℕ) (timeout : SlU32) :
    (s.waitForData size timeout).1 = (t.waitForData size timeout).1 ∧
      (s.waitForData size timeout).2.Alike (t.waitForData size timeout).2 := by
  cases hopen : s.channel.rxtxSerial.port.isSerialOpened with
  | true =>
    obtain ⟨hpending, hbaud, hqueue⟩ := h.opened hopen
    have hview : s.channel.view.rxtxSerial.Alike t.channel.view.rxtxSerial :=
      ⟨h.port.opened, hbaud, congrArg (fun pipe : ℤ × ℤ => pipe.1 != -1) h.port.selfpipe⟩
    obtain ⟨hresult, hqueue'⟩ := SerialPortChannel.waitForData_alike hpending hview size timeout
      s.now.arriving s.now.ioctlOk (s.now.rounds ++ [timeoutRound]) hqueue
    unfold SerialLine.waitForData
    rw [← h.now]
    exact ⟨hresult, h.keep ⟨rfl, rfl, rfl, rfl, rfl, rfl⟩ ⟨rfl, rfl, rfl, rfl, rfl, rfl⟩
      fun _ => hqueue'⟩
  | false =>
    have hs := SerialPortChannel.waitForData_closed (c := s.channel.view) hopen size timeout
      s.now.arriving s.now.ioctlOk (s.now.rounds ++ [timeoutRound]) s.tty
    have ht := SerialPortChannel.waitForData_closed (c := t.channel.view)
      (h.port.opened.symm.trans hopen) size timeout
      t.now.arriving t.now.ioctlOk (t.now.rounds ++ [timeoutRound]) t.tty
    refine ⟨hs.trans ht.symm, h.keep ⟨rfl, rfl, rfl, rfl, rfl, rfl⟩
      ⟨rfl, rfl, rfl, rfl, rfl, rfl⟩ fun hopen' => ?_⟩
    rw [hopen] at hopen'
    cases hopen'

/-- `write` answers alike. -/
theorem Alike.write (h : s.Alike t) (data : List SlU8) :
    (s.write data).1 = (t.write data).1 ∧ (s.write data).2.Alike (t.write data).2 := by
  have hsend := senddata_alike (s := s.channel.rxtxSerial.view) (t := t.channel.rxtxSerial.view)
    h.port.opened data (s.now.writes ++ [.error false])
  have hports : ∀ c : SerialLine, (c.write data).2.channel.rxtxSerial.port =
      c.channel.rxtxSerial.port := by
    intro c
    unfold SerialLine.write SerialRxtx.senddata
    cases c.channel.rxtxSerial.view.senddata data (c.now.writes ++ [.error false]) <;> rfl
  refine ⟨?_, h.keep ⟨hports s, rfl, rfl, rfl, rfl, rfl⟩ ⟨hports t, rfl, rfl, rfl, rfl, rfl⟩
    h.received⟩
  unfold SerialLine.write SerialRxtx.senddata
  rw [← h.now]
  cases hs : s.channel.rxtxSerial.view.senddata data (s.now.writes ++ [.error false]) with
  | none =>
    cases ht : t.channel.rxtxSerial.view.senddata data (s.now.writes ++ [.error false]) with
    | none => rfl
    | some r => rw [hs, ht] at hsend; cases hsend
  | some r =>
    cases ht : t.channel.rxtxSerial.view.senddata data (s.now.writes ++ [.error false]) with
    | none => rw [hs, ht] at hsend; cases hsend
    | some r' =>
      rw [hs, ht] at hsend
      obtain ⟨hreturned, htaken⟩ : r.returned = r'.returned ∧ r.taken = r'.taken := by
        simpa using hsend
      simp [hreturned, htaken]

/-- `read` answers alike. -/
theorem Alike.read (h : s.Alike t) (size : ℕ) :
    (s.read size).1 = (t.read size).1 ∧ (s.read size).2.Alike (t.read size).2 := by
  have hkeep := @Alike.keep s t h (s.read size).2 (t.read size).2
    ⟨rfl, rfl, rfl, rfl, rfl, rfl⟩ ⟨rfl, rfl, rfl, rfl, rfl, rfl⟩
  cases hopen : s.channel.rxtxSerial.port.isSerialOpened with
  | true =>
    have hopen' := h.port.opened.symm.trans hopen
    have hread : ∀ c : SerialLine, c.channel.rxtxSerial.port.isSerialOpened = true →
        c.channel.rxtxSerial.view.recvdata size c.received = ((c.received.take size).1,
          { c.channel.rxtxSerial.view with requiredRxCnt := (c.received.take size).1.length },
          (c.received.take size).2) := by
      intro c hc
      have hview : c.channel.rxtxSerial.view.isSerialOpened = true := hc
      unfold recvdata
      rw [if_neg (by rw [hview]; decide)]
    have hqueue := h.received hopen
    have htake : (s.received.take size).1 = (t.received.take size).1 := by
      unfold Fifo.take
      rw [hqueue]
    refine ⟨?_, hkeep fun _ => ?_⟩
    · unfold SerialLine.read SerialRxtx.recvdata
      rw [hread s hopen, hread t hopen', htake]
    · unfold SerialLine.read SerialRxtx.recvdata
      rw [hread s hopen, hread t hopen']
      unfold Fifo.take
      simp only [hqueue]
  | false =>
    have hopen' := h.port.opened.symm.trans hopen
    have hread : ∀ c : SerialLine, c.channel.rxtxSerial.port.isSerialOpened = false →
        (c.read size).1 = ⟨0, []⟩ := by
      intro c hc
      have hview : c.channel.rxtxSerial.view.isSerialOpened = false := hc
      unfold SerialLine.read SerialRxtx.recvdata recvdata
      rw [hview]
      rfl
    refine ⟨(hread s hopen).trans (hread t hopen').symm, hkeep fun hopened => ?_⟩
    rw [hopen] at hopened
    cases hopened

/-- Every method answers alike, in any order of calls. -/
theorem Alike.step (h : s.Alike t) (gnuc : Bool) (channel : Option Unit) (op : ChannelOp) :
    (serialChannels gnuc channel op s).1 = (serialChannels gnuc channel op t).1 ∧
      (serialChannels gnuc channel op s).2.Alike (serialChannels gnuc channel op t).2 := by
  cases op with
  | «open» => exact h.open gnuc
  | close => exact ⟨rfl, h.close⟩
  | flush =>
    refine ⟨rfl, h.keep ⟨rfl, rfl, rfl, rfl, rfl, rfl⟩ ⟨rfl, rfl, rfl, rfl, rfl, rfl⟩
      fun hopen => ?_⟩
    change Fifo.queue (if _ then _ else _) = Fifo.queue (if _ then _ else _)
    rw [h.port.serialFd]
    split
    · rfl
    · exact h.received hopen
  | waitForData size timeout => exact h.waitForData size timeout
  | write data => exact h.write data
  | read size => exact h.read size
  | clearReadCache =>
    exact ⟨rfl, h.keep ⟨rfl, rfl, rfl, rfl, rfl, rfl⟩ ⟨rfl, rfl, rfl, rfl, rfl, rfl⟩ h.received⟩

/-- The parameters of a channel and the answers on its line never change. -/
theorem step_fixed (gnuc : Bool) (channel : Option Unit) (op : ChannelOp) (s : SerialLine) :
    (serialChannels gnuc channel op s).2.channel.device = s.channel.device ∧
      (serialChannels gnuc channel op s).2.channel.baudrate = s.channel.baudrate ∧
      (serialChannels gnuc channel op s).2.answers = s.answers := by
  cases op <;> exact ⟨rfl, rfl, rfl⟩

/-- A closed channel is like a new one with the answers that are left. -/
theorem Inv.alike_new {gnuc : Bool} {s : SerialLine} (h : s.Inv gnuc false)
    (uninitialised : Bool) :
    s.Alike (new gnuc s.channel.device s.channel.baudrate uninitialised
      fun k => s.answers (s.time + k)) := by
  obtain ⟨hheld, hpipe⟩ := h.rxtx.owned.free h.rxtx.opened
  have hserial : s.channel.rxtxSerial.port.serialFd = -1 := by
    by_contra hfd
    have hmem := SerialRxtx.serialFd_held hfd
    rw [hheld] at hmem
    cases hmem
  refine ⟨⟨hserial, hpipe, h.rxtx.opened⟩, rfl, rfl, fun k => ?_, fun hopen => ?_⟩
  · change s.answers (s.time + k) = s.answers (s.time + (0 + k))
    rw [Nat.zero_add]
  · rw [h.rxtx.opened] at hopen
    cases hopen

end SerialLine

/-- Two drivers with the same connection, on channels that answer alike. -/
structure DriverState.Alike (s t : DriverState Unit SerialLine) : Prop where
  channel : s.channel = t.channel
  isConnected : s.isConnected = t.isConnected
  env : s.env.Alike t.env

/-- Driver code finds no difference between them. -/
theorem DriverState.Alike.exec {β : Type} {s t : DriverState Unit SerialLine} (h : s.Alike t)
    (gnuc : Bool) (p : DriverProgram Unit β) :
    (s.exec (serialChannels gnuc) p).1 = (t.exec (serialChannels gnuc) p).1 := by
  refine (Program.run_related (R := DriverState.Alike) ?_ p h).1
  intro op s t h
  cases op with
  | lock => exact ⟨rfl, h⟩
  | unlock => exact ⟨rfl, h⟩
  | loadConnected => exact ⟨h.isConnected, h⟩
  | storeConnected value => exact ⟨rfl, h.channel, rfl, h.env⟩
  | loadChannel => exact ⟨h.channel, h⟩
  | storeChannel channel => exact ⟨rfl, rfl, h.isConnected, h.env⟩
  | call channel op =>
    obtain ⟨hanswer, henv⟩ := h.env.step gnuc channel op
    exact ⟨hanswer, h.channel, h.isConnected, henv⟩

/-- `connect` makes the same of drivers without a connection. -/
theorem DriverState.connect_alike {s t : DriverState Unit SerialLine} (gnuc : Bool)
    (hs : s.isConnected = false) (ht : t.isConnected = false) (henv : s.env.Alike t.env) :
    (s.exec (serialChannels gnuc) (connect (some ()))).1 =
        (t.exec (serialChannels gnuc) (connect (some ()))).1 ∧
      (s.exec (serialChannels gnuc) (connect (some ()))).2.Alike
        (t.exec (serialChannels gnuc) (connect (some ()))).2 := by
  obtain ⟨hanswer, hopened⟩ := henv.step gnuc (some ()) .«open»
  cases hopen : (serialChannels gnuc (some ()) .«open» s.env).1 with
  | false =>
    rw [connect_exec_of_open_failed _ hs hopen,
      connect_exec_of_open_failed _ ht (hanswer.symm.trans hopen)]
    exact ⟨rfl, rfl, hs.trans ht.symm, hopened⟩
  | true =>
    rw [connect_exec_of_opened _ hs hopen, connect_exec_of_opened _ ht (hanswer.symm.trans hopen)]
    exact ⟨rfl, rfl, rfl, (hopened.step gnuc (some ()) .flush).2⟩

/-- **Reconnecting over a serial port is like connecting for the first time.** After any session
of the driver on a `SerialPortChannel` that has ended without a connection, a `connect` and
whatever driver code follows it return what they return with a new driver and a new channel, if
the system calls answer the same and the same bytes arrive from then on. -/
theorem serial_reconnect (gnuc : Bool) (device : List SlU8) (baudrate : SlS32)
    (uninitialised uninitialised' : Bool) (answers : ℕ → SerialAnswers)
    (ops : List (SessionOp Unit)) {β : Type} (p : SlResult → DriverProgram Unit β)
    (hended : (Session.runOps (serialChannels gnuc)
      (.new gnuc device baudrate uninitialised answers) ops).driver.isConnected = false) :
    let s := (Session.runOps (serialChannels gnuc)
      (.new gnuc device baudrate uninitialised answers) ops).driver
    let fresh : DriverState Unit SerialLine := ⟨none, false,
      .new gnuc device baudrate uninitialised' fun k => answers (s.env.time + k), []⟩
    (s.exec (serialChannels gnuc) (connect (some ()) >>= p)).1 =
      (fresh.exec (serialChannels gnuc) (connect (some ()) >>= p)).1 := by
  intro s fresh
  have hinv := SerialLine.inv_session gnuc
    (SerialLine.inv_new gnuc device baudrate uninitialised answers) ops
  rw [hended] at hinv
  have hfixed : s.env.channel.device = device ∧ s.env.channel.baudrate = baudrate ∧
      s.env.answers = answers := by
    refine Session.keeps (serialChannels gnuc) () (I := fun _ line =>
      line.channel.device = device ∧ line.channel.baudrate = baudrate ∧ line.answers = answers)
      ?_ ⟨rfl, rfl, rfl⟩ ops
    rintro - - channel op line ⟨hdevice, hbaudrate, hanswers⟩ -
    obtain ⟨hdevice', hbaudrate', hanswers'⟩ := SerialLine.step_fixed gnuc channel op line
    exact ⟨hdevice'.trans hdevice, hbaudrate'.trans hbaudrate, hanswers'.trans hanswers⟩
  have hnew := hinv.alike_new uninitialised'
  change s.env.Alike (.new gnuc s.env.channel.device s.env.channel.baudrate uninitialised'
    fun k => s.env.answers (s.env.time + k)) at hnew
  rw [hfixed.1, hfixed.2.1, hfixed.2.2] at hnew
  obtain ⟨hresult, halike⟩ := DriverState.connect_alike (s := s) (t := fresh) gnuc hended rfl hnew
  unfold DriverState.exec at hresult halike ⊢
  rw [Program.run_bind, Program.run_bind, hresult]
  exact halike.exec gnuc _

/-- The first reply comes when the first connection is closed, after its request has timed out; the
second one comes in time. -/
def leftoverAnswers : ℕ → SerialAnswers
  | 6 => { quietAnswers with arriving := countingDevice [[]] }
  | 12 => { quietAnswers with arriving := countingDevice [[], []] }
  | _ => quietAnswers

/-- After a session that has left a reply behind, the request of a second connection is given the
reply to its own command, as it is with a new channel. -/
theorem serial_reconnect_leftover :
    let s := (Session.runOps (serialChannels true) (.new true [] 115200 true leftoverAnswers)
      [.connect (some ()), .request .imuRaw zeroImuRawData defaultTimeout, .disconnect]).driver
    let fresh : DriverState Unit SerialLine := ⟨none, false,
      .new true [] 115200 false fun k => leftoverAnswers (s.env.time + k), []⟩
    let reread : SlResult → DriverProgram Unit (SlResult × ImuRawData) := fun _ =>
      Request.imuRaw.program zeroImuRawData defaultTimeout
    s.env.tty.queue = countingDevice [[]] ∧
    (s.exec (serialChannels true) (connect (some ()) >>= reread)).1 =
        (fresh.exec (serialChannels true) (connect (some ()) >>= reread)).1 ∧
      (fresh.exec (serialChannels true) (connect (some ()) >>= reread)).1 =
        (slResultOk, { zeroImuRawData with timestamp := 2#32 }) :=
  ⟨by decide +kernel, serial_reconnect true [] 115200 true false leftoverAnswers
    [.connect (some ()), .request .imuRaw zeroImuRawData defaultTimeout, .disconnect] _
    (by decide +kernel), by decide +kernel⟩

end Slamkit
