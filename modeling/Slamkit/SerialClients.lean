import Slamkit.LikeLink
import Slamkit.SerialRequests

/-!
# Interleaved clients on a serial port

`_sendCommand` flushes the port, so a command discards the replies that other clients wait for. A
serial port to a device that answers at once does what the link does only for clients that do not
cross: none sends while another one waits.
-/

namespace Slamkit

open Library RawSerial

variable {κ : Type} {gnuc : Bool} {device : Device}

namespace SerialLine

variable {s : SerialLine}

/-- If `::write` takes 1024 bytes, `write` on an open port is accepted whole. -/
theorem write_accepted (hopen : s.channel.rxtxSerial.port.isSerialOpened = true)
    (hwrites : s.now.writes = [.ok 1024]) {data : List SlU8} (hpos : 0 < data.length)
    (hfits : data.length ≤ 1024) : (s.write data).1.accepted = data.length := by
  rw [write_granted hopen hpos, hwrites]
  exact Nat.min_eq_left hfits

/-- `waitForData` on an open port succeeds at once if enough has arrived. -/
theorem waitForData_enough (h : s.Inv gnuc true) (hioctl : s.now.ioctlOk = true) {size : ℕ}
    (hsize : size ≤ s.received.queue.length) (timeout : SlU32) :
    (s.waitForData size timeout).1 = true ∧ (s.waitForData size timeout).2.tty = s.received := by
  have hview : s.channel.view.rxtxSerial.isSerialOpened = true := h.rxtx.opened
  have hwait : s.channel.view.waitForData size timeout s.now.arriving s.now.ioctlOk
      (s.now.rounds ++ [timeoutRound]) s.tty =
        some (true, some s.received.queue.length, s.received) := by
    unfold SerialPortChannel.waitForData waitfordata
    rw [show s.channel.view.closePending = false from h.notPending rfl, hview, hioctl]
    simp only [Bool.not_true, if_neg Bool.false_ne_true]
    rw [if_pos (show (s.tty.arrive s.now.arriving).queue.length ≥ size from hsize)]
    rfl
  unfold waitForData
  simp only
  rw [hwait]
  exact ⟨rfl, rfl⟩

end SerialLine

/-- A serial line to a device that answers at once: the commands it has received, and its reply, if
that has not arrived yet. -/
structure PromptLine where
  line : SerialLine
  commands : List (List SlU8)
  coming : List SlU8

namespace PromptLine

/-- The line before the next method: the reply arrives, and the system calls that wait and write
succeed. -/
def ahead (s : PromptLine) : SerialLine :=
  { s.line with
    answers := fun time =>
      { s.line.answers time with arriving := s.coming, ioctlOk := true, writes := [.ok 1024] } }

/-- The device after a method. It answers a command that `write` has been able to hand over. -/
def after (device : Device) (s : PromptLine) (line : SerialLine) :
    (op : ChannelOp) → op.Result → PromptLine
  | .write data, written =>
    if written.accepted = data.length then
      ⟨line, s.commands ++ [data], device (s.commands ++ [data])⟩
    else ⟨line, s.commands, []⟩
  | _, _ => ⟨line, s.commands, []⟩

end PromptLine

/-- The serial channel on such a line. -/
def promptChannels (gnuc : Bool) (device : Device) : Channels Unit PromptLine :=
  fun channel op s =>
    let r := serialChannels gnuc channel op s.ahead
    (r.1, s.after device r.2 op r.1)

namespace PromptLine

variable {s : PromptLine} {link : Link}

/-- What is ahead leaves the invariant alone. -/
theorem inv_ahead {isOpen : Bool} (h : s.line.Inv gnuc isOpen) : s.ahead.Inv gnuc isOpen :=
  ⟨h.rxtx, h.notPending⟩

/-- An open line stands for the link with the same commands. At most one reply has not been read,
and that one is coming. -/
structure StandsFor (gnuc : Bool) (device : Device) (s : PromptLine) (link : Link) : Prop where
  opened : s.line.Inv gnuc true
  commands : s.commands = link.commands
  delivered : link.commands.length ≤ link.delivered + 1
  coming : link.delivered < link.commands.length →
    s.line.tty.queue = [] ∧ s.coming = device.reply link.commands link.delivered

/-- The sending section discards what has come before, and the device answers the command. -/
theorem send_eq (h : s.line.Inv gnuc true) (device : Device) (r : Request) :
    let sent := (r.send (promptChannels gnuc device) (some ()) s).env
    sent.line.Inv gnuc true ∧ sent.line.tty.queue = [] ∧
      sent.commands = s.commands ++ [r.frame] ∧
      sent.coming = device (s.commands ++ [r.frame]) := by
  intro sent
  obtain ⟨hpos, hfits⟩ := r.frame_bounds
  let flushed : PromptLine := ⟨s.ahead.flush, s.commands, []⟩
  let cleared : PromptLine := ⟨flushed.ahead.clearReadCache, s.commands, []⟩
  have hflushed : flushed.line.Inv gnuc true :=
    @SerialLine.Inv.step gnuc true true (some ()) .flush _ (inv_ahead h) rfl
  have hcleared : cleared.line.Inv gnuc true :=
    @SerialLine.Inv.step gnuc true true (some ()) .clearReadCache _ (inv_ahead hflushed) rfl
  have hqueue : flushed.line.tty.queue = [] := (inv_ahead h).flush_queue
  have haccepted : (cleared.ahead.write r.frame).1.accepted = r.frame.length :=
    SerialLine.write_accepted hcleared.rxtx.opened rfl hpos hfits
  have hsent : sent = ⟨(cleared.ahead.write r.frame).2, s.commands ++ [r.frame],
      device (s.commands ++ [r.frame])⟩ := if_pos haccepted
  rw [hsent]
  refine ⟨(inv_ahead hcleared).write r.frame, ?_, rfl, rfl⟩
  change (flushed.line.tty.queue ++ []) ++ [] = []
  rw [hqueue]
  rfl

/-- The waiting section reads from the reply that is coming. -/
theorem await_eq (h : s.line.Inv gnuc true) (hqueue : s.line.tty.queue = []) {size : ℕ}
    (hsize : size ≤ s.coming.length) (timeout : SlU32) :
    let awaited := Slamkit.await (promptChannels gnuc device) (some ()) size timeout s
    awaited.answer = some (readReply s.coming size) ∧ awaited.env.line.Inv gnuc true ∧
      awaited.env.commands = s.commands := by
  intro awaited
  have hreceived : s.ahead.received.queue = s.coming := by
    change s.line.tty.queue ++ s.coming = s.coming
    rw [hqueue, List.nil_append]
  obtain ⟨hready, htty⟩ := SerialLine.waitForData_enough (inv_ahead h) rfl
    (show size ≤ s.ahead.received.queue.length by rwa [hreceived]) timeout
  let waited : PromptLine := ⟨(s.ahead.waitForData size timeout).2, s.commands, []⟩
  have hwaited : waited.line.Inv gnuc true :=
    @SerialLine.Inv.step gnuc true true (some ()) (.waitForData size timeout) _ (inv_ahead h) rfl
  obtain ⟨hanswer, henv⟩ := await_of_ready (promptChannels gnuc device) (some ())
    (show (promptChannels gnuc device (some ()) (.waitForData size timeout) s).1 = true from hready)
  obtain ⟨hread, -⟩ := SerialLine.read_of_open (inv_ahead hwaited).rxtx.opened size
  have hrest : waited.ahead.received.queue = s.coming := by
    change waited.line.tty.queue ++ [] = s.coming
    rw [List.append_nil, htty, hreceived]
  rw [hrest] at hread
  refine ⟨hanswer.trans (congrArg some hread), ?_, ?_⟩
  · rw [henv]
    exact (inv_ahead hwaited).read size
  · rw [henv]
    rfl

/-- **Between two commands a serial port does what the link does**, if the replies are as long as
the requests ask for: a command is sent only when no reply is due. -/
theorem serial_likeLink (gnuc : Bool) (device : Device) :
    LikeLink device (promptChannels gnuc device)
      (fun r => ∀ commands, pktSizeExPayload + r.size ≤ (device (commands ++ [r.frame])).length)
      (fun link => link.delivered = link.commands.length) (StandsFor gnuc device) where
  send := by
    intro r s link _ hsends h
    obtain ⟨hopened, hqueue, hcommands, hcoming⟩ := send_eq h.opened device r
    refine ⟨hopened, ?_, ?_, fun _ => ⟨hqueue, ?_⟩⟩
    · rw [hcommands, h.commands]
    · rw [List.length_append, hsends]
      rfl
    · rw [hcoming, h.commands, Device.reply, hsends, ← List.length_concat,
        List.concat_eq_append, List.take_length]
  await := by
    intro r s link timeout hasks h hcommand awaited
    obtain ⟨hlt, hframe⟩ := List.getElem?_eq_some_iff.mp hcommand
    obtain ⟨hqueue, hcoming⟩ := h.coming hlt
    have hlength : pktSizeExPayload + r.size ≤ s.coming.length := by
      rw [hcoming, Device.reply, ← List.take_concat_get' _ _ hlt, hframe]
      exact hasks _
    obtain ⟨hanswer, hopened, hcommands⟩ := await_eq h.opened hqueue hlength timeout
    refine ⟨?_, hopened, hcommands.trans h.commands, ?_, ?_⟩
    · rw [hanswer, hcoming]
    · have hdelivered := h.delivered
      change link.commands.length ≤ link.delivered + 1 + 1
      omega
    · intro hdue
      have hdelivered := h.delivered
      change link.delivered + 1 < link.commands.length at hdue
      omega

/-- **A command in between is not harmless.** If two clients cross, the first one to wait is given
the reply to the command of the other, if that is long enough. -/
theorem crossed_answer (h : s.line.Inv gnuc true) (first second : Request) (timeout : SlU32)
    (hlong : pktSizeExPayload + first.size ≤
      (device (s.commands ++ [first.frame] ++ [second.frame])).length) :
    let sent := (first.send (promptChannels gnuc device) (some ()) s).env
    let crossed := (second.send (promptChannels gnuc device) (some ()) sent).env
    (Slamkit.await (promptChannels gnuc device) (some ()) (pktSizeExPayload + first.size) timeout
      crossed).answer =
        some (readReply (device (s.commands ++ [first.frame] ++ [second.frame]))
          (pktSizeExPayload + first.size)) := by
  intro sent crossed
  obtain ⟨hsent, -, hcommands, -⟩ := send_eq h device first
  obtain ⟨hcrossed, hqueue, -, hcoming⟩ := send_eq hsent device second
  rw [hcommands] at hcoming
  rw [← hcoming] at hlong ⊢
  exact (await_eq hcrossed hqueue hlong timeout).1

end PromptLine

/-- A driver with a serial channel to a device. -/
def serialDriver (line : SerialLine) : DriverState Unit PromptLine :=
  ⟨none, false, ⟨line, [], []⟩, []⟩

/-- Clients before their first requests, on such a driver after `connect`. -/
def serialClients (gnuc : Bool) (device : Device) (line : SerialLine)
    (queries : κ → List Query) : ClientsOn PromptLine κ :=
  ⟨((serialDriver line).exec (promptChannels gnuc device) (connect (some ()))).2,
    fun k => makeRequests (queries k) []⟩

/-- If `connect` has succeeded, they stand for clients on the link. -/
theorem serialClients_alike {line : SerialLine} (hline : line.Inv gnuc false)
    {queries : κ → List Query}
    (hconnected : (serialClients gnuc device line queries).env.isConnected = true) :
    ClientsOn.Alike (PromptLine.StandsFor gnuc device) (serialClients gnuc device line queries)
      (Clients.start queries) := by
  have hahead : (serialDriver line).env.ahead.Inv gnuc false := PromptLine.inv_ahead hline
  have hopen := hahead.open
  unfold serialClients at hconnected ⊢
  cases hresult : ((serialDriver line).env.ahead.open gnuc).1 with
  | false =>
    rw [connect_exec_of_open_failed (promptChannels gnuc device) rfl hresult] at hconnected
    cases hconnected
  | true =>
    rw [hresult] at hopen
    let opened : PromptLine := ⟨((serialDriver line).env.ahead.open gnuc).2, [], []⟩
    have hopened : opened.ahead.Inv gnuc true := PromptLine.inv_ahead hopen
    rw [connect_exec_of_opened (promptChannels gnuc device) rfl hresult]
    refine ⟨rfl, rfl, ⟨?_, rfl, Nat.zero_le _, nofun⟩, rfl⟩
    exact @SerialLine.Inv.step gnuc true true (some ()) .flush _ hopened rfl

/-- A client takes the lock for its reply, or no client waits for one. -/
def Turns.Alone (s : Turns κ) (k : κ) : Prop := k ∈ s.waiting ∨ s.waiting = []

variable [DecidableEq κ]

/-- Clients that do not cross take turns, since at most one of them waits for its reply. -/
theorem Turns.allowed_of_alone {turns : Turns κ} {order : List κ}
    (halone : StepsMeet Turns.step Turns.Alone turns order) (hone : turns.waiting.length ≤ 1) :
    StepsMeet Turns.step (Turns.Allowed fun s => s.waiting = []) turns order := by
  refine halone.imp (P := fun s => s.waiting.length ≤ 1) (fun s k hone halone => ?_)
    (fun s k hone halone => ?_) hone
  · unfold Turns.step
    split
    · exact (List.length_erase_le ..).trans hone
    · next hidle =>
      have hnone := halone.resolve_left hidle
      dsimp only
      rw [hnone]
      exact Nat.le_refl 1
  · refine ⟨fun hmem => ?_, fun hidle => halone.resolve_left hidle⟩
    obtain ⟨only, honly⟩ := List.length_eq_one_iff.mp
      (Nat.le_antisymm hone (List.length_pos_of_mem hmem))
    rw [honly] at hmem ⊢
    rw [List.mem_singleton.mp hmem]
    rfl

/-- **Clients that do not cross are given their own replies over a serial port.** A driver has been
connected to a serial port, whatever its system calls for that have answered, whose device answers
at once and at full size, and the single steps of its clients interleave in any order. If, by the
order in which they have taken the lock, no client sent a command while another one waited for its
reply, then a client that is done has a reply to each of its queries, and each is the reply to the
command it has sent for this query. -/
theorem serial_interleaved_requests_agree (gnuc : Bool) (device : Device) (path : List SlU8)
    (baudrate : SlS32) (uninitialised : Bool) (answers : ℕ → SerialAnswers)
    (queries : κ → List Query)
    (hdevice : ∀ k, ∀ q ∈ queries k, ∀ commands,
      pktSizeExPayload + q.request.size ≤ (device (commands ++ [q.request.frame])).length)
    (hconnected : (serialClients gnuc device (.new gnuc path baudrate uninitialised answers)
      queries).env.isConnected = true) (steps : List κ) :
    let handler := DriverState.handle (promptChannels gnuc device)
    let s := steps.foldl (Interleaving.step driverLocks handler)
      (.start (serialClients gnuc device (.new gnuc path baudrate uninitialised answers) queries))
    let t := s.complete driverLocks handler
    StepsMeet Turns.step Turns.Alone ⟨[], []⟩ s.order →
      ∀ k replies, t.progs k = .done replies →
        replies.map Reply.request = (queries k).map Query.request ∧
        ∀ (j : ℕ) (reply : Reply), replies[j]? = some reply →
          reply.Own device t.env.env.commands (s.order.foldl Turns.step ⟨[], []⟩).sent k j := by
  intro handler s t halone
  have hline := SerialLine.inv_new gnuc path baudrate uninitialised answers
  have hsends : ∀ {link : Clients κ} {turns : Turns κ}, InTurns device queries link turns →
      turns.waiting = [] → link.env.env.delivered = link.env.env.commands.length := by
    intro link turns hturns hnone
    have hdrop : turns.sent.length ≤ link.env.env.delivered := by
      rw [← List.drop_eq_nil_iff, ← hturns.waiting, hnone]
    have hlength := hturns.length
    have hdelivered := hturns.delivered
    omega
  obtain ⟨link, hstands, hown⟩ := (PromptLine.serial_likeLink gnuc device).agree hdevice
    (serialClients_alike hline hconnected) hsends steps
    (Turns.allowed_of_alone halone (Nat.zero_le 1))
  have hcommands : t.env.env.commands = link.commands := hstands.commands
  rw [hcommands]
  exact hown

/-- One of two clients takes all its steps before the other one. -/
def onePort : Interleaving (DriverOp Unit) DriverOp.Result (DriverState Unit PromptLine)
    (fun _ : Bool => List Reply) :=
  (List.replicate 40 true ++ List.replicate 40 false).foldl
    (Interleaving.step driverLocks (DriverState.handle (promptChannels true countingDevice)))
    (.start (serialClients true countingDevice (.new true [] 115200 false fun _ => quietAnswers)
      oneQuery))

set_option maxRecDepth 20000 in
/-- The second client is given the second reply. -/
theorem serial_interleaved_requests_agree_one_by_one :
    let t := onePort.complete driverLocks
      (DriverState.handle (promptChannels true countingDevice))
    ClientsOn.results t false = some [slResultOk] ∧
    ∀ replies, t.progs false = .done replies →
      replies.map Reply.request = (oneQuery false).map Query.request ∧
      ∀ (j : ℕ) (reply : Reply), replies[j]? = some reply →
        reply.Own countingDevice t.env.env.commands
          (onePort.order.foldl Turns.step (⟨[], []⟩ : Turns Bool)).sent false j := by
  have hdevice : ∀ k, ∀ q ∈ oneQuery k, ∀ commands, pktSizeExPayload + q.request.size ≤
      (countingDevice (commands ++ [q.request.frame])).length := by
    intro k q hq commands
    obtain rfl := List.mem_singleton.mp hq
    simp [countingDevice, replyPacket, Request.size, pktSizeExPayload]
  have horder : onePort.order = [true, true, false, false] := by decide +kernel
  have halone : StepsMeet Turns.step Turns.Alone (⟨[], []⟩ : Turns Bool) onePort.order := by
    rw [horder]
    exact ⟨.inr rfl, .inl (by decide), .inr rfl, .inl (by decide), trivial⟩
  have hresults : ClientsOn.results (onePort.complete driverLocks
      (DriverState.handle (promptChannels true countingDevice))) false = some [slResultOk] := by
    decide +kernel
  refine ⟨hresults, ?_⟩
  unfold onePort at halone ⊢
  exact serial_interleaved_requests_agree true countingDevice [] 115200 false
    (fun _ => quietAnswers) oneQuery hdevice (by decide +kernel) _ halone false

end Slamkit
