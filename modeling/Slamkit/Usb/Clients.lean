import Slamkit.LikeLink
import Slamkit.Relay

/-!
# Interleaved clients on a USB channel

A USB channel to a device that answers at once does what a link does that loses nothing: its
receive cache is cleared when a command is sent, but the replies wait in the device.
-/

namespace Slamkit

open Library

variable {κ : Type}

/-- libusb on a link to a device that receives every command, and whose replies are there when they
are asked for. -/
def steadyLink (device : Device) : LibusbTransfers UsbLink where
  bulkTransfer size timeoutInMs e :=
    (usbLink device).bulkTransfer size timeoutInMs { e with arrivals := [true] }
  submitTransfer data e := (usbLink device).submitTransfer data { e with received := true }

/-- The oldest reply is due to a transfer of its size. -/
theorem due_steadyLink (device : Device) {e : UsbLink} (hlt : e.delivered < e.commands.length)
    {size : ℕ} (hsize : (device.reply e.commands e.delivered).length = size) :
    ({ e with arrivals := [true] } : UsbLink).due device size =
      some (device.reply e.commands e.delivered) := by
  unfold UsbLink.due
  exact if_pos ⟨rfl, hlt, hsize⟩

/-- `waitForData` stores the reply that is due. -/
theorem waitForData_steadyLink (device : Device) {size : ℕ} (hsize : size ≤ maxRxBufferSize)
    (timeout : SlU32) (c : UsbCache) {e : UsbLink} {reply : List SlU8}
    (hdue : ({ e with arrivals := [true] } : UsbLink).due device size = some reply) :
    UsbCache.waitForData (steadyLink device) size timeout c e =
      (⟨true, some size⟩, ⟨BitVec.ofNat 16 size, UsbCache.store c.rxBuffer 0 reply⟩,
        { e with delivered := e.delivered + 1, arrivals := [] }) := by
  obtain ⟨_, _, hlength⟩ := UsbLink.due_eq_some hdue
  simp [UsbCache.waitForData, steadyLink, usbLink, hdue, hlength, Nat.not_lt.mpr hsize]

/-- And `read` gives it back. -/
theorem read_store {buffer reply : List SlU8} {size : ℕ} (hlength : reply.length = size)
    (hsize : size ≤ maxRxBufferSize) :
    (UsbCache.read size ⟨BitVec.ofNat 16 size, UsbCache.store buffer 0 reply⟩).1 =
      readReply reply size := by
  have hrxSize : (BitVec.ofNat 16 size).toNat = size := by
    rw [maxRxBufferSize] at hsize
    rw [BitVec.toNat_ofNat, Nat.mod_eq_of_lt (by omega)]
  have htake := take_store buffer reply
  rw [hlength] at htake
  unfold UsbCache.read readReply
  rw [hrxSize, if_pos (Nat.le_refl size), htake, List.take_of_length_le (Nat.le_of_eq hlength),
    hlength]

/-- An open channel to the device stands for the link with the same commands and replies. -/
structure UsbObject.StandsFor (s : UsbObject UsbLink) (link : Link) : Prop where
  opened : ∃ log polls, s.channel = .opened log polls
  commands : s.env.commands = link.commands
  delivered : s.env.delivered = link.delivered

/-- **A USB channel does what the link does**, if the replies have the sizes the requests ask
for. -/
theorem usb_likeLink (device : Device) :
    LikeLink device (usbObject (steadyLink device))
      (fun r => ∀ commands, (device (commands ++ [r.frame])).length = pktSizeExPayload + r.size)
      (fun _ => True) UsbObject.StandsFor where
  send := by
    intro r s link _ _ h
    obtain ⟨log, polls, hopened⟩ := h.opened
    obtain ⟨calls, hsend⟩ := UsbObject.send_usbObject (steadyLink device) r
      (show s.channel.txLibusbTransfer = some (log.length + 4) by rw [hopened]; rfl)
    rw [hsend]
    refine ⟨⟨log, polls, hopened⟩, ?_, h.delivered⟩
    change s.env.commands ++ [r.frame] = _
    rw [h.commands]
  await := by
    intro r s link timeout hasks h hcommand awaited
    obtain ⟨-, hfits⟩ := r.size_bounds
    obtain ⟨hlt, hframe⟩ := List.getElem?_eq_some_iff.mp hcommand
    have hlength : (device.reply link.commands link.delivered).length =
        pktSizeExPayload + r.size := by
      unfold Device.reply
      rw [← List.take_concat_get' _ _ hlt, hframe]
      exact hasks _
    have hdue : ({ s.env with arrivals := [true] } : UsbLink).due device
        (pktSizeExPayload + r.size) = some (device.reply link.commands link.delivered) := by
      rw [← h.commands, ← h.delivered] at hlt hlength ⊢
      exact due_steadyLink device hlt hlength
    obtain ⟨calls, hwait⟩ := UsbObject.waitForData_cache (steadyLink device)
      (pktSizeExPayload + r.size) timeout s
    rw [waitForData_steadyLink device hfits timeout s.cache hdue] at hwait
    have hready : usbObject (steadyLink device) (some ())
        (.waitForData (pktSizeExPayload + r.size) timeout) s = _ := hwait
    obtain ⟨hanswer, henv⟩ := await_of_ready (usbObject (steadyLink device)) (some ())
      (congrArg Prod.fst hready)
    rw [hready] at hanswer henv
    unfold awaited
    rw [hanswer, henv]
    refine ⟨congrArg some (read_store hlength hfits), h.opened, h.commands, ?_⟩
    change s.env.delivered + 1 = link.delivered + 1
    rw [h.delivered]

/-- A driver with a new channel to a device. -/
def usbDriver (cache : UsbCache) (fates : ℕ → OpenFate) : DriverState Unit (UsbObject UsbLink) :=
  ⟨none, false, .new cache ⟨[], 0, false, []⟩ fates, []⟩

/-- Clients before their first requests, on such a driver after `connect`. -/
def usbClients (device : Device) (cache : UsbCache) (fates : ℕ → OpenFate)
    (queries : κ → List Query) : ClientsOn (UsbObject UsbLink) κ :=
  ⟨((usbDriver cache fates).exec (usbObject (steadyLink device)) (connect (some ()))).2,
    fun k => makeRequests (queries k) []⟩

/-- If the channel opens, they stand for clients on the link. -/
theorem usbClients_alike (device : Device) (cache : UsbCache) {fates : ℕ → OpenFate}
    (hopens : (fates 0).Succeeds) (queries : κ → List Query) :
    ClientsOn.Alike UsbObject.StandsFor (usbClients device cache fates queries)
      (Clients.start queries) := by
  have hchannel := UsbChannel.open_of_idle (s := .new) rfl hopens
  have hopen : (usbObject (steadyLink device) (some ()) .«open» (usbDriver cache fates).env).1 =
      true := congrArg Prod.fst hchannel
  have hconnect := connect_exec_of_opened (usbObject (steadyLink device))
    (s := usbDriver cache fates)
    rfl hopen
  unfold usbClients
  rw [hconnect]
  exact ⟨rfl, rfl, ⟨⟨_, _, congrArg Prod.snd hchannel⟩, rfl, rfl⟩, rfl⟩

variable [DecidableEq κ]

/-- **Interleaved clients are given their own replies over USB.** A driver has been connected to a
USB channel whose device answers at once and at full size, and the single steps of its clients
interleave in any order. If, by the order in which they have taken the lock, no client took a reply
before one that had sent its command earlier, then a client that is done has a reply to each of its
queries, and each is the reply to the command it has sent for this query. -/
theorem usb_interleaved_requests_agree (device : Device) (queries : κ → List Query)
    (hdevice : ∀ k, ∀ q ∈ queries k, ∀ commands,
      (device (commands ++ [q.request.frame])).length = pktSizeExPayload + q.request.size)
    (cache : UsbCache) {fates : ℕ → OpenFate} (hopens : (fates 0).Succeeds) (steps : List κ) :
    let handler := DriverState.handle (usbObject (steadyLink device))
    let s := steps.foldl (Interleaving.step driverLocks handler)
      (.start (usbClients device cache fates queries))
    let t := s.complete driverLocks handler
    StepsMeet Turns.step Turns.InTurn ⟨[], []⟩ s.order →
      ∀ k replies, t.progs k = .done replies →
        replies.map Reply.request = (queries k).map Query.request ∧
        ∀ (j : ℕ) (reply : Reply), replies[j]? = some reply →
          reply.Own device t.env.env.env.commands (s.order.foldl Turns.step ⟨[], []⟩).sent k j := by
  intro handler s t hturns
  have hallowed : StepsMeet Turns.step (Turns.Allowed fun _ => True) ⟨[], []⟩ s.order :=
    hturns.imp (P := fun _ => True) (fun _ _ _ _ => trivial)
      (fun _ _ _ hturn => ⟨hturn, fun _ => trivial⟩) trivial
  obtain ⟨link, hstands, hown⟩ := (usb_likeLink device).agree hdevice
    (usbClients_alike device cache hopens queries) (fun _ _ => trivial) steps hallowed
  have hcommands : t.env.env.env.commands = link.commands := hstands.commands
  rw [hcommands]
  exact hown

/-- The steps of two clients alternate. -/
def alternatingUsb : Interleaving (DriverOp Unit) DriverOp.Result
    (DriverState Unit (UsbObject UsbLink)) (fun _ : Bool => List Reply) :=
  (List.replicate 40 [true, false]).flatten.foldl
    (Interleaving.step driverLocks (DriverState.handle (usbObject (steadyLink countingDevice))))
    (.start (usbClients countingDevice ⟨0#16, []⟩ (fun _ => openFate) oneQuery))

set_option maxRecDepth 20000 in
/-- The second client is given the second reply. -/
theorem usb_interleaved_requests_agree_alternating :
    let t := alternatingUsb.complete driverLocks
      (DriverState.handle (usbObject (steadyLink countingDevice)))
    ClientsOn.results t false = some [slResultOk] ∧
    ∀ replies, t.progs false = .done replies →
      replies.map Reply.request = (oneQuery false).map Query.request ∧
      ∀ (j : ℕ) (reply : Reply), replies[j]? = some reply →
        reply.Own countingDevice t.env.env.env.commands
          (alternatingUsb.order.foldl Turns.step (⟨[], []⟩ : Turns Bool)).sent false j := by
  have hdevice : ∀ k, ∀ q ∈ oneQuery k, ∀ commands,
      (countingDevice (commands ++ [q.request.frame])).length =
        pktSizeExPayload + q.request.size := by
    intro k q hq commands
    obtain rfl := List.mem_singleton.mp hq
    simp [countingDevice, replyPacket, Request.size, pktSizeExPayload]
  have horder : alternatingUsb.order = [true, false, true, false] := by decide +kernel
  have hturns : StepsMeet Turns.step Turns.InTurn (⟨[], []⟩ : Turns Bool) alternatingUsb.order := by
    rw [horder]
    exact two_turns
  have hresults : ClientsOn.results (alternatingUsb.complete driverLocks
      (DriverState.handle (usbObject (steadyLink countingDevice)))) false = some [slResultOk] := by
    decide +kernel
  refine ⟨hresults, ?_⟩
  unfold alternatingUsb at hturns ⊢
  exact usb_interleaved_requests_agree countingDevice oneQuery hdevice ⟨0#16, []⟩
    ⟨rfl, rfl, rfl, rfl, rfl, rfl⟩ _ hturns false

end Slamkit
