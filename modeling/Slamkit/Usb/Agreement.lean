import Slamkit.Device
import Slamkit.Library.Run
import Slamkit.Usb.Channel

/-!
# Requests and replies over USB

One client makes requests on a connected driver over a USB channel. The device
answers every command it receives, arbitrarily late, and each bulk transfer
delivers nothing or one whole reply of the length it asks for. Replies arrive in
order, but neither `flush` nor `clearReadCache` discards one that is under way.
-/

namespace Slamkit

open Library UsbCache

/-- The USB link: the commands the device has received, the number of replies delivered,
and what happens next: whether the next command is received, and whether the reply that
is due arrives in time for each of the next bulk transfers. -/
structure UsbLink where
  commands : List (List SlU8)
  delivered : ℕ
  received : Bool
  arrivals : List Bool
  deriving DecidableEq

/-- The reply that the next bulk transfer of a size delivers, if any: the oldest one that is
due, if it arrives in time and has that size. -/
def UsbLink.due (device : Device) (e : UsbLink) (size : ℕ) : Option (List SlU8) :=
  if e.arrivals.headD false = true ∧ e.delivered < e.commands.length ∧
      (device.reply e.commands e.delivered).length = size then
    some (device.reply e.commands e.delivered)
  else none

/-- libusb on a link. -/
def usbLink (device : Device) : LibusbTransfers UsbLink where
  bulkTransfer size _ e :=
    match e.due device size with
    | some reply => (⟨true, reply⟩,
        { e with delivered := e.delivered + 1, arrivals := e.arrivals.tail })
    | none => (⟨false, []⟩, { e with arrivals := e.arrivals.tail })
  submitTransfer data e :=
    if e.received = true then
      (⟨true, true, .completed, data.length⟩, { e with commands := e.commands ++ [data] })
    else (⟨true, true, .other, 0⟩, e)

/-- A driver on the USB link with the requests that have returned. -/
structure UsbRequests where
  driver : DriverState Unit (UsbCache × UsbLink)
  finished : List Finished

/-- A request and what happens on the link meanwhile: whether the device receives the
command, and whether the reply that is due arrives in time for the first and for the
second bulk transfer. -/
structure UsbStep where
  request : Request
  out : request.Output
  timeout : SlU32
  received : Bool
  first : Bool
  second : Bool

/-- The driver with the link events of a request ahead. -/
def UsbStep.prepare (step : UsbStep) (d : DriverState Unit (UsbCache × UsbLink)) :
    DriverState Unit (UsbCache × UsbLink) :=
  { d with env := (d.env.1,
      { d.env.2 with received := step.received, arrivals := [step.first, step.second] }) }

/-- Make one request. -/
def UsbStep.run (device : Device) (s : UsbRequests) (step : UsbStep) : UsbRequests :=
  let r := (step.prepare s.driver).exec (usbDataChannel (usbLink device))
    (step.request.program step.out step.timeout)
  { driver := r.2
    finished := s.finished ++ [⟨step.request, step.out,
      if step.received then some s.driver.env.2.commands.length else none, r.1⟩] }

/-- The link after the command of a request has been sent. -/
def UsbStep.sent (step : UsbStep) (e : UsbLink) : UsbLink :=
  { commands := if step.received then e.commands ++ [step.request.frame] else e.commands
    delivered := e.delivered
    received := step.received
    arrivals := [step.first, step.second] }

/-- The reply that the first bulk transfer of a request delivers, if any. -/
def UsbStep.firstReply (device : Device) (step : UsbStep) (e : UsbLink) : Option (List SlU8) :=
  (step.sent e).due device (pktSizeExPayload + step.request.size)

/-- The reply that the second bulk transfer would deliver after an empty first one. -/
def UsbStep.secondReply (device : Device) (step : UsbStep) (e : UsbLink) : Option (List SlU8) :=
  ({ step.sent e with arrivals := [step.second] }).due device
    (pktSizeExPayload + step.request.size)

/-- A reply is delivered only to the first bulk transfer of a request, and only if the device
owed none before the request. -/
def UsbStep.InOrder (device : Device) (step : UsbStep) (e : UsbLink) : Prop :=
  (step.firstReply device e ≠ none → e.delivered = e.commands.length) ∧
    (step.firstReply device e = none → step.secondReply device e = none)

/-- Every request of a run is in order. -/
def UsbRunInOrder (device : Device) : UsbRequests → List UsbStep → Prop :=
  StepsMeet (UsbStep.run device) fun s step => step.InOrder device s.driver.env.2

/-- The driver after some requests. -/
def usbRequests (device : Device) (s : UsbRequests) (steps : List UsbStep) : UsbRequests :=
  steps.foldl (UsbStep.run device) s

/-- A connected driver on a fresh link, whatever the receive buffer holds. -/
def UsbRequests.start (cache : UsbCache) : UsbRequests :=
  ⟨⟨some (), true, (cache, ⟨[], 0, false, []⟩), []⟩, []⟩

/-- A reply that is due has the size asked for and is the oldest one. -/
theorem UsbLink.due_eq_some {device : Device} {e : UsbLink} {size : ℕ} {reply : List SlU8}
    (h : e.due device size = some reply) :
    e.delivered < e.commands.length ∧ reply = device.reply e.commands e.delivered ∧
      reply.length = size := by
  rw [UsbLink.due] at h
  split at h
  · next hdue =>
    obtain rfl := Option.some.inj h
    exact ⟨hdue.2.1, rfl, hdue.2.2⟩
  · cases h

/-- Storing at the start and reading as many bytes. -/
theorem take_store (buffer bytes : List SlU8) :
    (store buffer 0 bytes).take bytes.length = bytes := by
  simp [store]

/-- The sending section of a request. -/
theorem send_usbLink (device : Device) (step : UsbStep)
    (d : DriverState Unit (UsbCache × UsbLink)) :
    (step.request.send (usbDataChannel (usbLink device)) d.channel (step.prepare d).env).env =
      (d.env.1.clearReadCache, step.sent d.env.2) := by
  cases hreceived : step.received <;>
    simp [Request.send, Slamkit.send, usbDataChannel, UsbCache.write, UsbCache.flush, usbLink,
      UsbStep.prepare, UsbStep.sent, hreceived]

/-- `waitForData` when the first transfer delivers a reply. -/
theorem waitForData_of_first (device : Device) {size : ℕ} (hsize : size ≤ maxRxBufferSize)
    (timeout : SlU32) (c : UsbCache) {e : UsbLink} {reply : List SlU8}
    (hdue : e.due device size = some reply) :
    UsbCache.waitForData (usbLink device) size timeout c e =
      (⟨true, some size⟩, ⟨BitVec.ofNat 16 size, store c.rxBuffer 0 reply⟩,
        { e with delivered := e.delivered + 1, arrivals := e.arrivals.tail }) := by
  obtain ⟨_, _, hlength⟩ := UsbLink.due_eq_some hdue
  simp [UsbCache.waitForData, usbLink, hdue, hlength, Nat.not_lt.mpr hsize]

/-- `waitForData` when neither transfer delivers a reply. -/
theorem waitForData_of_none (device : Device) {size : ℕ} (hpos : 0 < size) (timeout : SlU32)
    (c : UsbCache) {e : UsbLink} (hfirst : e.due device size = none)
    (hsecond : ({ e with arrivals := e.arrivals.tail }).due device size = none) :
    (UsbCache.waitForData (usbLink device) size timeout c e).1.result = false ∧
      (UsbCache.waitForData (usbLink device) size timeout c e).2.2.commands = e.commands := by
  by_cases hsize : size > maxRxBufferSize
  · simp [UsbCache.waitForData, hsize]
  · simp [UsbCache.waitForData, usbLink, hsize, hfirst, hsecond, hpos.ne]

/-- The waiting section when the first transfer delivers a reply: `read` returns it. -/
theorem await_of_first (device : Device) (channel : Option Unit) {size : ℕ}
    (hsize : size ≤ maxRxBufferSize) (timeout : SlU32) (c : UsbCache) {e : UsbLink}
    {reply : List SlU8} (hdue : e.due device size = some reply) :
    let awaited := Slamkit.await (usbDataChannel (usbLink device)) channel size timeout (c, e)
    awaited.answer = some (readReply reply size) ∧ awaited.env.2.commands = e.commands := by
  obtain ⟨_, _, hlength⟩ := UsbLink.due_eq_some hdue
  have hrxSize : (BitVec.ofNat 16 size).toNat = size := by
    rw [maxRxBufferSize] at hsize
    rw [BitVec.toNat_ofNat, Nat.mod_eq_of_lt (by omega)]
  have htake := take_store c.rxBuffer reply
  rw [hlength] at htake
  have hreply : readReply reply size = ⟨size, reply⟩ := by
    rw [readReply, List.take_of_length_le (by omega), hlength]
  simp [Slamkit.await, usbDataChannel, waitForData_of_first device hsize timeout c hdue,
    UsbCache.read, hrxSize, htake, hreply]

/-- The waiting section when neither transfer delivers a reply: there is nothing to read. -/
theorem await_of_none (device : Device) (channel : Option Unit) {size : ℕ} (hpos : 0 < size)
    (timeout : SlU32) (c : UsbCache) {e : UsbLink} (hfirst : e.due device size = none)
    (hsecond : ({ e with arrivals := e.arrivals.tail }).due device size = none) :
    let awaited := Slamkit.await (usbDataChannel (usbLink device)) channel size timeout (c, e)
    awaited.answer = none ∧ awaited.env.2.commands = e.commands := by
  obtain ⟨hresult, hcommands⟩ := waitForData_of_none device hpos timeout c hfirst hsecond
  simp [Slamkit.await, usbDataChannel, hresult, hcommands]

/-- Every request asks for a number of bytes that the receive buffer holds. -/
theorem Request.size_bounds (r : Request) :
    0 < pktSizeExPayload + r.size ∧ pktSizeExPayload + r.size ≤ maxRxBufferSize := by
  cases r <;> simp [Request.size, pktSizeExPayload, maxRxBufferSize]

/-- What a request does to the run: the driver stays connected, the device has received the
command or not, and the result is made from the answer of the waiting section. -/
theorem UsbStep.run_spec (device : Device) {s : UsbRequests} (hconn : s.driver.isConnected = true)
    (step : UsbStep) :
    let awaited := Slamkit.await (usbDataChannel (usbLink device)) s.driver.channel
      (pktSizeExPayload + step.request.size) step.timeout
      (s.driver.env.1.clearReadCache, step.sent s.driver.env.2)
    (step.run device s).driver.isConnected = true ∧
      (step.run device s).driver.env = awaited.env ∧
      (step.run device s).finished = s.finished ++ [⟨step.request, step.out,
        if step.received then some s.driver.env.2.commands.length else none,
        respond step.request.load awaited.answer step.out⟩] := by
  have hexec := step.request.exec (usbDataChannel (usbLink device))
    (s := step.prepare s.driver) hconn step.out step.timeout
  have hsent := send_usbLink device step s.driver
  have hchannel : (step.prepare s.driver).channel = s.driver.channel := rfl
  simp only [Request.await, hchannel, hsent] at hexec
  simp only [UsbStep.run, hexec]
  exact ⟨hconn, trivial, trivial⟩

/-- A request in order that delivers a reply delivers the reply to its own command. -/
theorem UsbStep.InOrder.own_reply {device : Device} {step : UsbStep} {e : UsbLink}
    (horder : step.InOrder device e) {reply : List SlU8}
    (hfirst : step.firstReply device e = some reply) :
    step.received = true ∧ (step.sent e).commands = e.commands ++ [step.request.frame] ∧
      reply = device.reply (step.sent e).commands e.commands.length := by
  obtain ⟨hlt, hreply, _⟩ := UsbLink.due_eq_some hfirst
  have hdelivered : e.delivered = e.commands.length := horder.1 (by simp [hfirst])
  have hreceived : step.received = true := by
    by_contra hnot
    simp [UsbStep.sent, hnot, hdelivered] at hlt
  refine ⟨hreceived, by simp [UsbStep.sent, hreceived], ?_⟩
  rw [hreply, ← hdelivered]
  rfl

/-- The state of a run in order. -/
structure UsbAgreement (device : Device) (s : UsbRequests) : Prop where
  connected : s.driver.isConnected = true
  agrees : ∀ f ∈ s.finished, f.Agrees device s.driver.env.2.commands

/-- One request in order. -/
theorem UsbAgreement.step {device : Device} {s : UsbRequests} (h : UsbAgreement device s)
    {step : UsbStep} (horder : step.InOrder device s.driver.env.2) :
    UsbAgreement device (step.run device s) := by
  obtain ⟨hconn, henv, hfinished⟩ := step.run_spec device h.connected
  obtain ⟨hpos, hfits⟩ := step.request.size_bounds
  have hlater : ∃ later, (step.sent s.driver.env.2).commands =
      s.driver.env.2.commands ++ later := by
    cases hreceived : step.received
    · exact ⟨[], by simp [UsbStep.sent, hreceived]⟩
    · exact ⟨[step.request.frame], by simp [UsbStep.sent, hreceived]⟩
  obtain ⟨later, hlater⟩ := hlater
  refine ⟨hconn, ?_⟩
  rw [henv, hfinished]
  cases hfirst : step.firstReply device s.driver.env.2 with
  | some reply =>
    obtain ⟨hreceived, hcommands, hreply⟩ := horder.own_reply hfirst
    obtain ⟨hanswer, hsame⟩ := await_of_first device s.driver.channel hfits step.timeout
      s.driver.env.1.clearReadCache hfirst
    rw [hsame, hlater]
    refine agrees_append h.agrees later fun _ => ?_
    rw [← hlater]
    refine ⟨s.driver.env.2.commands.length, by simp [hreceived], by simp [hcommands], ?_⟩
    simp only [hanswer, hreply]
  | none =>
    obtain ⟨hanswer, hsame⟩ := await_of_none device s.driver.channel hpos step.timeout
      s.driver.env.1.clearReadCache hfirst (horder.2 hfirst)
    rw [hsame, hlater]
    refine agrees_append h.agrees later fun hok => ?_
    simp only [hanswer, respond, Option.elim_none] at hok
    exact absurd hok operationTimeout_ne_ok

/-- **Replies agree with requests over USB.** In every run of requests in which a reply is
delivered only to the first bulk transfer of a request, and only when the device owed none
before it, every request that succeeds has decoded the reply to its own command. -/
theorem usb_replies_agree (device : Device) (cache : UsbCache) {steps : List UsbStep}
    (horder : UsbRunInOrder device (.start cache) steps) :
    ∀ f ∈ (usbRequests device (.start cache) steps).finished,
      f.Agrees device (usbRequests device (.start cache) steps).driver.env.2.commands := by
  have hstart : UsbAgreement device (.start cache) := ⟨rfl, by simp [UsbRequests.start]⟩
  have hrun : UsbAgreement device (usbRequests device (.start cache) steps) :=
    horder.invariant (fun _ _ hs hstep => hs.step hstep) hstart
  exact hrun.agrees

/-- A request for raw readings with the events on the link meanwhile. -/
def rawStep (received first second : Bool) : UsbStep :=
  ⟨.imuRaw, zeroImuRawData, defaultTimeout, received, first, second⟩

/-- An empty receive cache. -/
def zeroCache : UsbCache := ⟨0#16, List.replicate maxRxBufferSize 0#8⟩

/-- A request whose command is lost between two that are answered in time. -/
theorem usb_replies_agree_counting :
    (usbRequests countingDevice (.start zeroCache)
        [rawStep true true false, rawStep false false false, rawStep true true true]).finished.map
      (fun f => (f.index, f.result.1)) =
      [(some 0, slResultOk), (none, slResultOperationTimeout), (some 1, slResultOk)] ∧
    ∀ f ∈ (usbRequests countingDevice (.start zeroCache)
        [rawStep true true false, rawStep false false false, rawStep true true true]).finished,
      f.Agrees countingDevice (usbRequests countingDevice (.start zeroCache)
        [rawStep true true false, rawStep false false false,
          rawStep true true true]).driver.env.2.commands := by
  refine ⟨rfl, usb_replies_agree countingDevice zeroCache
    ⟨⟨fun _ => rfl, ?_⟩, ⟨fun _ => rfl, fun _ => rfl⟩, ⟨fun _ => rfl, ?_⟩, trivial⟩⟩
  · exact fun h => absurd h (by decide +kernel)
  · exact fun h => absurd h (by decide +kernel)

/-- The first request times out; its reply is delivered to the second one. -/
theorem late_reply_accepted :
    ∃ f ∈ (usbRequests countingDevice (.start zeroCache)
        [rawStep true false false, rawStep true true false]).finished,
      ¬ f.Agrees countingDevice (usbRequests countingDevice (.start zeroCache)
        [rawStep true false false, rawStep true true false]).driver.env.2.commands := by
  have hfinished : (usbRequests countingDevice (.start zeroCache)
      [rawStep true false false, rawStep true true false]).finished =
      [⟨.imuRaw, zeroImuRawData, some 0, (slResultOperationTimeout, zeroImuRawData)⟩,
        ⟨.imuRaw, zeroImuRawData, some 1,
          (slResultOk, { zeroImuRawData with timestamp := 1#32 })⟩] := by
    rfl
  rw [hfinished]
  exact ⟨_, List.mem_cons_of_mem _ (List.mem_singleton_self _),
    not_agrees_of_first_reply (Nat.le_of_eq rfl)⟩

end Slamkit
