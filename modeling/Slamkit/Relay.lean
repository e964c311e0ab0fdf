import Slamkit.Node
import Slamkit.Usb.Agreement
import Slamkit.Usb.Sessions

/-!
# The node as a relay

All of `main` of `node.cpp`: it connects the driver to a USB channel, runs its loop and
disconnects. Over a device that answers every command it receives in time, the whole stack of
node, driver, channel and libusb does what a simple relay does: it asks for the two samples in
turn and publishes what it is given.
-/

namespace Slamkit

open Library

variable {R τ ι : Type} [Mul R] [Div R] [IntCast R] [OfScientific R]

/-- What `main` returns, what the iterations of its loop publish, and what it logs besides. -/
structure MainResult (R τ : Type) where
  code : ℤ
  published : List (Published R τ)
  log : List String

/-- `main` from the parameter `channel_type` on: it creates the channel only for `"usb"`. -/
def mainProgram (channelType : String) (channel : ι) (frameId : String)
    (req : ReadImuProcessedRequest) (stamps : List (Stamps τ)) (s : NodeState) :
    DriverProgram ι (MainResult R τ) := do
  if channelType = "usb" then
    let opResult ← connect (some channel)
    if slIsFail opResult then
      return ⟨-1, [], ["Error, cannot connect to slamkit."]⟩
    let published ← mainLoop frameId req stamps s
    disconnect
    return ⟨0, published, ["slamkit device open ok"]⟩
  else
    return ⟨-1, [], ["Error, channel not support yet, please use usb channel."]⟩

/-- libusb on a link whose device answers in time. The list says which of the next commands the
device receives; the others are lost. -/
def promptLink (device : Device) : LibusbTransfers (UsbLink × List Bool) where
  bulkTransfer size timeoutInMs e :=
    let r := (usbLink device).bulkTransfer size timeoutInMs e.1
    (r.1, r.2, e.2)
  submitTransfer data e :=
    let r := (usbLink device).submitTransfer data
      { e.1 with received := e.2.headD false, arrivals := [true, true] }
    (r.1, r.2, e.2.tail)

/-- A device that answers the two requests of `main` by replies of the sizes they ask for. -/
structure AnswersMain (device : Device) (req : ReadImuProcessedRequest) : Prop where
  raw : ∀ commands, (device (commands ++ [Request.imuRaw.frame])).length =
    pktSizeExPayload + Request.imuRaw.size
  processed : ∀ commands,
    (device (commands ++ [(Request.imuProcessed (mainReq req)).frame])).length =
      pktSizeExPayload + (Request.imuProcessed (mainReq req)).size

/-- A relay: the commands the device has received, and which of the next ones it will. -/
structure Relay where
  commands : List (List SlU8)
  received : List Bool
  deriving DecidableEq

/-- The sample of a reply, if it has an acceptable header. -/
def Request.sample (r : Request) (reply : List SlU8) : Option r.Output :=
  if HeaderAccepted reply then some (r.load (reply.drop 4)) else none

/-- Ask for one sample. A command that is lost has none. -/
def Relay.ask (device : Device) (r : Request) (relay : Relay) : Option r.Output × Relay :=
  if relay.received.headD false then
    (r.sample (device (relay.commands ++ [r.frame])),
      ⟨relay.commands ++ [r.frame], relay.received.tail⟩)
  else (none, ⟨relay.commands, relay.received.tail⟩)

/-- The outcomes of the iterations: a raw and a processed sample in each. -/
def Relay.iterations (device : Device) (req : ReadImuProcessedRequest) :
    Relay → List (Stamps τ) → List (Iteration τ)
  | _, [] => []
  | relay, stamps :: rest =>
    let raw := relay.ask device .imuRaw
    let processed := raw.2.ask device (.imuProcessed (mainReq req))
    ⟨raw.1, processed.1, stamps⟩ :: processed.2.iterations device req rest

namespace UsbObject

variable {ε : Type}

/-- `waitForData` on the object is `waitForData` on its cache. -/
theorem waitForData_cache (usb : LibusbTransfers ε) (size : ℕ) (timeoutInMs : SlU32)
    (s : UsbObject ε) :
    let r := UsbCache.waitForData usb size timeoutInMs s.cache s.env
    ∃ calls, s.waitForData usb size timeoutInMs =
      (r.1.result, { s with cache := r.2.1, env := r.2.2, calls := calls }) := by
  intro r
  unfold r waitForData UsbCache.waitForData logged
  simp only
  split
  · exact ⟨s.calls, rfl⟩
  · split
    · exact ⟨_, rfl⟩
    · exact ⟨_, rfl⟩

/-- The sending section of a request on an open channel. -/
theorem send_usbObject (usb : LibusbTransfers ε) (r : Request) {s : UsbObject ε} {transfer : ℕ}
    (htransfer : s.channel.txLibusbTransfer = some transfer) :
    ∃ calls, (r.send (usbObject usb) (some ()) s).env =
      { s with
        cache := s.cache.clearReadCache
        env := (usb.submitTransfer r.frame s.env).2
        calls := calls } := by
  refine ⟨s.calls ++ s.submitCalls transfer (usb.submitTransfer r.frame s.env).1, ?_⟩
  unfold Request.send Slamkit.send
  simp only [usbObject, write, UsbCache.flush, htransfer]
  rfl

/-- The waiting section of a request on an open channel is that of its cache. -/
theorem await_usbObject (usb : LibusbTransfers ε) (r : Request) (timeout : SlU32)
    {s : UsbObject ε} {transfer : ℕ} (htransfer : s.channel.txLibusbTransfer = some transfer) :
    let awaited := Slamkit.await (usbDataChannel usb) (some ()) (pktSizeExPayload + r.size) timeout
      (s.cache.clearReadCache, (usb.submitTransfer r.frame s.env).2)
    ∃ calls, (r.await (usbObject usb) (some ()) timeout s).answer = awaited.answer ∧
      (r.await (usbObject usb) (some ()) timeout s).env =
        { s with cache := awaited.env.1, env := awaited.env.2, calls := calls } := by
  intro awaited
  obtain ⟨sent, hsent⟩ := send_usbObject usb r htransfer
  set object : UsbObject ε := { s with
    cache := s.cache.clearReadCache
    env := (usb.submitTransfer r.frame s.env).2
    calls := sent }
  obtain ⟨calls, hwait⟩ := waitForData_cache usb (pktSizeExPayload + r.size) timeout object
  refine ⟨calls, ?_⟩
  unfold Request.await
  rw [hsent]
  have hobject : usbObject usb (some ()) (.waitForData (pktSizeExPayload + r.size) timeout) object =
    _ := hwait
  cases hready : (usbDataChannel usb (some ()) (.waitForData (pktSizeExPayload + r.size) timeout)
      (s.cache.clearReadCache, (usb.submitTransfer r.frame s.env).2)).1 with
  | true =>
    obtain ⟨hanswer, henv⟩ := await_of_ready (usbDataChannel usb) (some ()) hready
    obtain ⟨hanswer', henv'⟩ := await_of_ready (usbObject usb) (some ())
      ((congrArg Prod.fst hobject).trans hready)
    rw [hanswer', henv', hobject]
    unfold awaited
    rw [hanswer, henv]
    exact ⟨rfl, rfl⟩
  | false =>
    obtain ⟨hanswer, henv⟩ := await_of_not_ready (usbDataChannel usb) (some ()) hready
    obtain ⟨hanswer', henv'⟩ := await_of_not_ready (usbObject usb) (some ())
      ((congrArg Prod.fst hobject).trans hready)
    rw [hanswer', henv', hobject]
    unfold awaited
    rw [hanswer, henv]
    exact ⟨rfl, rfl⟩

end UsbObject

/-- The sample of a request whose answer has the size it asks for. -/
theorem sampleOf_respond (r : Request) {a : ReadResult}
    (hfull : a.stored.length = pktSizeExPayload + r.size) (out : r.Output) :
    sampleOf (respond r.load (some a) out) = r.sample a.stored := by
  unfold Request.sample
  by_cases hheader : HeaderAccepted a.stored
  · rw [respond_of_full r hheader hfull, if_pos hheader]
    have hok : slIsFail slResultOk = false := by decide
    unfold sampleOf
    rw [hok, if_neg Bool.false_ne_true]
  · rw [if_neg hheader]
    rcases respond_cases r.load (some a) out with ⟨hfail, -⟩ | hok
    · unfold sampleOf
      rw [if_pos hfail]
    · obtain ⟨b, hb, haccepted⟩ := (respond_eq_ok_iff _ _ _).mp hok
      obtain rfl := Option.some.inj hb
      exact absurd haccepted hheader

/-- A connected driver on an open channel whose device owes nothing stands for a relay. -/
structure Relay.Represents (relay : Relay)
    (d : DriverState Unit (UsbObject (UsbLink × List Bool))) : Prop where
  connected : d.isConnected = true
  channel : d.channel = some ()
  opened : ∃ polls, d.env.channel = .opened [] polls
  commands : d.env.env.1.commands = relay.commands
  delivered : d.env.env.1.delivered = relay.commands.length
  received : d.env.env.2 = relay.received

/-- The waiting section on a prompt link is that on its link. -/
theorem await_promptLink (device : Device) (size : ℕ) (timeout : SlU32) (c : UsbCache)
    (e : UsbLink) (received : List Bool) :
    let awaited := Slamkit.await (usbDataChannel (usbLink device)) (some ()) size timeout (c, e)
    let prompt := Slamkit.await (usbDataChannel (promptLink device)) (some ()) size timeout
      (c, e, received)
    prompt.answer = awaited.answer ∧
      prompt.env.2 = ((UsbCache.waitForData (usbLink device) size timeout c e).2.2, received) := by
  intro awaited prompt
  have hwait : UsbCache.waitForData (promptLink device) size timeout c (e, received) =
      ((UsbCache.waitForData (usbLink device) size timeout c e).1,
        (UsbCache.waitForData (usbLink device) size timeout c e).2.1,
        (UsbCache.waitForData (usbLink device) size timeout c e).2.2, received) := by
    unfold UsbCache.waitForData promptLink
    simp only
    split
    · rfl
    · split
      · rfl
      · rfl
  have hprompt : usbDataChannel (promptLink device) (some ()) (.waitForData size timeout)
      (c, e, received) = _ := congrArg (fun r => (r.1.result, r.2)) hwait
  cases hready :
      (usbDataChannel (usbLink device) (some ()) (.waitForData size timeout) (c, e)).1 with
  | true =>
    obtain ⟨hanswer, -⟩ := await_of_ready (usbDataChannel (usbLink device)) (some ()) hready
    obtain ⟨hanswer', henv'⟩ := await_of_ready (usbDataChannel (promptLink device)) (some ())
      ((congrArg Prod.fst hprompt).trans hready)
    unfold prompt awaited
    rw [hanswer, hanswer', henv', hprompt]
    exact ⟨rfl, rfl⟩
  | false =>
    obtain ⟨hanswer, -⟩ := await_of_not_ready (usbDataChannel (usbLink device)) (some ()) hready
    obtain ⟨hanswer', henv'⟩ := await_of_not_ready (usbDataChannel (promptLink device)) (some ())
      ((congrArg Prod.fst hprompt).trans hready)
    unfold prompt awaited
    rw [hanswer, hanswer', henv', hprompt]
    exact ⟨rfl, rfl⟩

/-- A link that owes nothing has no reply due. -/
theorem UsbLink.due_of_settled (device : Device) {e : UsbLink}
    (hsettled : e.delivered = e.commands.length) (arrivals : List Bool) (size : ℕ) :
    ({ e with arrivals := arrivals } : UsbLink).due device size = none := by
  unfold UsbLink.due
  rw [if_neg]
  rintro ⟨-, hlt, -⟩
  change e.delivered < e.commands.length at hlt
  omega

/-- `waitForData` on a link that owes nothing delivers nothing. -/
theorem waitForData_of_settled (device : Device) (size : ℕ) (timeout : SlU32) (c : UsbCache)
    {e : UsbLink} (hsettled : e.delivered = e.commands.length) :
    ∃ arrivals, (UsbCache.waitForData (usbLink device) size timeout c e).2.2 =
      { e with arrivals := arrivals } := by
  have hbulk : ∀ (arrivals : List Bool) (size : ℕ),
      (usbLink device).bulkTransfer size timeout { e with arrivals := arrivals } =
        (⟨false, []⟩, { e with arrivals := arrivals.tail }) := by
    intro arrivals size
    unfold usbLink
    simp only [UsbLink.due_of_settled device hsettled]
  have hfirst : (usbLink device).bulkTransfer size timeout e = _ := hbulk e.arrivals size
  unfold UsbCache.waitForData
  split
  · exact ⟨e.arrivals, rfl⟩
  · simp only [hfirst, hbulk]
    split
    · exact ⟨_, rfl⟩
    · exact ⟨_, rfl⟩

/-- **One request of a relay.** The sample is that of the reply to the request's own command, and
the driver stands for the relay afterwards. -/
theorem Relay.Represents.request {device : Device} {relay : Relay}
    {d : DriverState Unit (UsbObject (UsbLink × List Bool))} (h : relay.Represents d) (r : Request)
    (hanswer : ∀ commands, (device (commands ++ [r.frame])).length = pktSizeExPayload + r.size)
    (out : r.Output) (timeout : SlU32) :
    let after := d.exec (usbObject (promptLink device)) (r.program out timeout)
    sampleOf after.1 = (relay.ask device r).1 ∧ (relay.ask device r).2.Represents after.2 := by
  intro after
  obtain ⟨polls, hopened⟩ := h.opened
  obtain ⟨hpos, hfits⟩ := r.size_bounds
  have hexec : after = _ := r.exec (usbObject (promptLink device)) h.connected out timeout
  obtain ⟨calls, hawaited, henv⟩ := UsbObject.await_usbObject (promptLink device) r timeout
    (show d.env.channel.txLibusbTransfer = some 4 by rw [hopened]; rfl)
  have hsubmit : ((promptLink device).submitTransfer r.frame d.env.env).2 =
      ({ commands := (relay.ask device r).2.commands
         delivered := relay.commands.length
         received := relay.received.headD false
         arrivals := [true, true] }, relay.received.tail) := by
    unfold promptLink usbLink Relay.ask
    simp only [h.received, h.commands, h.delivered]
    cases relay.received.headD false with
    | true => rfl
    | false => rfl
  rw [hsubmit] at hawaited henv
  set e : UsbLink := { commands := (relay.ask device r).2.commands
                       delivered := relay.commands.length
                       received := relay.received.headD false
                       arrivals := [true, true] } with he
  obtain ⟨hprompt, hlink⟩ := await_promptLink device (pktSizeExPayload + r.size) timeout
    d.env.cache.clearReadCache e relay.received.tail
  rw [h.channel, hawaited, henv, hprompt, hlink] at hexec
  cases hreceived : relay.received.headD false with
  | true =>
    have hask : relay.ask device r = (r.sample (device (relay.commands ++ [r.frame])),
        ⟨relay.commands ++ [r.frame], relay.received.tail⟩) := by
      unfold Relay.ask
      rw [if_pos hreceived]
    have hreply : device.reply (relay.commands ++ [r.frame]) relay.commands.length =
        device (relay.commands ++ [r.frame]) := by
      unfold Device.reply
      rw [List.take_of_length_le (by simp)]
    have hdue : e.due device (pktSizeExPayload + r.size) =
        some (device (relay.commands ++ [r.frame])) := by
      unfold UsbLink.due
      simp only [he, hask, hreply]
      rw [if_pos ⟨rfl, by simp, hanswer _⟩]
    obtain ⟨hfirst, -⟩ := await_of_first device (some ()) hfits timeout
      d.env.cache.clearReadCache hdue
    have hwait := waitForData_of_first device hfits timeout d.env.cache.clearReadCache hdue
    rw [hfirst, hwait] at hexec
    rw [hexec, hask]
    refine ⟨?_, h.connected, rfl, ⟨polls, hopened⟩, ?_, ?_, rfl⟩
    · have hread : readReply (device (relay.commands ++ [r.frame])) (pktSizeExPayload + r.size) =
          ⟨(device (relay.commands ++ [r.frame])).length,
            device (relay.commands ++ [r.frame])⟩ := by
        unfold readReply
        rw [List.take_of_length_le (Nat.le_of_eq (hanswer _))]
      rw [hread]
      exact sampleOf_respond r (a := ⟨_, _⟩) (hanswer _) out
    · simp only [he, hask]
    · simp only [he, List.length_append, List.length_singleton]
  | false =>
    have hask : relay.ask device r = (none, ⟨relay.commands, relay.received.tail⟩) := by
      unfold Relay.ask
      rw [if_neg (by rw [hreceived]; exact Bool.false_ne_true)]
    have hsettled : e.delivered = e.commands.length := by simp only [he, hask]
    obtain ⟨hnone, -⟩ := await_of_none device (some ()) hpos timeout d.env.cache.clearReadCache
      (UsbLink.due_of_settled device hsettled e.arrivals _)
      (UsbLink.due_of_settled device hsettled e.arrivals.tail _)
    obtain ⟨arrivals, hwait⟩ := waitForData_of_settled device (pktSizeExPayload + r.size) timeout
      d.env.cache.clearReadCache hsettled
    rw [hnone, hwait] at hexec
    rw [hexec, hask]
    refine ⟨?_, h.connected, rfl, ⟨polls, hopened⟩, ?_, rfl, rfl⟩
    · exact if_pos slIsFail_failures.1
    · simp only [he, hask]

/-- An iteration of `main` publishes what the relay is given. -/
theorem Relay.Represents.iteration {device : Device} {req : ReadImuProcessedRequest}
    (hdevice : AnswersMain device req) {relay : Relay}
    {d : DriverState Unit (UsbObject (UsbLink × List Bool))} (h : relay.Represents d)
    (frameId : String) (stamps : Stamps τ) (s : NodeState) :
    let raw := relay.ask device .imuRaw
    let processed := raw.2.ask device (.imuProcessed (mainReq req))
    let after := d.exec (usbObject (promptLink device)) (mainIteration frameId req stamps s)
    after.1 = (s.publish frameId stamps (resultOf s.imuData raw.1)
        (resultOf s.processedData processed.1) : Published R τ × NodeState) ∧
      processed.2.Represents after.2 := by
  intro raw processed after
  set channels := usbObject (promptLink device)
  obtain ⟨hraw, hnext⟩ := h.request .imuRaw hdevice.raw s.imuData defaultTimeout
  obtain ⟨hprocessed, hlast⟩ := hnext.request (.imuProcessed (mainReq req)) hdevice.processed
    s.processedData defaultTimeout
  have hexec : after = _ := mainIteration_exec (R := R) channels frameId req stamps s d
  have hheld := Request.imuRaw.output_eq_getD channels d s.imuData defaultTimeout
  have hheld' := (Request.imuProcessed (mainReq req)).output_eq_getD channels
    (d.exec channels (Request.imuRaw.program s.imuData defaultTimeout)).2 s.processedData
    defaultTimeout
  have hpublish := s.publish_eq (R := R) frameId stamps hheld hheld'
  rw [hraw, hprocessed] at hpublish
  rw [hexec]
  exact ⟨hpublish, hlast⟩

/-- The loop of `main` publishes what the relay is given. -/
theorem Relay.Represents.loop {device : Device} {req : ReadImuProcessedRequest}
    (hdevice : AnswersMain device req) {relay : Relay}
    {d : DriverState Unit (UsbObject (UsbLink × List Bool))} (h : relay.Represents d)
    (frameId : String) (stamps : List (Stamps τ)) (s : NodeState) :
    let after := d.exec (usbObject (promptLink device)) (mainLoop frameId req stamps s)
    after.1 = (s.run frameId (relay.iterations device req stamps) : List (Published R τ)) ∧
      ∃ last : Relay, last.Represents after.2 := by
  induction stamps generalizing relay s d with
  | nil => exact ⟨rfl, relay, h⟩
  | cons stamp stamps ih =>
    obtain ⟨hpublished, hnext⟩ := h.iteration (R := R) hdevice frameId stamp s
    obtain ⟨hrest, hlast⟩ := ih hnext
      (d.exec (usbObject (promptLink device)) (mainIteration (R := R) frameId req stamp s)).1.2
    have hexec : d.exec (usbObject (promptLink device))
          (mainLoop (R := R) frameId req (stamp :: stamps) s) =
        let first := d.exec (usbObject (promptLink device)) (mainIteration frameId req stamp s)
        let rest := first.2.exec (usbObject (promptLink device))
          (mainLoop frameId req stamps first.1.2)
        (first.1.1 :: rest.1, rest.2) := by
      simp only [DriverState.exec, mainLoop, Program.run_bind, Program.pure_eq_done,
        Program.run_done]
    rw [hexec]
    simp only
    refine ⟨?_, hlast⟩
    rw [hrest, hpublished]
    rfl

/-- What `main` does with a USB channel. -/
theorem mainProgram_exec {σ : Type} (channels : Channels ι σ) (channel : ι) (frameId : String)
    (req : ReadImuProcessedRequest) (stamps : List (Stamps τ)) (s : NodeState)
    (d : DriverState ι σ) :
    let connected := d.exec channels (connect (some channel))
    let looped := connected.2.exec channels (mainLoop (R := R) frameId req stamps s)
    d.exec channels (mainProgram "usb" channel frameId req stamps s) =
      if slIsFail connected.1 then
        (⟨-1, [], ["Error, cannot connect to slamkit."]⟩, connected.2)
      else (⟨0, looped.1, ["slamkit device open ok"]⟩, (looped.2.exec channels disconnect).2) := by
  intro connected looped
  unfold connected looped DriverState.exec mainProgram
  rw [if_pos rfl, Program.run_bind]
  split
  · rfl
  · simp only [Program.run_bind, Program.pure_eq_done, Program.run_done]
    rfl

/-- A USB channel before `main`, on a link whose device has received nothing. -/
def relayChannel (cache : UsbCache) (fates : ℕ → OpenFate) (received : List Bool) :
    UsbObject (UsbLink × List Bool) :=
  .new cache (⟨[], 0, false, []⟩, received) fates

/-- **The node is a relay.** If the USB channel opens, and the device answers every command it
receives in time and at its full size, then `main` publishes exactly what the relay is given,
whichever commands are lost, and closes the channel behind it. If the channel does not open, it
publishes nothing and returns -1. -/
theorem main_relays (device : Device) (req : ReadImuProcessedRequest)
    (hdevice : AnswersMain device req) (cache : UsbCache) (fates : ℕ → OpenFate)
    (received : List Bool) (frameId : String) (stamps : List (Stamps τ)) (s : NodeState) :
    let d : DriverState Unit _ := ⟨none, false, relayChannel cache fates received, []⟩
    let after := d.exec (usbObject (promptLink device))
      (mainProgram (R := R) "usb" () frameId req stamps s)
    after.1 =
      (if (fates 0).Succeeds then
        ⟨0, s.run frameId (Relay.iterations device req ⟨[], received⟩ stamps),
          ["slamkit device open ok"]⟩
      else ⟨-1, [], ["Error, cannot connect to slamkit."]⟩) ∧
    after.2.isConnected = false ∧
    ((fates 0).Succeeds → ∃ log, after.2.env.channel = .idle log) := by
  intro d after
  set channels := usbObject (promptLink device)
  by_cases hsucceeds : (fates 0).Succeeds
  · have hopen : (channels (some ()) .«open» d.env).1 = true ∧
        (channels (some ()) .«open» d.env).2.channel = .opened [] (fates 0).polls := by
      have hchannel := UsbChannel.open_of_idle (s := .new) rfl hsucceeds
      exact ⟨congrArg Prod.fst hchannel, congrArg Prod.snd hchannel⟩
    have hconnect := connect_exec_of_opened channels (s := d) rfl hopen.1
    have hrepresents : Relay.Represents ⟨[], received⟩ (d.exec channels (connect (some ()))).2 := by
      rw [hconnect]
      exact ⟨rfl, rfl, ⟨_, hopen.2⟩, rfl, rfl, rfl⟩
    obtain ⟨hloop, last, hlast⟩ := hrepresents.loop (R := R) hdevice frameId stamps s
    obtain ⟨polls, hopened⟩ := hlast.opened
    have hok : slIsFail (d.exec channels (connect (some ()))).1 = false := by
      rw [hconnect]
      exact (show slIsFail slResultOk = false by decide)
    have hmain : after = _ := mainProgram_exec (R := R) channels () frameId req stamps s d
    rw [hok, if_neg Bool.false_ne_true, hloop, disconnect_exec channels hlast.connected] at hmain
    rw [hmain, if_pos hsucceeds]
    refine ⟨rfl, rfl, fun _ => ?_⟩
    rw [hlast.channel]
    exact ⟨_, (congrArg UsbChannel.close hopened).trans (UsbChannel.close_opened [] polls)⟩
  · have hopen : (channels (some ()) .«open» d.env).1 = false :=
      (UsbChannel.open_of_failure .new hsucceeds).1
    have hconnect := connect_exec_of_open_failed channels (s := d) rfl hopen
    have hmain : after = _ := mainProgram_exec (R := R) channels () frameId req stamps s d
    rw [hconnect, if_pos slIsFail_failures.2.2] at hmain
    rw [hmain, if_neg hsucceeds]
    exact ⟨rfl, rfl, fun h => absurd h hsucceeds⟩

/-- A device whose samples have the number of commands so far as their timestamp. -/
def relayDevice : Device := fun commands =>
  if commands.getLast? = some Request.imuRaw.frame then countingDevice commands
  else replyPacket 0x50#8 42#8 0#8 2#8 (ReadImuProcessedResponse.layout.encode
    { zeroProcessedData with timestamp := BitVec.ofNat 32 commands.length }) 0#8

/-- A hint that no command carries. -/
def zeroReq : ReadImuProcessedRequest := ReadImuProcessedRequest.layout.decode []

/-- Every call of an `open` succeeds. -/
def openFate : OpenFate := ⟨true, true, true, true, true, true, 0⟩

/-- Two iterations of `main`; the last command is lost. -/
theorem main_relays_counting :
    let its := Relay.iterations relayDevice zeroReq ⟨[], [true, true, true]⟩
      [(⟨1, 1, 1⟩ : Stamps ℕ), ⟨2, 2, 2⟩]
    let d : DriverState Unit _ :=
      ⟨none, false, relayChannel zeroCache (fun _ => openFate) [true, true, true], []⟩
    let after := d.exec (usbObject (promptLink relayDevice)) (mainProgram (R := ℚ) "usb" () "imu"
      zeroReq [(⟨1, 1, 1⟩ : Stamps ℕ), ⟨2, 2, 2⟩] (.initial garbageImuData zeroProcessedData))
    its.map (fun it => (it.raw.map (·.timestamp), it.processed.map (·.timestamp))) =
        [(some 1#32, some 2#32), (some 3#32, none)] ∧
      after.1 = ⟨0, (NodeState.initial garbageImuData zeroProcessedData).run "imu" its,
        ["slamkit device open ok"]⟩ := by
  intro its d after
  have hdevice : AnswersMain relayDevice zeroReq := by
    constructor
    · intro commands
      unfold relayDevice
      rw [List.getLast?_concat, if_pos rfl]
      simp [countingDevice, replyPacket, Request.size, pktSizeExPayload]
    · intro commands
      unfold relayDevice
      rw [List.getLast?_concat, if_neg (by decide +kernel)]
      simp [replyPacket, Request.size, pktSizeExPayload]
  have hrelays := (main_relays (R := ℚ) relayDevice zeroReq hdevice zeroCache
    (fun _ => openFate) [true, true, true] "imu" [(⟨1, 1, 1⟩ : Stamps ℕ), ⟨2, 2, 2⟩]
    (.initial garbageImuData zeroProcessedData)).1
  rw [if_pos (by decide)] at hrelays
  exact ⟨by decide +kernel, hrelays⟩

end Slamkit
