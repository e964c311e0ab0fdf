import Mathlib.Logic.Function.Basic
import Slamkit.Device
import Slamkit.Library.Run

/-!
# Clients that share a driver

Several clients make requests on one connected driver. Each critical section of a
request, the sending one and the waiting one, is a single step; the steps of
different clients come in any order. The device answers every command, in order
and without loss, but a reply carries no mark of the command it belongs to.
-/

namespace Slamkit

open Library

variable {ι σ κ : Type}

/-- The operation that ends a critical section. -/
def isUnlock : DriverOp ι → Bool
  | .unlock => true
  | _ => false

/-- What is left of a request after its sending section. -/
def Request.waiting (r : Request) (out : r.Output) (timeout : SlU32) :
    DriverProgram ι (SlResult × r.Output) := do
  acquire
  let response ← waitResponse zeroBuffer r.size timeout
  release
  if r.waitFailed response.1 then return (response.1, out)
  return accept r.load response.2 out

/-- The sending section of a request of a connected driver. -/
theorem Request.runUntil_sending (r : Request) (channels : Channels ι σ) {s : DriverState ι σ}
    (hconn : s.isConnected = true) (out : r.Output) (timeout : SlU32) :
    let sent := r.send channels s.channel s.env
    (r.program out timeout).runUntil (DriverState.handle channels) isUnlock s =
      (r.waiting out timeout, { s with env := sent.env, calls := s.calls ++ sent.calls }) := by
  rw [r.program_eq, transact]
  simp [acquire, release, sendCommand, isConnected, invoke, DriverState.handle, isUnlock, hconn,
    Request.send, Slamkit.send, Request.frame]
  rw [if_neg (by decide)]
  rfl

/-- The waiting section of a request of a connected driver. -/
theorem Request.runUntil_waiting (r : Request) (channels : Channels ι σ) {s : DriverState ι σ}
    (hconn : s.isConnected = true) (out : r.Output) (timeout : SlU32) :
    let awaited := Slamkit.await channels s.channel (pktSizeExPayload + r.size) timeout s.env
    (r.waiting out timeout).runUntil (DriverState.handle channels) isUnlock s =
      (.done (respond r.load awaited.answer out),
        { s with env := awaited.env, calls := s.calls ++ awaited.calls }) := by
  obtain ⟨hok, htimeout⟩ := r.waitFailed_eq
  by_cases hready :
      (channels s.channel (.waitForData (pktSizeExPayload + r.size) timeout) s.env).1 = true
  · simp [waiting, acquire, release, waitResponse, isConnected, invoke, DriverState.handle,
      isUnlock, hconn, Slamkit.await, hready, hok, respond]
  · simp [waiting, acquire, release, waitResponse, isConnected, invoke, DriverState.handle,
      isUnlock, hconn, Slamkit.await, hready, htimeout, respond]

/-- With no other client in between, the two sections are the whole request. -/
theorem Request.exec_sections (r : Request) (channels : Channels ι σ) {s : DriverState ι σ}
    (hconn : s.isConnected = true) (out : r.Output) (timeout : SlU32) :
    let sent := r.send channels s.channel s.env
    s.exec channels (r.program out timeout) =
      ({ s with env := sent.env, calls := s.calls ++ sent.calls } : DriverState ι σ).exec channels
        (r.waiting out timeout) := by
  have h := Program.run_runUntil (DriverState.handle channels) isUnlock (r.program out timeout) s
  rw [r.runUntil_sending channels hconn] at h
  exact h.symm

/-- The channel with the device: the commands written so far, and how many of the replies
to them have been read. -/
structure Link where
  commands : List (List SlU8)
  delivered : ℕ
  deriving DecidableEq

/-- A channel that loses nothing and a device that answers at once: `read` delivers the
replies one by one in the order of the commands. -/
def linkChannel (device : Device) : Channels Unit Link
  | _, .«open», s => (true, s)
  | _, .close, s => ((), s)
  | _, .flush, s => ((), s)
  | _, .waitForData _ _, s => (decide (s.delivered < s.commands.length), s)
  | _, .write data, s => (⟨data.length, data.length⟩, { s with commands := s.commands ++ [data] })
  | _, .read size, s =>
    (readReply (device.reply s.commands s.delivered) size, { s with delivered := s.delivered + 1 })
  | _, .clearReadCache, s => ((), s)

/-- The sending section adds the frame to the commands. -/
theorem send_linkChannel (device : Device) (r : Request) (channel : Option Unit) (s : Link) :
    (r.send (linkChannel device) channel s).env =
      { s with commands := s.commands ++ [r.frame] } := rfl

/-- The waiting section takes the oldest reply that has not been read. -/
theorem await_linkChannel (device : Device) (channel : Option Unit) (size : ℕ) (timeout : SlU32)
    {s : Link} (h : s.delivered < s.commands.length) :
    let awaited := Slamkit.await (linkChannel device) channel size timeout s
    awaited.answer = some (readReply (device.reply s.commands s.delivered) size) ∧
      awaited.env = { s with delivered := s.delivered + 1 } := by
  simp [Slamkit.await, linkChannel, h]

/-- A request between its sections. `index` is the number of commands before its own. -/
structure Pending where
  request : Request
  out : request.Output
  index : ℕ
  rest : DriverProgram Unit (SlResult × request.Output)

/-- The clients `κ` on one driver. -/
structure Shared (κ : Type) where
  driver : DriverState Unit Link
  pending : κ → Option Pending
  finished : List Finished

/-- A client begins a request, or goes on with the one it has begun. -/
inductive ClientStep (κ : Type) where
  | begin (client : κ) (request : Request) (out : request.Output) (timeout : SlU32)
  | resume (client : κ)

variable [DecidableEq κ]

/-- A client runs its request to the end of the next critical section. -/
def Shared.advance (device : Device) (s : Shared κ) (client : κ) (p : Pending) : Shared κ :=
  let r := p.rest.runUntil (DriverState.handle (linkChannel device)) isUnlock s.driver
  match r.1 with
  | .done result =>
    { driver := r.2
      pending := Function.update s.pending client none
      finished := s.finished ++ [⟨p.request, p.out, some p.index, result⟩] }
  | rest => { s with
      driver := r.2
      pending := Function.update s.pending client (some { p with rest := rest }) }

/-- One step. A step that its client cannot take changes nothing. -/
def Shared.step (device : Device) (s : Shared κ) : ClientStep κ → Shared κ
  | .begin client request out timeout =>
    match s.pending client with
    | none => s.advance device client
        ⟨request, out, s.driver.env.commands.length, request.program out timeout⟩
    | some _ => s
  | .resume client =>
    match s.pending client with
    | none => s
    | some p => s.advance device client p

/-- The clients after some steps. -/
def Shared.run (device : Device) (s : Shared κ) (steps : List (ClientStep κ)) : Shared κ :=
  steps.foldl (Shared.step device) s

/-- A connected driver, with no request under way. -/
def Shared.start : Shared κ := ⟨⟨some (), true, ⟨[], 0⟩, []⟩, fun _ => none, []⟩

/-- A waiting section is entered only by the client whose command is the oldest one
without an answer. -/
def ClientStep.InOrder (s : Shared κ) : ClientStep κ → Prop
  | .begin .. => True
  | .resume client => ∀ p, s.pending client = some p → p.index = s.driver.env.delivered

/-- Every step of a run is in order. -/
def RunsInOrder (device : Device) : Shared κ → List (ClientStep κ) → Prop :=
  StepsMeet (Shared.step device) ClientStep.InOrder

/-- The state of a run in order. -/
structure SharedInv (device : Device) (s : Shared κ) : Prop where
  connected : s.driver.isConnected = true
  pending : ∀ client p, s.pending client = some p →
    s.driver.env.commands[p.index]? = some p.request.frame ∧
      ∃ timeout, p.rest = p.request.waiting p.out timeout
  finished : ∀ f ∈ s.finished, f.Agrees device s.driver.env.commands

/-- What a sending section does to the clients. -/
theorem Shared.advance_sending (device : Device) {s : Shared κ}
    (hconn : s.driver.isConnected = true) (client : κ) (request : Request) (out : request.Output)
    (index : ℕ) (timeout : SlU32) :
    ∃ calls, s.advance device client ⟨request, out, index, request.program out timeout⟩ =
      { s with
        driver := { s.driver with
          env := { s.driver.env with commands := s.driver.env.commands ++ [request.frame] }
          calls := calls }
        pending := Function.update s.pending client
          (some ⟨request, out, index, request.waiting out timeout⟩) } := by
  have hsection := request.runUntil_sending (linkChannel device) hconn out timeout
  simp only [send_linkChannel] at hsection
  simp only [Shared.advance, hsection]
  exact ⟨_, rfl⟩

/-- What a waiting section does to the clients. -/
theorem Shared.advance_waiting (device : Device) {s : Shared κ}
    (hconn : s.driver.isConnected = true)
    (hreply : s.driver.env.delivered < s.driver.env.commands.length) (client : κ)
    (request : Request) (out : request.Output) (index : ℕ) (timeout : SlU32) :
    ∃ calls, s.advance device client ⟨request, out, index, request.waiting out timeout⟩ =
      { driver := { s.driver with
          env := { s.driver.env with delivered := s.driver.env.delivered + 1 }
          calls := calls }
        pending := Function.update s.pending client none
        finished := s.finished ++ [⟨request, out, some index, respond request.load
          (some (readReply (device.reply s.driver.env.commands s.driver.env.delivered)
            (pktSizeExPayload + request.size))) out⟩] } := by
  obtain ⟨hanswer, henv⟩ := await_linkChannel device s.driver.channel
    (pktSizeExPayload + request.size) timeout hreply
  have hsection := request.runUntil_waiting (linkChannel device) hconn out timeout
  simp only [hanswer, henv] at hsection
  simp only [Shared.advance, hsection]
  exact ⟨_, rfl⟩

/-- The sending section of a request. -/
theorem SharedInv.begin {device : Device} {s : Shared κ} (h : SharedInv device s) (client : κ)
    (request : Request) (out : request.Output) (timeout : SlU32) :
    SharedInv device (s.step device (.begin client request out timeout)) := by
  cases hpending : s.pending client with
  | some p => simpa only [Shared.step, hpending] using h
  | none =>
    obtain ⟨calls, hadvance⟩ := s.advance_sending device h.connected client request out
      s.driver.env.commands.length timeout
    simp only [Shared.step, hpending, hadvance]
    constructor
    · exact h.connected
    · intro other p hp
      by_cases hother : other = client
      · subst hother
        obtain rfl : _ = p := by simpa using hp
        exact ⟨by simp, timeout, rfl⟩
      · simp only [Function.update_of_ne hother] at hp
        obtain ⟨hcommand, hrest⟩ := h.pending other p hp
        refine ⟨?_, hrest⟩
        rw [List.getElem?_append_left (List.getElem?_eq_some_iff.mp hcommand).1, hcommand]
    · exact fun f hf => (h.finished f hf).append _

/-- The waiting section of a request, in order. -/
theorem SharedInv.resume {device : Device} {s : Shared κ} (h : SharedInv device s) (client : κ)
    (horder : (ClientStep.resume client).InOrder s) :
    SharedInv device (s.step device (.resume client)) := by
  cases hpending : s.pending client with
  | none => simpa only [Shared.step, hpending] using h
  | some p =>
    obtain ⟨hcommand, timeout, hrest⟩ := h.pending client p hpending
    have hindex : p.index = s.driver.env.delivered := horder p hpending
    have hlt : s.driver.env.delivered < s.driver.env.commands.length :=
      hindex ▸ (List.getElem?_eq_some_iff.mp hcommand).1
    obtain ⟨request, out, index, rest⟩ := p
    obtain rfl : rest = request.waiting out timeout := hrest
    obtain ⟨calls, hadvance⟩ := s.advance_waiting device h.connected hlt client request out
      index timeout
    simp only [Shared.step, hpending, hadvance]
    constructor
    · exact h.connected
    · intro other p hp
      by_cases hother : other = client
      · subst hother
        simp at hp
      · simp only [Function.update_of_ne hother] at hp
        exact h.pending other p hp
    · simp only at hindex
      have hnew : Finished.Agrees device s.driver.env.commands
          ⟨request, out, some index, respond request.load
            (some (readReply (device.reply s.driver.env.commands s.driver.env.delivered)
              (pktSizeExPayload + request.size))) out⟩ :=
        fun _ => ⟨index, rfl, hcommand, by rw [← hindex]⟩
      have hall := agrees_append h.finished [] (by rwa [List.append_nil])
      rwa [List.append_nil] at hall

/-- One step, in order. -/
theorem SharedInv.step {device : Device} {s : Shared κ} (h : SharedInv device s)
    {step : ClientStep κ} (horder : step.InOrder s) : SharedInv device (s.step device step) := by
  cases step with
  | begin client request out timeout => exact h.begin client request out timeout
  | resume client => exact h.resume client horder

/-- **Replies agree with requests in every run in order.** Whatever the kinds and numbers of
requests of the clients: if every waiting section is entered by the client whose command is
the oldest one without an answer, every request returns what its own reply says. -/
theorem replies_agree_in_order (device : Device) {steps : List (ClientStep κ)}
    (horder : RunsInOrder device Shared.start steps) :
    ∀ f ∈ (Shared.start.run device steps).finished,
      f.Agrees device (Shared.start.run device steps).driver.env.commands := by
  have hstart : SharedInv device (Shared.start : Shared κ) :=
    ⟨rfl, by simp [Shared.start], by simp [Shared.start]⟩
  have hrun : SharedInv device (Shared.start.run device steps) :=
    horder.invariant (fun _ _ hs hstep => hs.step hstep) hstart
  exact hrun.finished

/-- A client's request for raw readings. -/
def beginRaw (client : Bool) : ClientStep Bool :=
  .begin client .imuRaw zeroImuRawData defaultTimeout

/-- Two clients whose requests overlap and who wait in the order they have sent. -/
theorem replies_agree_in_order_counting :
    (Shared.start.run countingDevice
        [beginRaw true, beginRaw false, .resume true, .resume false]).finished.map
      (fun f => (f.index, f.result.1)) = [(some 0, slResultOk), (some 1, slResultOk)] ∧
    ∀ f ∈ (Shared.start.run countingDevice
        [beginRaw true, beginRaw false, .resume true, .resume false]).finished,
      f.Agrees countingDevice (Shared.start.run countingDevice
        [beginRaw true, beginRaw false, .resume true, .resume false]).driver.env.commands := by
  refine ⟨rfl, replies_agree_in_order countingDevice ⟨trivial, trivial, ?_, ?_, trivial⟩⟩
  · intro p hp
    exact Option.some.inj ((congrArg (Option.map Pending.index) hp).symm.trans rfl)
  · intro p hp
    exact Option.some.inj ((congrArg (Option.map Pending.index) hp).symm.trans rfl)

/-- Two clients send, and the second one waits first: it is given the reply to the first. -/
theorem crossed_replies :
    ∃ f ∈ (Shared.start.run countingDevice
        [beginRaw true, beginRaw false, .resume false]).finished,
      ¬ f.Agrees countingDevice (Shared.start.run countingDevice
        [beginRaw true, beginRaw false, .resume false]).driver.env.commands := by
  have hfinished : (Shared.start.run countingDevice
      [beginRaw true, beginRaw false, .resume false]).finished =
      [⟨.imuRaw, zeroImuRawData, some 1,
        (slResultOk, { zeroImuRawData with timestamp := 1#32 })⟩] := by
    rfl
  rw [hfinished]
  exact ⟨_, List.mem_singleton_self _, not_agrees_of_first_reply (Nat.le_of_eq rfl)⟩

end Slamkit
