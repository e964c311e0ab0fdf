import Slamkit.Exchange
import Slamkit.Library.Ledger

/-!
# The libusb resources of a USB channel

`USBChannel::open` and `USBChannel::close` of `sl_usb_channel.cpp` as programs on
the members of the channel and a log of the libusb calls they make, for every
choice of success or failure of each call. The driver calls them by `connect`
and `disconnect`, and the destructor of the channel closes it once more.
-/

namespace Slamkit

open Library

/-- The libusb calls of `open`, `close` and the pipeline thread. A context, a device
handle or a transfer is named by the number of calls before the one that made it. -/
inductive LibusbCall where
  | initFailed
  | init (ctx : ℕ)
  | openDeviceFailed (ctx : Option ℕ)
  | openDevice (ctx : Option ℕ) (devHandle : ℕ)
  | setAutoDetachKernelDriver (devHandle : Option ℕ) (ok : Bool)
  | claimInterface (devHandle : Option ℕ) (ok : Bool)
  | allocTransferFailed
  | allocTransfer (transfer : ℕ)
  | handleEvents (ctx : Option ℕ)
  | freeTransfer (transfer : ℕ)
  | releaseInterface (devHandle : Option ℕ)
  | close (devHandle : Option ℕ)
  | exit (ctx : Option ℕ)
  deriving DecidableEq

/-- What libusb hands out: contexts, device handles, the claim of the interface by a
handle, and transfers. -/
inductive UsbResource where
  | context (ctx : ℕ)
  | devHandle (devHandle : ℕ)
  | claim (devHandle : ℕ)
  | transfer (transfer : ℕ)
  deriving DecidableEq

/-- What the calls do with resources. A device handle lives inside its context. -/
def libusb : Ledger LibusbCall UsbResource where
  obtained
    | .init ctx => some (.context ctx)
    | .openDevice _ h => some (.devHandle h)
    | .claimInterface (some h) true => some (.claim h)
    | .allocTransfer t => some (.transfer t)
    | _ => none
  released
    | .exit (some ctx) => some (.context ctx)
    | .close (some h) => some (.devHandle h)
    | .releaseInterface (some h) => some (.claim h)
    | .freeTransfer t => some (.transfer t)
    | _ => none
  used
    | .openDeviceFailed ctx => (ctx.map .context).toList
    | .openDevice ctx _ => (ctx.map .context).toList
    | .setAutoDetachKernelDriver h _ => (h.map .devHandle).toList
    | .claimInterface h _ => (h.map .devHandle).toList
    | .handleEvents ctx => (ctx.map .context).toList
    | .freeTransfer t => [.transfer t]
    | .releaseInterface h => (h.map .devHandle).toList
    | .close h => (h.map .devHandle).toList
    | .exit ctx => (ctx.map .context).toList
    | _ => []
  nested
    | .openDevice (some ctx) h => some (.context ctx, .devHandle h)
    | _ => none

/-- Which calls of one `open` succeed, and how often the pipeline thread polls before it
is joined. -/
structure OpenFate where
  init : Bool
  openDevice : Bool
  setAutoDetach : Bool
  claim : Bool
  allocTx : Bool
  allocRx : Bool
  polls : ℕ
  deriving DecidableEq

/-- The members of `USBChannel` that hold resources, with the log of libusb calls. -/
structure UsbChannel where
  ctx : Option ℕ
  devHandle : Option ℕ
  isInterfaceClamed : Bool
  txLibusbTransfer : Option ℕ
  rxLibusbTransfer : Option ℕ
  isPipeWorking : Bool
  log : List LibusbCall
  deriving DecidableEq

namespace UsbChannel

/-- The constructor. -/
def new : UsbChannel := ⟨none, none, false, none, none, false, []⟩

/-- Make a libusb call. -/
def call (s : UsbChannel) (c : LibusbCall) : UsbChannel := { s with log := s.log ++ [c] }

/-- `start_pipe_line`, and what the pipeline thread does until it is joined. -/
def startPipeLine (s : UsbChannel) (polls : ℕ) : UsbChannel :=
  if s.isPipeWorking then s
  else { s with
    isPipeWorking := true
    log := s.log ++ List.replicate polls (.handleEvents s.ctx) }

/-- The part of `open` that allocates the transfers. -/
def openTransfers (s : UsbChannel) (fate : OpenFate) : Bool × UsbChannel :=
  if !fate.allocTx then
    (false, ({ s.call .allocTransferFailed with txLibusbTransfer := none }).call (.exit s.ctx))
  else
    let s := { s.call (.allocTransfer s.log.length) with txLibusbTransfer := some s.log.length }
    if !fate.allocRx then
      (false, ({ s.call .allocTransferFailed with rxLibusbTransfer := none }).call (.exit s.ctx))
    else
      let s := { s.call (.allocTransfer s.log.length) with rxLibusbTransfer := some s.log.length }
      (true, s.startPipeLine fate.polls)

/-- The part of `open` that claims the interface. -/
def openInterface (s : UsbChannel) (fate : OpenFate) : Bool × UsbChannel :=
  let s := s.call (.setAutoDetachKernelDriver s.devHandle fate.setAutoDetach)
  if !fate.setAutoDetach then (false, s.call (.exit s.ctx))
  else
    let s := s.call (.claimInterface s.devHandle fate.claim)
    if !fate.claim then (false, s.call (.exit s.ctx))
    else ({ s with isInterfaceClamed := true }).openTransfers fate

/-- `open`. A failed `libusb_init` stores no context. -/
def «open» (s : UsbChannel) (fate : OpenFate) : Bool × UsbChannel :=
  if !fate.init then (false, s.call .initFailed)
  else
    let s := { s.call (.init s.log.length) with ctx := some s.log.length }
    if !fate.openDevice then
      (false, { s.call (.openDeviceFailed s.ctx) with devHandle := none })
    else
      let s := { s.call (.openDevice s.ctx s.log.length) with devHandle := some s.log.length }
      s.openInterface fate

/-- The part of `close` that joins the pipeline thread. -/
def joinPipe (s : UsbChannel) : UsbChannel := { s with isPipeWorking := false }

/-- The part of `close` that frees the transfers. -/
def freeTransfers (s : UsbChannel) : UsbChannel :=
  let s := match s.txLibusbTransfer with
    | some t => { s.call (.freeTransfer t) with txLibusbTransfer := none }
    | none => s
  match s.rxLibusbTransfer with
  | some t => { s.call (.freeTransfer t) with rxLibusbTransfer := none }
  | none => s

/-- The part of `close` that releases the interface. -/
def releaseInterface (s : UsbChannel) : UsbChannel :=
  let s := if s.isInterfaceClamed then s.call (.releaseInterface s.devHandle) else s
  { s with isInterfaceClamed := false }

/-- The part of `close` that closes the device. -/
def closeDevice (s : UsbChannel) : UsbChannel :=
  let s := if s.devHandle.isSome then (s.call (.close s.devHandle)).call (.exit s.ctx) else s
  { s with devHandle := none, ctx := none }

/-- `close`. -/
def close (s : UsbChannel) : UsbChannel :=
  s.joinPipe.freeTransfers.releaseInterface.closeDevice

end UsbChannel

/-- The channel with the fates of all its opens and the number of them so far. -/
structure UsbWorld where
  channel : UsbChannel
  fates : ℕ → OpenFate
  opens : ℕ

/-- The USB channel as seen by the driver. The data methods do not take part. -/
def usbChannel : Channels Unit UsbWorld
  | _, .«open», w =>
    let r := w.channel.open (w.fates w.opens)
    (r.1, { w with channel := r.2, opens := w.opens + 1 })
  | _, .close, w => ((), { w with channel := w.channel.close })
  | _, .flush, w => ((), w)
  | _, .waitForData _ _, w => (false, w)
  | _, .write _, w => (⟨0, 0⟩, w)
  | _, .read _, w => (⟨0, []⟩, w)
  | _, .clearReadCache, w => ((), w)

/-- The calls of a client that open and close the channel. -/
inductive UsbOp where
  | connect
  | disconnect
  deriving DecidableEq

/-- Run one call of the client. -/
def UsbOp.run (d : DriverState Unit UsbWorld) : UsbOp → DriverState Unit UsbWorld
  | .connect => (d.exec usbChannel (Slamkit.connect (some ()))).2
  | .disconnect => (d.exec usbChannel Slamkit.disconnect).2

/-- The driver after some calls of the client. -/
def usbRun (fates : ℕ → OpenFate) (ops : List UsbOp) : DriverState Unit UsbWorld :=
  ops.foldl UsbOp.run ⟨none, false, ⟨.new, fates, 0⟩, []⟩

/-- The channel at the very end: the destructor of the driver disconnects, and the
destructor of the channel closes it. -/
def usbEnd (fates : ℕ → OpenFate) (ops : List UsbOp) : UsbChannel :=
  (UsbOp.run (usbRun fates ops) .disconnect).env.channel.close

namespace UsbChannel

/-- The calls of an `open` that succeeds, as the `n`-th and following calls. -/
def openCalls (n polls : ℕ) : List LibusbCall :=
  [.init n, .openDevice (some n) (n + 1), .setAutoDetachKernelDriver (some (n + 1)) true,
    .claimInterface (some (n + 1)) true, .allocTransfer (n + 4), .allocTransfer (n + 5)] ++
  List.replicate polls (.handleEvents (some n))

/-- The calls of the `close` after it. -/
def closeCalls (n : ℕ) : List LibusbCall :=
  [.freeTransfer (n + 4), .freeTransfer (n + 5), .releaseInterface (some (n + 1)),
    .close (some (n + 1)), .exit (some n)]

/-- A channel without resources, after some calls. -/
def idle (log : List LibusbCall) : UsbChannel := { new with log := log }

/-- A channel opened with success after some calls. -/
def opened (log : List LibusbCall) (polls : ℕ) : UsbChannel where
  ctx := some log.length
  devHandle := some (log.length + 1)
  isInterfaceClamed := true
  txLibusbTransfer := some (log.length + 4)
  rxLibusbTransfer := some (log.length + 5)
  isPipeWorking := true
  log := log ++ openCalls log.length polls

end UsbChannel

/-- Every call after `libusb_init` succeeds. -/
def OpenFate.Succeeds (fate : OpenFate) : Prop :=
  fate.init = true ∧ fate.openDevice = true ∧ fate.setAutoDetach = true ∧ fate.claim = true ∧
    fate.allocTx = true ∧ fate.allocRx = true

instance (fate : OpenFate) : Decidable fate.Succeeds := inferInstanceAs (Decidable (_ ∧ _))

/-- An open that leaves nothing half done: `libusb_init` fails, or nothing does. -/
def OpenFate.Clean (fate : OpenFate) : Prop := fate.init = false ∨ fate.Succeeds

instance (fate : OpenFate) : Decidable fate.Clean := inferInstanceAs (Decidable (_ ∨ _))

namespace UsbChannel

@[simp] theorem call_log (s : UsbChannel) (c : LibusbCall) : (s.call c).log = s.log ++ [c] := rfl

/-- An `open` whose `libusb_init` fails. -/
theorem open_of_init_failed (s : UsbChannel) {fate : OpenFate} (h : fate.init = false) :
    s.open fate = (false, s.call .initFailed) := by
  simp [«open», h]

/-- An `open` of an idle channel that succeeds. -/
theorem open_of_succeeds (log : List LibusbCall) {fate : OpenFate} (h : fate.Succeeds) :
    (idle log).open fate = (true, opened log fate.polls) := by
  obtain ⟨hinit, hdevice, hdetach, hclaim, htx, hrx⟩ := h
  simp [«open», openInterface, openTransfers, startPipeLine, call, idle, new, opened, openCalls,
    hinit, hdevice, hdetach, hclaim, htx, hrx]

/-- An `open` that finds no device leaves its context behind. -/
theorem open_of_no_device (s : UsbChannel) {fate : OpenFate} (hinit : fate.init = true)
    (hdevice : fate.openDevice = false) :
    s.open fate = (false, { s with
      ctx := some s.log.length
      devHandle := none
      log := s.log ++ [.init s.log.length, .openDeviceFailed (some s.log.length)] }) := by
  simp [«open», call, hinit, hdevice]

/-- An `open` that fails after the device was opened exits the context and does not close
the device. -/
theorem open_of_late_failure (s : UsbChannel) {fate : OpenFate} (hinit : fate.init = true)
    (hdevice : fate.openDevice = true) (hfail : ¬ fate.Succeeds) :
    (s.open fate).1 = false ∧ (s.open fate).2.ctx = some s.log.length ∧ ∃ calls,
      (∀ e ∈ calls, libusb.released e = none) ∧
      (s.open fate).2.log = s.log ++ ([.init s.log.length,
        .openDevice (some s.log.length) (s.log.length + 1)] ++ calls ++
          [.exit (some s.log.length)]) := by
  -- the exits of `open` after the device was opened, in the order of the source
  cases hdetach : fate.setAutoDetach with
  | false =>
    refine ⟨?_, ?_, [.setAutoDetachKernelDriver (some (s.log.length + 1)) false], ?_, ?_⟩ <;>
      simp [«open», openInterface, call, libusb, hinit, hdevice, hdetach]
  | true =>
    cases hclaim : fate.claim with
    | false =>
      refine ⟨?_, ?_, [.setAutoDetachKernelDriver (some (s.log.length + 1)) true,
        .claimInterface (some (s.log.length + 1)) false], ?_, ?_⟩ <;>
        simp [«open», openInterface, call, libusb, hinit, hdevice, hdetach, hclaim]
    | true =>
      cases htx : fate.allocTx with
      | false =>
        refine ⟨?_, ?_, [.setAutoDetachKernelDriver (some (s.log.length + 1)) true,
          .claimInterface (some (s.log.length + 1)) true, .allocTransferFailed], ?_, ?_⟩ <;>
          simp [«open», openInterface, openTransfers, call, libusb, hinit, hdevice, hdetach, hclaim,
            htx]
      | true =>
        have hrx : fate.allocRx = false := by
          cases hrx : fate.allocRx with
          | false => rfl
          | true => exact absurd ⟨hinit, hdevice, hdetach, hclaim, htx, hrx⟩ hfail
        refine ⟨?_, ?_, [.setAutoDetachKernelDriver (some (s.log.length + 1)) true,
          .claimInterface (some (s.log.length + 1)) true, .allocTransfer (s.log.length + 4),
          .allocTransferFailed], ?_, ?_⟩ <;>
          simp [«open», openInterface, openTransfers, call, libusb, hinit, hdevice, hdetach, hclaim,
            htx, hrx]

/-- Every `open` extends the log; the only context it exits is its own, and a channel that
keeps its old context keeps its device as well. -/
theorem open_log (s : UsbChannel) (fate : OpenFate) :
    ∃ calls, (s.open fate).2.log = s.log ++ calls ∧
      (∀ e ∈ calls, ∀ ctx, libusb.released e = some (.context ctx) → ctx = s.log.length) ∧
      ((s.open fate).2.ctx = some s.log.length ∨
        (s.open fate).2.ctx = s.ctx ∧ (s.open fate).2.devHandle = s.devHandle) := by
  cases hinit : fate.init with
  | false =>
    rw [open_of_init_failed s hinit]
    exact ⟨[.initFailed], rfl, by simp [libusb], .inr ⟨rfl, rfl⟩⟩
  | true =>
    cases hdevice : fate.openDevice with
    | false =>
      rw [open_of_no_device s hinit hdevice]
      exact ⟨_, rfl, by simp [libusb], .inl rfl⟩
    | true =>
      by_cases hsucceeds : fate.Succeeds
      · obtain ⟨_, _, hdetach, hclaim, htx, hrx⟩ := hsucceeds
        by_cases hpipe : s.isPipeWorking = true
        · refine ⟨openCalls s.log.length 0, ?_, ?_, .inl ?_⟩ <;>
            simp [«open», openInterface, openTransfers, startPipeLine, call, openCalls, libusb,
              hinit, hdevice, hdetach, hclaim, htx, hrx, hpipe]
        · refine ⟨openCalls s.log.length fate.polls, ?_, ?_, .inl ?_⟩ <;>
            simp [«open», openInterface, openTransfers, startPipeLine, call, openCalls, libusb,
              hinit, hdevice, hdetach, hclaim, htx, hrx, hpipe]
      · obtain ⟨_, hctx, calls, hcalls, hlog⟩ := s.open_of_late_failure hinit hdevice hsucceeds
        refine ⟨_, hlog, ?_, .inl hctx⟩
        intro e he ctx hrel
        rcases List.mem_append.mp he with he | he
        · rcases List.mem_append.mp he with he | he
          · rcases List.mem_pair.mp he with rfl | rfl <;> simp [libusb] at hrel
          · simp [hcalls e he] at hrel
        · obtain rfl : e = .exit (some s.log.length) := by simpa using he
          simpa [libusb] using hrel.symm

/-- What freeing the transfers adds to the log. -/
theorem freeTransfers_log (s : UsbChannel) :
    s.freeTransfers.log = s.log ++ (s.txLibusbTransfer.toList.map .freeTransfer ++
        s.rxLibusbTransfer.toList.map .freeTransfer) ∧
      s.freeTransfers.ctx = s.ctx ∧ s.freeTransfers.devHandle = s.devHandle := by
  obtain ⟨ctx, devHandle, clamed, tx, rx, working, log⟩ := s
  cases tx <;> cases rx <;> simp [freeTransfers, call]

/-- What releasing the interface adds to the log. -/
theorem releaseInterface_log (s : UsbChannel) :
    s.releaseInterface.log = s.log ++
        (if s.isInterfaceClamed then [.releaseInterface s.devHandle] else []) ∧
      s.releaseInterface.ctx = s.ctx ∧ s.releaseInterface.devHandle = s.devHandle := by
  cases hclamed : s.isInterfaceClamed <;> simp [releaseInterface, call, hclamed]

/-- `close` extends the log and forgets the context; it exits that context only if the
channel has a device. -/
theorem close_log (s : UsbChannel) :
    ∃ calls, s.close.log = s.log ++ calls ∧
      (∀ e ∈ calls, ∀ ctx, libusb.released e = some (.context ctx) →
        s.ctx = some ctx ∧ s.devHandle ≠ none) ∧
      s.close.ctx = none := by
  obtain ⟨hfreed, hctx, hdevice⟩ := s.joinPipe.freeTransfers_log
  obtain ⟨hreleased, hctx', hdevice'⟩ := s.joinPipe.freeTransfers.releaseInterface_log
  rw [hctx] at hctx'
  rw [hdevice] at hdevice'
  have hclose : s.close.log = s.joinPipe.freeTransfers.releaseInterface.log ++
      (if s.devHandle.isSome then [.close s.devHandle, .exit s.ctx] else []) := by
    simp only [close, closeDevice, hctx', hdevice']
    by_cases h : s.devHandle.isSome = true
    · simp [joinPipe, h]
    · simp [joinPipe, h]
  rw [hreleased, hfreed, List.append_assoc, List.append_assoc] at hclose
  refine ⟨_, hclose, ?_, rfl⟩
  intro e he ctx hrel
  simp only [List.mem_append, List.mem_map, Option.mem_toList] at he
  rcases he with (⟨t, _, rfl⟩ | ⟨t, _, rfl⟩) | he | he
  · simp [libusb] at hrel
  · simp [libusb] at hrel
  · split at he
    · obtain rfl := List.mem_singleton.mp he
      cases hdev : s.joinPipe.freeTransfers.devHandle <;> simp [libusb, hdev] at hrel
    · cases he
  · split at he
    · next hsome =>
      rcases List.mem_pair.mp he with rfl | rfl
      · cases hdev : s.devHandle <;> simp [libusb, hdev] at hrel
      · refine ⟨?_, fun hnone => by simp [hnone] at hsome⟩
        cases hctx : s.ctx <;> simp [libusb, hctx] at hrel ⊢
        exact hrel
    · cases he

/-- `close` of a channel that was opened with success. -/
theorem close_opened (log : List LibusbCall) (polls : ℕ) :
    (opened log polls).close =
      idle (log ++ (openCalls log.length polls ++ closeCalls log.length)) := by
  simp [close, joinPipe, freeTransfers, releaseInterface, closeDevice, call, idle, new, opened,
    closeCalls]

/-- `close` of an idle channel does nothing. -/
theorem close_idle (log : List LibusbCall) : (idle log).close = idle log := by
  simp [close, joinPipe, freeTransfers, releaseInterface, closeDevice, idle, new]

end UsbChannel

end Slamkit
