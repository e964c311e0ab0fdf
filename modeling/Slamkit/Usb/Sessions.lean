import Slamkit.SessionTrace
import Slamkit.Usb.Channel
import Slamkit.Usb.Resources

/-!
# Driver sessions on a USB channel

All methods of one `USBChannel` with the libusb calls they make. `open` may fail half way and
leave a device handle whose context is gone, a transfer or a claim behind, and the driver may then
connect once more. Still every transfer of a session is made with resources that libusb has handed
out and not taken back.
-/

namespace Slamkit

open Library

variable {ε : Type}

/-- The libusb calls of `USBChannel`: those of `open` and `close`, and those of the data methods.
A submitted transfer names the device handle that `open` has stored in it. -/
inductive UsbCall where
  | resource (call : LibusbCall)
  | bulkTransfer (devHandle : Option ℕ)
  | submitTransfer (transfer : ℕ) (devHandle : Option ℕ)
  | cancelTransfer (transfer : ℕ)
  | clearHalt (devHandle : Option ℕ)
  deriving DecidableEq

namespace UsbCall

/-- A call of `open` or `close`. -/
def resource? : UsbCall → Option LibusbCall
  | .resource call => some call
  | _ => none

/-- What a call of the data methods is given, `none` for a null pointer. -/
def given : UsbCall → List (Option UsbResource)
  | .resource _ => []
  | .bulkTransfer devHandle => [devHandle.map .devHandle]
  | .submitTransfer transfer devHandle => [some (.transfer transfer), devHandle.map .devHandle]
  | .cancelTransfer transfer => [some (.transfer transfer)]
  | .clearHalt devHandle => [devHandle.map .devHandle]

/-- The resources that the calls `past` have obtained and not released. -/
def Live (past : List UsbCall) : UsbResource → Prop := libusb.Live (past.filterMap resource?)

/-- After the calls `past`, a data method gives libusb no null pointer, only live resources, and
only device handles of a live context. -/
def Sound (past : List UsbCall) (call : UsbCall) : Prop :=
  ∀ given ∈ call.given, ∃ resource, given = some resource ∧ Live past resource ∧
    ∀ devHandle, resource = .devHandle devHandle → ∃ ctx,
      .resource (.openDevice (some ctx) devHandle) ∈ past ∧ Live past (.context ctx)

end UsbCall

/-- A `USBChannel` on libusb: its members, what each of its opens will meet and the number of
them so far, and all calls, oldest first. -/
structure UsbObject (ε : Type) where
  channel : UsbChannel
  /-- `_tx_libusb_transfer->dev_handle`. -/
  txDevHandle : Option ℕ
  cache : UsbCache
  env : ε
  fates : ℕ → OpenFate
  opens : ℕ
  calls : List UsbCall

namespace UsbObject

/-- The constructor. -/
def new (cache : UsbCache) (env : ε) (fates : ℕ → OpenFate) : UsbObject ε :=
  ⟨.new, none, cache, env, fates, 0, []⟩

/-- The members after `open` or `close`, with the calls these have made. -/
def become (s : UsbObject ε) (channel : UsbChannel) : UsbObject ε :=
  { s with
    channel := channel
    calls := s.calls ++ (channel.log.drop s.channel.log.length).map .resource }

/-- `open` gets as far as the transfer to the device. -/
def allocatesTx (fate : OpenFate) : Bool :=
  fate.init && fate.openDevice && fate.setAutoDetach && fate.claim && fate.allocTx

/-- `open`. -/
def «open» (s : UsbObject ε) : Bool × UsbObject ε :=
  let fate := s.fates s.opens
  let r := s.channel.open fate
  (r.1, { s.become r.2 with
    txDevHandle := if allocatesTx fate then r.2.devHandle else s.txDevHandle
    opens := s.opens + 1 })

/-- `close`. -/
def close (s : UsbObject ε) : UsbObject ε := s.become s.channel.close

/-- The calls of `write` that follow from the outcome of its transfer. -/
def submitCalls (s : UsbObject ε) (transfer : ℕ) (outcome : Submitted) : List UsbCall :=
  .submitTransfer transfer s.txDevHandle ::
    if !outcome.submitted then [.cancelTransfer transfer]
    else if !outcome.signalled then [.cancelTransfer transfer]
    else match outcome.status with
      | .stall => [.clearHalt s.channel.devHandle]
      | .completed => []
      | .other => []

/-- libusb as the data methods of the object call it, with the log of the calls. -/
def logged (s : UsbObject ε) (usb : LibusbTransfers ε) (transfer : ℕ) :
    LibusbTransfers (ε × List UsbCall) where
  bulkTransfer size timeout e :=
    let r := usb.bulkTransfer size timeout e.1
    (r.1, r.2, e.2 ++ [.bulkTransfer s.channel.devHandle])
  submitTransfer data e :=
    let r := usb.submitTransfer data e.1
    (r.1, r.2, e.2 ++ s.submitCalls transfer r.1)

/-- `waitForData`. -/
def waitForData (usb : LibusbTransfers ε) (size : ℕ) (timeoutInMs : SlU32) (s : UsbObject ε) :
    Bool × UsbObject ε :=
  let r := UsbCache.waitForData (s.logged usb 0) size timeoutInMs s.cache (s.env, s.calls)
  (r.1.result, { s with cache := r.2.1, env := r.2.2.1, calls := r.2.2.2 })

/-- `write`, which does nothing without a transfer. -/
def write (usb : LibusbTransfers ε) (data : List SlU8) (s : UsbObject ε) :
    WriteResult × UsbObject ε :=
  match s.channel.txLibusbTransfer with
  | none => (⟨0, 0⟩, s)
  | some transfer =>
    let r := UsbCache.write (s.logged usb transfer) data (s.env, s.calls)
    (r.1, { s with env := r.2.1, calls := r.2.2 })

/-- `read`. -/
def read (size : ℕ) (s : UsbObject ε) : ReadResult × UsbObject ε :=
  let r := s.cache.read size
  (r.1, { s with cache := r.2 })

end UsbObject

/-- The USB channel as seen by the driver. -/
def usbObject (usb : LibusbTransfers ε) : Channels Unit (UsbObject ε)
  | _, .«open», s => s.open
  | _, .close, s => ((), s.close)
  | _, .flush, s => ((), { s with cache := s.cache.flush })
  | _, .waitForData size timeoutInMs, s => s.waitForData usb size timeoutInMs
  | _, .write data, s => s.write usb data
  | _, .read size, s => s.read size
  | _, .clearReadCache, s => ((), { s with cache := s.cache.clearReadCache })

/-- The number that names a resource. -/
def UsbResource.name : UsbResource → ℕ
  | .context n => n
  | .devHandle n => n
  | .claim n => n
  | .transfer n => n

/-- What is released is named by a number of calls so far. -/
def Named (log : List LibusbCall) : Prop :=
  ∀ e ∈ log, ∀ r, libusb.released e = some r → r.name < log.length

/-- A longer log is named if its new releases are. -/
theorem Named.append {log calls : List LibusbCall} (h : Named log)
    (hcalls : ∀ e ∈ calls, ∀ r, libusb.released e = some r → r.name < (log ++ calls).length) :
    Named (log ++ calls) := by
  intro e he r hr
  rcases List.mem_append.mp he with hold | hnew
  · have hlt := h e hold r hr
    rw [List.length_append]
    omega
  · exact hcalls e hnew r hr

namespace UsbChannel

/-- An `open` that succeeds releases nothing. -/
theorem released_openCalls (n polls : ℕ) : ∀ e ∈ openCalls n polls, libusb.released e = none := by
  intro e he
  unfold openCalls at he
  rcases List.mem_append.mp he with hfirst | hpoll
  · simp only [List.mem_cons, List.not_mem_nil, or_false] at hfirst
    rcases hfirst with rfl | rfl | rfl | rfl | rfl | rfl <;> rfl
  · rw [List.eq_of_mem_replicate hpoll]
    rfl

/-- What an `open` obtains is live after it. -/
theorem live_opened {log : List LibusbCall} (h : Named log) (polls : ℕ) {e : LibusbCall}
    {r : UsbResource} (he : e ∈ openCalls log.length polls) (hobtained : libusb.obtained e = some r)
    (hnew : log.length ≤ r.name) : libusb.Live (opened log polls).log r := by
  apply Ledger.live_append he hobtained
  · intro e' he' hreleased
    have hlt := h e' he' r hreleased
    omega
  · intro e' he' hreleased
    rw [released_openCalls _ _ e' he'] at hreleased
    cases hreleased

/-- An `open` that succeeds sets all members, whatever was in them, if no pipeline thread is
working. -/
theorem open_of_idle {s : UsbChannel} (hidle : s.isPipeWorking = false) {fate : OpenFate}
    (h : fate.Succeeds) : s.open fate = (true, opened s.log fate.polls) := by
  obtain ⟨hinit, hdevice, hdetach, hclaim, htx, hrx⟩ := h
  simp [«open», openInterface, openTransfers, startPipeLine, call, opened, openCalls, hidle, hinit,
    hdevice, hdetach, hclaim, htx, hrx]

/-- An `open` that fails starts no pipeline thread: `start_pipe_line` comes last. -/
theorem open_isPipeWorking (s : UsbChannel) {fate : OpenFate} (h : ¬ fate.Succeeds) :
    (s.open fate).2.isPipeWorking = s.isPipeWorking := by
  cases hinit : fate.init with
  | false => simp [«open», call, hinit]
  | true =>
    cases hdevice : fate.openDevice with
    | false => simp [«open», call, hinit, hdevice]
    | true =>
      cases hdetach : fate.setAutoDetach with
      | false => simp [«open», openInterface, call, hinit, hdevice, hdetach]
      | true =>
        cases hclaim : fate.claim with
        | false => simp [«open», openInterface, call, hinit, hdevice, hdetach, hclaim]
        | true =>
          cases htx : fate.allocTx with
          | false =>
            simp [«open», openInterface, openTransfers, call, hinit, hdevice, hdetach, hclaim, htx]
          | true =>
            cases hrx : fate.allocRx with
            | false =>
              simp [«open», openInterface, openTransfers, call, hinit, hdevice, hdetach, hclaim,
                htx, hrx]
            | true => exact absurd ⟨hinit, hdevice, hdetach, hclaim, htx, hrx⟩ h

/-- An `open` that fails returns false, and exits at most its own context. -/
theorem open_of_failure (s : UsbChannel) {fate : OpenFate} (h : ¬ fate.Succeeds) :
    (s.open fate).1 = false ∧
      ∃ calls, (s.open fate).2.log = s.log ++ calls ∧ calls ≠ [] ∧
        ∀ e ∈ calls, ∀ r, libusb.released e = some r → r = .context s.log.length := by
  cases hinit : fate.init with
  | false =>
    rw [open_of_init_failed s hinit]
    exact ⟨rfl, [.initFailed], rfl, by simp, by simp [libusb]⟩
  | true =>
    cases hdevice : fate.openDevice with
    | false =>
      rw [open_of_no_device s hinit hdevice]
      exact ⟨rfl, _, rfl, by simp, by simp [libusb]⟩
    | true =>
      obtain ⟨hresult, -, calls, hcalls, hlog⟩ := open_of_late_failure s hinit hdevice h
      refine ⟨hresult, _, hlog, by simp, fun e he r hr => ?_⟩
      rcases List.mem_append.mp he with hfirst | hexit
      · rcases List.mem_append.mp hfirst with hopened | hmiddle
        · rcases List.mem_pair.mp hopened with rfl | rfl <;> cases hr
        · rw [hcalls e hmiddle] at hr
          cases hr
      · obtain rfl := List.mem_singleton.mp hexit
        exact (Option.some.inj hr).symm

end UsbChannel

namespace UsbObject

/-- The log of all calls has those of `open` and `close`, and its calls are sound. The members of
an open channel are those of its last `open`; a closed channel has no pipeline thread. -/
structure Inv (isOpen : Bool) (s : UsbObject ε) : Prop where
  recorded : s.calls.filterMap UsbCall.resource? = s.channel.log
  sound : EachAfter UsbCall.Sound [] s.calls
  named : Named s.channel.log
  idle : isOpen = false → s.channel.isPipeWorking = false
  opened : isOpen = true → ∃ log polls, Named log ∧ s.channel = .opened log polls ∧
    s.txDevHandle = some (log.length + 1)

/-- A new object. -/
theorem inv_new (cache : UsbCache) (env : ε) (fates : ℕ → OpenFate) :
    (new cache env fates).Inv false where
  recorded := rfl
  sound := trivial
  named := by simp [Named, new, UsbChannel.new]
  idle _ := rfl
  opened hopen := by cases hopen

/-- Calls of `open` and `close` are recorded and are no calls of data methods. -/
theorem become_spec {s : UsbObject ε} {isOpen : Bool} (h : s.Inv isOpen) {channel : UsbChannel}
    {calls : List LibusbCall} (hlog : channel.log = s.channel.log ++ calls) :
    (s.become channel).calls.filterMap UsbCall.resource? = channel.log ∧
      EachAfter UsbCall.Sound [] (s.become channel).calls := by
  have hcalls : (s.become channel).calls = s.calls ++ calls.map .resource := by
    unfold become
    rw [hlog, List.drop_left]
  rw [hcalls]
  constructor
  · rw [List.filterMap_append, h.recorded, List.filterMap_map, hlog]
    exact congrArg _ (List.filterMap_some ..)
  · rw [eachAfter_append]
    refine ⟨h.sound, ?_⟩
    rw [eachAfter_iff]
    intro before e after hsplit given hgiven
    have he : e ∈ calls.map UsbCall.resource := by
      rw [hsplit]
      exact List.mem_append_right _ (List.mem_cons_self ..)
    obtain ⟨call, -, rfl⟩ := List.mem_map.mp he
    cases hgiven

/-- `open` keeps the invariant. -/
theorem Inv.open {s : UsbObject ε} (h : s.Inv false) : s.open.2.Inv s.open.1 := by
  set fate := s.fates s.opens with hfate
  by_cases hsucceeds : fate.Succeeds
  · have hopen := UsbChannel.open_of_idle (h.idle rfl) hsucceeds
    have hlog : (UsbChannel.opened s.channel.log fate.polls).log =
        s.channel.log ++ UsbChannel.openCalls s.channel.log.length fate.polls := rfl
    obtain ⟨hrecorded, hsound⟩ := become_spec h hlog
    have htx : allocatesTx fate = true := by
      obtain ⟨hinit, hdevice, hdetach, hclaim, htx, -⟩ := hsucceeds
      simp [allocatesTx, hinit, hdevice, hdetach, hclaim, htx]
    have hself : s.open = (true, { s.become (.opened s.channel.log fate.polls) with
        txDevHandle := some (s.channel.log.length + 1), opens := s.opens + 1 }) := by
      unfold UsbObject.open
      simp only [← hfate, hopen, htx, if_true]
      rfl
    rw [hself]
    refine ⟨hrecorded, hsound, ?_, (fun hidle => by cases hidle),
      fun _ => ⟨_, _, h.named, rfl, rfl⟩⟩
    apply h.named.append
    intro e he r hr
    rw [UsbChannel.released_openCalls _ _ e he] at hr
    cases hr
  · obtain ⟨hresult, calls, hlog, hcalls, hreleased⟩ :=
      UsbChannel.open_of_failure s.channel hsucceeds
    obtain ⟨hrecorded, hsound⟩ := become_spec h hlog
    have hfalse : s.open.1 = false := hresult
    rw [hfalse]
    refine ⟨hrecorded, hsound, ?_, fun _ => ?_, fun hopen => by cases hopen⟩
    · change Named (s.channel.open fate).2.log
      rw [hlog]
      apply h.named.append
      intro e he r hr
      have hpos := List.length_pos_iff.mpr hcalls
      rw [hreleased e he r hr, List.length_append]
      change s.channel.log.length < _
      omega
    · exact (UsbChannel.open_isPipeWorking s.channel hsucceeds).trans (h.idle rfl)

/-- `close` keeps the invariant. -/
theorem Inv.close {s : UsbObject ε} (h : s.Inv true) : s.close.Inv false := by
  obtain ⟨log, polls, hnamed, hchannel, -⟩ := h.opened rfl
  have hclose : s.channel.close =
      .idle (s.channel.log ++ UsbChannel.closeCalls log.length) := by
    rw [hchannel, UsbChannel.close_opened]
    unfold UsbChannel.opened
    rw [List.append_assoc]
  have hlog : s.channel.close.log = s.channel.log ++ UsbChannel.closeCalls log.length :=
    congrArg UsbChannel.log hclose
  obtain ⟨hrecorded, hsound⟩ := become_spec h hlog
  refine ⟨hrecorded, hsound, ?_, fun _ => congrArg UsbChannel.isPipeWorking hclose,
    fun hopen => by cases hopen⟩
  change Named s.channel.close.log
  rw [hlog]
  apply h.named.append
  intro e he r hr
  have hlength : s.channel.log.length = log.length + 6 + polls := by
    rw [hchannel]
    simp only [UsbChannel.opened, UsbChannel.openCalls, List.length_append, List.length_cons,
      List.length_nil, List.length_replicate]
    omega
  rw [List.length_append, hlength]
  unfold UsbChannel.closeCalls at he
  simp only [List.mem_cons, List.not_mem_nil, or_false] at he
  rcases he with rfl | rfl | rfl | rfl | rfl <;> obtain rfl := Option.some.inj hr <;>
    simp only [UsbResource.name] <;> omega

/-- A call with the device handle of an open channel, or with its transfer to the device. -/
def Uses (s : UsbObject ε) (call : UsbCall) : Prop :=
  call.resource? = none ∧ ∀ given ∈ call.given,
    given = s.channel.devHandle.map .devHandle ∨ given = s.txDevHandle.map .devHandle ∨
      given = s.channel.txLibusbTransfer.map .transfer

/-- On an open channel such a call is sound. -/
theorem Inv.sound_of_uses {s : UsbObject ε} (h : s.Inv true) {call : UsbCall} (hcall : s.Uses call)
    {past : List UsbCall} (hpast : past.filterMap UsbCall.resource? = s.channel.log)
    (hopened : ∀ call ∈ s.calls, call ∈ past) : call.Sound past := by
  obtain ⟨log, polls, hnamed, hchannel, htx⟩ := h.opened rfl
  have hlive : ∀ {e : LibusbCall} {r : UsbResource},
      e ∈ UsbChannel.openCalls log.length polls → libusb.obtained e = some r →
      log.length ≤ r.name → UsbCall.Live past r := by
    intro e r he hobtained hnew
    unfold UsbCall.Live
    rw [hpast, hchannel]
    exact UsbChannel.live_opened hnamed polls he hobtained hnew
  have hdevice : UsbCall.Live past (.devHandle (log.length + 1)) ∧
      ∀ devHandle, UsbResource.devHandle (log.length + 1) = .devHandle devHandle → ∃ ctx,
        UsbCall.resource (.openDevice (some ctx) devHandle) ∈ past ∧
          UsbCall.Live past (.context ctx) := by
    have hopen : LibusbCall.openDevice (some log.length) (log.length + 1) ∈
        UsbChannel.openCalls log.length polls := by simp [UsbChannel.openCalls]
    refine ⟨hlive hopen rfl (Nat.le_succ _), ?_⟩
    intro devHandle heq
    obtain rfl := UsbResource.devHandle.inj heq
    refine ⟨log.length, ?_, hlive (e := .init log.length) (by simp [UsbChannel.openCalls]) rfl
      (Nat.le_refl _)⟩
    have hmem : LibusbCall.openDevice (some log.length) (log.length + 1) ∈
        s.calls.filterMap UsbCall.resource? := by
      rw [h.recorded, hchannel]
      exact List.mem_append_right _ hopen
    obtain ⟨call, hin, hresource⟩ := List.mem_filterMap.mp hmem
    cases call with
    | resource call =>
      obtain rfl := Option.some.inj hresource
      exact hopened _ hin
    | _ => cases hresource
  intro given hgiven
  rcases hcall.2 given hgiven with rfl | rfl | rfl
  · rw [hchannel]
    exact ⟨_, rfl, hdevice⟩
  · rw [htx]
    exact ⟨_, rfl, hdevice⟩
  · rw [hchannel]
    refine ⟨_, rfl, hlive (e := .allocTransfer (log.length + 4)) (by simp [UsbChannel.openCalls])
      rfl ?_, fun _ heq => by cases heq⟩
    change log.length ≤ log.length + 4
    omega

/-- Calls of the data methods keep the invariant. -/
theorem Inv.issue {s : UsbObject ε} (h : s.Inv true) {calls : List UsbCall}
    (hcalls : ∀ call ∈ calls, s.Uses call) (cache : UsbCache) (env : ε) :
    Inv true { s with cache := cache, env := env, calls := s.calls ++ calls } where
  recorded := by
    have hnone : calls.filterMap UsbCall.resource? = [] :=
      List.filterMap_eq_nil_iff.mpr fun call hcall => (hcalls call hcall).1
    change (s.calls ++ calls).filterMap UsbCall.resource? = _
    rw [List.filterMap_append, hnone, List.append_nil, h.recorded]
  sound := by
    change EachAfter _ _ (s.calls ++ calls)
    rw [eachAfter_append]
    refine ⟨h.sound, ?_⟩
    rw [eachAfter_iff]
    rintro before call after rfl
    have hbefore : before.filterMap UsbCall.resource? = [] :=
      List.filterMap_eq_nil_iff.mpr fun e he => (hcalls e (List.mem_append_left _ he)).1
    apply h.sound_of_uses (hcalls call (by simp))
    · rw [List.nil_append, List.filterMap_append, hbefore, List.append_nil, h.recorded]
    · intro e he
      exact List.mem_append_left _ (List.mem_append_right _ he)
  named := h.named
  idle hidle := by cases hidle
  opened := h.opened

/-- `waitForData` gives libusb the device handle, once or twice or not at all. -/
theorem waitForData_calls (usb : LibusbTransfers ε) (size : ℕ) (timeoutInMs : SlU32)
    (s : UsbObject ε) : ∃ calls cache env,
      (s.waitForData usb size timeoutInMs).2 =
        { s with cache := cache, env := env, calls := s.calls ++ calls } ∧
      ∀ call ∈ calls, call = .bulkTransfer s.channel.devHandle := by
  unfold waitForData UsbCache.waitForData logged
  simp only
  split
  · exact ⟨[], s.cache, s.env, by rw [List.append_nil], by simp⟩
  · split
    · refine ⟨[.bulkTransfer s.channel.devHandle, .bulkTransfer s.channel.devHandle], _, _,
        by simp only [List.append_assoc]; rfl, by simp⟩
    · exact ⟨[.bulkTransfer s.channel.devHandle], _, _, rfl, by simp⟩

/-- `write` gives libusb the transfer to the device and device handles of the members. -/
theorem write_calls (usb : LibusbTransfers ε) (data : List SlU8) (s : UsbObject ε) :
    ∃ calls env, (s.write usb data).2 = { s with env := env, calls := s.calls ++ calls } ∧
      ∀ call ∈ calls, s.Uses call := by
  unfold write
  cases htransfer : s.channel.txLibusbTransfer with
  | none => exact ⟨[], s.env, by simp, by simp⟩
  | some transfer =>
    refine ⟨s.submitCalls transfer (usb.submitTransfer data s.env).1, _, rfl, ?_⟩
    have hsubmit : s.Uses (.submitTransfer transfer s.txDevHandle) :=
      ⟨rfl, by simp [UsbCall.given, htransfer]⟩
    have hcancel : s.Uses (.cancelTransfer transfer) := ⟨rfl, by simp [UsbCall.given, htransfer]⟩
    have hclear : s.Uses (.clearHalt s.channel.devHandle) := ⟨rfl, by simp [UsbCall.given]⟩
    intro call hcall
    unfold submitCalls at hcall
    rcases List.mem_cons.mp hcall with rfl | hrest
    · exact hsubmit
    · split at hrest
      · rwa [List.mem_singleton.mp hrest]
      · split at hrest
        · rwa [List.mem_singleton.mp hrest]
        · split at hrest
          · rwa [List.mem_singleton.mp hrest]
          · cases hrest
          · cases hrest

/-- Every method keeps the invariant if it is called as the protocol of channels allows. -/
theorem Inv.step (usb : LibusbTransfers ε) {isOpen isOpen' : Bool} {channel : Option Unit}
    {op : ChannelOp} {s : UsbObject ε} (h : s.Inv isOpen)
    (hnext : nextPhase () isOpen ⟨channel, op, (usbObject usb channel op s).1⟩ = some isOpen') :
    (usbObject usb channel op s).2.Inv isOpen' := by
  cases channel with
  | none => cases hnext
  | some c =>
    cases op
    case «open» =>
      cases isOpen with
      | true => simp [nextPhase] at hnext
      | false =>
        obtain rfl : s.open.1 = isOpen' := by simpa [nextPhase, usbObject] using hnext
        exact h.open
    all_goals
      have hopen : isOpen = true := by
        cases isOpen with
        | true => rfl
        | false => simp [nextPhase] at hnext
      subst hopen
    case close =>
      obtain rfl : false = isOpen' := by simpa [nextPhase] using hnext
      exact h.close
    all_goals obtain rfl : true = isOpen' := by simpa [nextPhase] using hnext
    case flush => exact h
    case clearReadCache =>
      exact ⟨h.recorded, h.sound, h.named, (fun hidle => by cases hidle), h.opened⟩
    case read size =>
      exact ⟨h.recorded, h.sound, h.named, (fun hidle => by cases hidle), h.opened⟩
    case waitForData size timeoutInMs =>
      obtain ⟨calls, cache, env, hself, hcalls⟩ := s.waitForData_calls usb size timeoutInMs
      change ((s.waitForData usb size timeoutInMs).2).Inv true
      rw [hself]
      apply h.issue
      intro call hcall
      rw [hcalls call hcall]
      exact ⟨rfl, by simp [UsbCall.given]⟩
    case write data =>
      obtain ⟨calls, env, hself, hcalls⟩ := s.write_calls usb data
      change ((s.write usb data).2).Inv true
      rw [hself]
      exact h.issue hcalls s.cache env

end UsbObject

/-- **The transfers of a USB session.** In every session of the driver on a USB channel, however
its opens fail and whatever libusb answers, no transfer is made with a null pointer, with a device
handle or a transfer object that has been released, or with a handle whose context has been. -/
theorem usb_session_transfers (usb : LibusbTransfers ε) (cache : UsbCache) (env : ε)
    (fates : ℕ → OpenFate) (ops : List (SessionOp Unit)) :
    let s := (Session.runOps (usbObject usb) (.new cache env fates) ops).driver.env
    EachAfter UsbCall.Sound [] s.calls ∧ s.calls.filterMap UsbCall.resource? = s.channel.log := by
  intro s
  have hinv := Session.keeps (usbObject usb) () (I := UsbObject.Inv)
    (fun _ _ _ _ _ h hnext => h.step usb hnext) (UsbObject.inv_new cache env fates) ops
  exact ⟨hinv.sound, hinv.recorded⟩

/-- The interface cannot be claimed at first. -/
def lateClaim : ℕ → OpenFate
  | 0 => ⟨true, true, true, false, true, true, 0⟩
  | _ => ⟨true, true, true, true, true, true, 0⟩

/-- A device that takes every packet and never answers. -/
def silentUsb : LibusbTransfers Unit where
  bulkTransfer _ _ e := (⟨false, []⟩, e)
  submitTransfer data e := (⟨true, true, .completed, data.length⟩, e)

/-- A session that connects at the second attempt: the transfers go to the second device handle. -/
example :
    ((Session.runOps (usbObject silentUsb) (.new ⟨0#16, []⟩ () lateClaim)
        [.connect (some ()), .connect (some ()), .request .imuRaw
          ⟨0, 0, 0, 0, 0, 0, 0, 0, 0, 0#32⟩ defaultTimeout]).driver.env.calls.filter
      fun call => call.given ≠ []) =
    [.submitTransfer 9 (some 6), .bulkTransfer (some 6), .bulkTransfer (some 6)] := by
  decide +kernel

end Slamkit
