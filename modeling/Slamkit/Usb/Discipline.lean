import Slamkit.Library.Run
import Slamkit.Usb.Resources

/-!
# When the libusb resources are handled properly

A successful `open` and the `close` after it form a disciplined cycle. An `open`
that fails after `libusb_init` loses a context or exits it under an open device,
and nothing that follows makes this good. Together these decide for every run of
`connect`, `disconnect` and the destructors whether it keeps the discipline.
-/

namespace Slamkit

open Library

/-- The number in a resource's name. -/
def UsbResource.id : UsbResource → ℕ
  | .context ctx => ctx
  | .devHandle h => h
  | .claim h => h
  | .transfer t => t

/-- Only resources with names below `n` occur in a log. -/
def NamesBelow (n : ℕ) (log : List LibusbCall) : Prop :=
  ∀ e ∈ log, ∀ r ∈ libusb.mentioned e, r.id < n

namespace UsbChannel

/-- The calls of a successful `open` release nothing. -/
theorem openCalls_released {n polls : ℕ} : ∀ e ∈ openCalls n polls, libusb.released e = none := by
  simp [openCalls, libusb]

/-- The calls of a successful `open`, one by one. -/
theorem mem_openCalls {n polls : ℕ} {e : LibusbCall} (h : e ∈ openCalls n polls) :
    e = .init n ∨ e = .openDevice (some n) (n + 1) ∨
      e = .setAutoDetachKernelDriver (some (n + 1)) true ∨
      e = .claimInterface (some (n + 1)) true ∨ e = .allocTransfer (n + 4) ∨
      e = .allocTransfer (n + 5) ∨ e = .handleEvents (some n) := by
  simp only [openCalls, List.mem_append, List.mem_cons, List.mem_replicate, List.not_mem_nil,
    or_false, or_assoc] at h
  exact h.imp_right <| .imp_right <| .imp_right <| .imp_right <| .imp_right <|
    .imp_right And.right

/-- What a successful `open` obtains. -/
def openedResources (n : ℕ) : List UsbResource :=
  [.context n, .devHandle (n + 1), .claim (n + 1), .transfer (n + 4), .transfer (n + 5)]

/-- The calls of a successful `open` obtain these resources. -/
theorem openCalls_obtained {n polls : ℕ} {e : LibusbCall} (h : e ∈ openCalls n polls)
    {r : UsbResource} (hr : libusb.obtained e = some r) : r ∈ openedResources n := by
  rcases mem_openCalls h with rfl | rfl | rfl | rfl | rfl | rfl | rfl <;>
    simp [libusb] at hr <;> simp [openedResources, ← hr]

/-- Among them the device lives in the context. -/
theorem openCalls_nested {n polls : ℕ} {e : LibusbCall} (h : e ∈ openCalls n polls)
    {outer inner : UsbResource} (hnest : libusb.nested e = some (outer, inner)) :
    outer = .context n ∧ inner = .devHandle (n + 1) := by
  rcases mem_openCalls h with rfl | rfl | rfl | rfl | rfl | rfl | rfl <;>
    simp [libusb] at hnest
  exact ⟨hnest.1.symm, hnest.2.symm⟩

/-- The `close` after it obtains nothing. -/
theorem closeCalls_obtained {n : ℕ} : ∀ e ∈ closeCalls n, libusb.obtained e = none := by
  simp [closeCalls, libusb]

/-- And it releases each of them once. -/
theorem closeCalls_releaseCount {n : ℕ} {r : UsbResource} (h : r ∈ openedResources n) :
    libusb.releaseCount (closeCalls n) r = 1 := by
  simp only [openedResources, List.mem_cons, List.not_mem_nil, or_false] at h
  rcases h with rfl | rfl | rfl | rfl | rfl <;> simp [Ledger.releaseCount, closeCalls, libusb]

/-- The calls of a cycle name resources of that cycle only. -/
theorem cycle_names {n polls : ℕ} :
    ∀ e ∈ openCalls n polls ++ closeCalls n, ∀ r ∈ libusb.mentioned e,
      n ≤ r.id ∧ r.id < n + 6 := by
  intro e he r hr
  rcases List.mem_append.mp he with he | he
  · rcases mem_openCalls he with rfl | rfl | rfl | rfl | rfl | rfl | rfl <;>
      simp [Ledger.mentioned, libusb] at hr <;> grind [UsbResource.id]
  · simp only [closeCalls, List.mem_cons, List.not_mem_nil, or_false] at he
    rcases he with rfl | rfl | rfl | rfl | rfl <;>
      simp [Ledger.mentioned, libusb] at hr <;> grind [UsbResource.id]

/-- The calls of a successful `open` are allowed, since nothing is released. -/
theorem eachAfter_openCalls {calls past : List LibusbCall}
    (hpast : ∀ e ∈ past, libusb.released e = none)
    (hcalls : ∀ e ∈ calls, libusb.released e = none) : EachAfter libusb.Allowed past calls := by
  induction calls generalizing past with
  | nil => trivial
  | cons e calls ih =>
    refine ⟨⟨fun r _ e' he' => by simp [hpast e' he'], ?_⟩, ih ?_ ?_⟩
    · intro outer inner hrel
      simp [hcalls e (by simp)] at hrel
    · intro e' he'
      rcases List.mem_append.mp he' with he' | he'
      · exact hpast e' he'
      · obtain rfl := List.mem_singleton.mp he'
        exact hcalls _ (by simp)
    · exact fun e' he' => hcalls e' (by simp [he'])

/-- When a call of the `close` after a successful `open` is allowed: what it uses has not
been released by the calls of `close` before it, and the context goes after the device. -/
theorem allowed_after_openCalls {n polls : ℕ} {past : List LibusbCall} {e : LibusbCall}
    (hused : ∀ r ∈ libusb.used e, ∀ e' ∈ past, libusb.released e' ≠ some r)
    (hpast : ∀ e' ∈ past, libusb.nested e' = none)
    (hcontext : libusb.released e = some (.context n) → .close (some (n + 1)) ∈ past) :
    libusb.Allowed (openCalls n polls ++ past) e := by
  constructor
  · intro r hr e' he'
    rcases List.mem_append.mp he' with he' | he'
    · simp [openCalls_released e' he']
    · exact hused r hr e' he'
  · intro outer inner hrel e' he' hnest
    rcases List.mem_append.mp he' with he' | he'
    · obtain ⟨rfl, rfl⟩ := openCalls_nested he' hnest
      exact ⟨_, List.mem_append_right _ (hcontext hrel), rfl⟩
    · simp [hpast e' he'] at hnest

/-- A successful `open` and the `close` after it are disciplined. -/
theorem cycle_disciplined (n polls : ℕ) :
    libusb.Disciplined (openCalls n polls ++ closeCalls n) := by
  have hreleased : ∀ e ∈ openCalls n polls, libusb.released e = none := openCalls_released
  constructor
  · rw [eachAfter_append]
    refine ⟨eachAfter_openCalls (by simp) hreleased, ?_⟩
    simp only [closeCalls, eachAfter_cons, eachAfter_nil, List.append_assoc, List.nil_append,
      List.cons_append, and_true]
    refine ⟨?_, ?_, ?_, ?_, ?_⟩
    · have h : libusb.Allowed (openCalls n polls ++ []) (.freeTransfer (n + 4)) :=
        allowed_after_openCalls (by simp) (by simp) (by simp [libusb])
      rwa [List.append_nil] at h
    all_goals exact allowed_after_openCalls (by simp [libusb]) (by simp [libusb]) (by simp [libusb])
  · intro e he r hr
    have hcount : libusb.releaseCount (openCalls n polls) r = 0 := by
      rw [Ledger.releaseCount, List.countP_eq_zero]
      intro e' he'
      simp [hreleased e' he']
    rw [Ledger.releaseCount_append, hcount, Nat.zero_add]
    rcases List.mem_append.mp he with he | he
    · exact closeCalls_releaseCount (openCalls_obtained he hr)
    · rw [closeCalls_obtained e he] at hr
      cases hr

end UsbChannel

namespace UsbChannel

/-- The log of a channel on which nothing is open: disciplined, with names of its own. -/
structure Settled (log : List LibusbCall) : Prop where
  disciplined : libusb.Disciplined log
  names : NamesBelow log.length log

/-- The channel has lost something: a context that it will never exit, or a call that
was not allowed. -/
def Lost (s : UsbChannel) : Prop :=
  (∃ ctx, .init ctx ∈ s.log ∧ ctx < s.log.length ∧
    (∀ e ∈ s.log, libusb.released e ≠ some (.context ctx)) ∧
    (s.ctx = some ctx → s.devHandle = none)) ∨
  ∃ past e rest, s.log = past ++ e :: rest ∧ ¬ libusb.Allowed past e

/-- What is lost is never made good. -/
theorem Lost.not_disciplined {s : UsbChannel} (h : s.Lost) : ¬ libusb.Disciplined s.log := by
  rcases h with ⟨ctx, hinit, _, hreleased, _⟩ | ⟨past, e, rest, hlog, hnot⟩
  · exact Ledger.not_disciplined_of_leak hinit rfl hreleased
  · rw [hlog]
    exact Ledger.not_disciplined_of_not_allowed hnot

/-- What is lost stays lost when the log is extended. -/
theorem Lost.extend {s s' : UsbChannel} {calls : List LibusbCall} (h : s.Lost)
    (hlog : s'.log = s.log ++ calls)
    (hcalls : ∀ ctx < s.log.length, (s.ctx = some ctx → s.devHandle = none) →
      (∀ e ∈ calls, libusb.released e ≠ some (.context ctx)) ∧
        (s'.ctx = some ctx → s'.devHandle = none)) : s'.Lost := by
  rcases h with ⟨ctx, hinit, hlt, hreleased, hdevice⟩ | ⟨past, e, rest, hold, hnot⟩
  · obtain ⟨hnew, hdevice'⟩ := hcalls ctx hlt hdevice
    refine .inl ⟨ctx, by simp [hlog, hinit], by simp [hlog]; omega, ?_, hdevice'⟩
    intro e he
    rw [hlog] at he
    rcases List.mem_append.mp he with he | he
    · exact hreleased e he
    · exact hnew e he
  · exact .inr ⟨past, e, rest ++ calls, by simp [hlog, hold], hnot⟩

/-- Opening does not make it good. -/
theorem Lost.open {s : UsbChannel} (h : s.Lost) (fate : OpenFate) : (s.open fate).2.Lost := by
  obtain ⟨calls, hlog, hcalls, hctx⟩ := s.open_log fate
  refine h.extend hlog fun ctx hlt hdevice => ⟨fun e he hrel => ?_, fun hsome => ?_⟩
  · have := hcalls e he ctx hrel
    omega
  · rcases hctx with hnew | ⟨hold, hsame⟩
    · have heq : s.log.length = ctx := by simpa [hnew] using hsome
      omega
    · rw [hsame]
      exact hdevice (hold ▸ hsome)

/-- Closing does not make it good. -/
theorem Lost.close {s : UsbChannel} (h : s.Lost) : s.close.Lost := by
  obtain ⟨calls, hlog, hcalls, hctx⟩ := s.close_log
  refine h.extend hlog fun ctx _ hdevice => ⟨fun e he hrel => ?_, fun hsome => ?_⟩
  · obtain ⟨hsame, hsome⟩ := hcalls e he ctx hrel
    exact hsome (hdevice hsame)
  · simp [hctx] at hsome

/-- An unclean open of an idle channel loses something. -/
theorem lost_of_not_clean {log : List LibusbCall} (h : Settled log) {fate : OpenFate}
    (hclean : ¬ fate.Clean) : ((idle log).open fate).1 = false ∧ ((idle log).open fate).2.Lost := by
  have hinit : fate.init = true := by
    cases hinit : fate.init with
    | false => exact absurd (.inl hinit) hclean
    | true => rfl
  have hfail : ¬ fate.Succeeds := fun hsucceeds => hclean (.inr hsucceeds)
  have hfresh : ∀ e ∈ log, ∀ r ∈ libusb.mentioned e, r.id < log.length := h.names
  cases hdevice : fate.openDevice with
  | false =>
    rw [open_of_no_device _ hinit hdevice]
    refine ⟨rfl, .inl ⟨log.length, by simp [idle], by simp [idle], ?_, fun _ => rfl⟩⟩
    intro e he hrel
    rcases List.mem_append.mp he with he | he
    · have := hfresh e he _ (Ledger.mem_mentioned_of_released hrel)
      simp [UsbResource.id] at this
    · rcases List.mem_pair.mp he with rfl | rfl <;> simp [libusb] at hrel
  | true =>
    obtain ⟨hfalse, _, calls, hcalls, hlog⟩ := (idle log).open_of_late_failure hinit hdevice hfail
    refine ⟨hfalse, .inr ⟨log ++ ([.init log.length,
      .openDevice (some log.length) (log.length + 1)] ++ calls), .exit (some log.length), [],
      ?_, ?_⟩⟩
    · rw [hlog]
      simp [idle]
    · -- the device was opened in the context that is exited now, and was not closed
      intro hallowed
      obtain ⟨e, he, hrel⟩ := hallowed.2 (.context log.length) (.devHandle (log.length + 1)) rfl
        (.openDevice (some log.length) (log.length + 1)) (by simp) rfl
      rcases List.mem_append.mp he with he | he
      · have := hfresh e he _ (Ledger.mem_mentioned_of_released hrel)
        simp [UsbResource.id] at this
      · rcases List.mem_append.mp he with he | he
        · rcases List.mem_pair.mp he with rfl | rfl <;> simp [libusb] at hrel
        · simp [hcalls e he] at hrel

/-- A disciplined log with new names extends a settled one. -/
theorem Settled.append {log calls : List LibusbCall} (h : Settled log)
    (hcalls : libusb.Disciplined calls)
    (hnames : ∀ e ∈ calls, ∀ r ∈ libusb.mentioned e,
      log.length ≤ r.id ∧ r.id < log.length + calls.length) : Settled (log ++ calls) := by
  constructor
  · apply h.disciplined.append hcalls
    intro e he e' he' r hr hr'
    have hlt := h.names e he r hr
    have hge := (hnames e' he' r hr').1
    omega
  · intro e he r hr
    rw [List.length_append]
    rcases List.mem_append.mp he with he | he
    · have := h.names e he r hr
      omega
    · exact (hnames e he r hr).2

/-- A failed `libusb_init` settles. -/
theorem Settled.initFailed {log : List LibusbCall} (h : Settled log) :
    Settled (log ++ [.initFailed]) := by
  refine h.append ⟨⟨?_, trivial⟩, by simp [libusb]⟩ (by simp [Ledger.mentioned, libusb])
  exact ⟨by simp [libusb], by simp [libusb]⟩

/-- A cycle of open and close settles. -/
theorem Settled.cycle {log : List LibusbCall} (h : Settled log) (polls : ℕ) :
    Settled (log ++ (openCalls log.length polls ++ closeCalls log.length)) := by
  refine h.append (cycle_disciplined _ _) fun e he r hr => ?_
  obtain ⟨hge, hlt⟩ := cycle_names e he r hr
  refine ⟨hge, ?_⟩
  simp only [openCalls, closeCalls, List.length_append, List.length_cons, List.length_nil,
    List.length_replicate]
  omega

end UsbChannel

open UsbChannel

/-- `connect` of a driver that is not connected opens the channel. -/
theorem connect_run {d : DriverState Unit UsbWorld} (hconn : d.isConnected = false) :
    (UsbOp.run d .connect).isConnected =
        (d.env.channel.open (d.env.fates d.env.opens)).1 ∧
      (UsbOp.run d .connect).env = { d.env with
        channel := (d.env.channel.open (d.env.fates d.env.opens)).2
        opens := d.env.opens + 1 } := by
  cases hopen : (d.env.channel.open (d.env.fates d.env.opens)).1 with
  | false =>
    rw [UsbOp.run, connect_exec_of_open_failed usbChannel hconn hopen]
    exact ⟨hconn, rfl⟩
  | true =>
    rw [UsbOp.run, connect_exec_of_opened usbChannel hconn hopen]
    exact ⟨rfl, rfl⟩

/-- The state of a run: as long as every open was clean, the channel is idle or properly
opened; once one was not, something is lost. -/
structure UsbInv (fates : ℕ → OpenFate) (d : DriverState Unit UsbWorld) : Prop where
  fates_eq : d.env.fates = fates
  state : ((∀ k < d.env.opens, (fates k).Clean) ∧ ∃ log, Settled log ∧
      (d.isConnected = false ∧ d.env.channel = idle log ∨
        d.isConnected = true ∧ ∃ polls, d.env.channel = opened log polls)) ∨
    ((∃ k < d.env.opens, ¬ (fates k).Clean) ∧ d.env.channel.Lost)

/-- One call of the client keeps the state of a run. -/
theorem UsbInv.step {fates : ℕ → OpenFate} {d : DriverState Unit UsbWorld} (h : UsbInv fates d)
    (op : UsbOp) : UsbInv fates (op.run d) := by
  obtain ⟨hfates, hstate⟩ := h
  cases op with
  | connect =>
    cases hconn : d.isConnected with
    | true =>
      rw [UsbOp.run, connect_exec_of_connected usbChannel hconn]
      exact ⟨hfates, hstate⟩
    | false =>
      obtain ⟨hconnected, henv⟩ := connect_run hconn
      refine ⟨by rw [henv]; exact hfates, ?_⟩
      rw [henv, hconnected, hfates]
      rcases hstate with ⟨hclean, log, hsettled, ⟨_, hidle⟩ | ⟨htrue, _⟩⟩ | ⟨⟨k, hk, hnot⟩, hlost⟩
      · rw [hidle]
        by_cases hfate : (fates d.env.opens).Clean
        · refine .inl ⟨fun k hk => ?_, ?_⟩
          · rcases Nat.lt_succ_iff_lt_or_eq.mp hk with hlt | rfl
            · exact hclean k hlt
            · exact hfate
          · rcases hfate with hinit | hsucceeds
            · rw [open_of_init_failed _ hinit]
              exact ⟨_, hsettled.initFailed, .inl ⟨rfl, rfl⟩⟩
            · rw [open_of_succeeds log hsucceeds]
              exact ⟨log, hsettled, .inr ⟨rfl, _, rfl⟩⟩
        · exact .inr ⟨⟨_, Nat.lt_succ_self _, hfate⟩, (lost_of_not_clean hsettled hfate).2⟩
      · simp [hconn] at htrue
      · exact .inr ⟨⟨k, Nat.lt_succ_of_lt hk, hnot⟩, hlost.open _⟩
  | disconnect =>
    cases hconn : d.isConnected with
    | false =>
      rw [UsbOp.run, disconnect_exec_of_not_connected usbChannel hconn]
      exact ⟨hfates, hstate⟩
    | true =>
      rw [UsbOp.run, disconnect_exec usbChannel hconn]
      refine ⟨hfates, ?_⟩
      rcases hstate with ⟨hclean, log, hsettled, ⟨hfalse, _⟩ | ⟨_, polls, hopened⟩⟩ | ⟨hnot, hlost⟩
      · simp [hconn] at hfalse
      · refine .inl ⟨hclean, _, hsettled.cycle polls, .inl ⟨rfl, ?_⟩⟩
        rw [← close_opened, ← hopened]
        rfl
      · exact .inr ⟨hnot, hlost.close⟩

/-- Every run of the client keeps the state. -/
theorem usbInv_usbRun (fates : ℕ → OpenFate) (ops : List UsbOp) :
    UsbInv fates (usbRun fates ops) := by
  refine invariant_of_foldl (fun _ op hd => hd.step op)
    ⟨rfl, .inl ⟨fun k hk => absurd hk (Nat.not_lt_zero k), [], ?_, .inl ⟨rfl, rfl⟩⟩⟩ ops
  exact ⟨Ledger.disciplined_nil, by simp [NamesBelow]⟩

/-- **Exactly when the libusb resources are handled properly.** Once the destructors have
run, everything was released exactly once, devices before their contexts, and nothing was
used after its release, exactly if every `open` of the run failed at `libusb_init` or had
all its calls succeed. -/
theorem usb_disciplined_iff (fates : ℕ → OpenFate) (ops : List UsbOp) :
    libusb.Disciplined (usbEnd fates ops).log ↔
      ∀ k < (usbRun fates ops).env.opens, (fates k).Clean := by
  have hopens : (UsbOp.run (usbRun fates ops) .disconnect).env.opens =
      (usbRun fates ops).env.opens := by
    cases hconn : (usbRun fates ops).isConnected with
    | false => rw [UsbOp.run, disconnect_exec_of_not_connected usbChannel hconn]
    | true => rw [UsbOp.run, disconnect_exec usbChannel hconn]; rfl
  have hfinal : (UsbOp.run (usbRun fates ops) .disconnect).isConnected = false := by
    cases hconn : (usbRun fates ops).isConnected with
    | false => rw [UsbOp.run, disconnect_exec_of_not_connected usbChannel hconn, hconn]
    | true => rw [UsbOp.run, disconnect_exec usbChannel hconn]
  rw [← hopens]
  rcases ((usbInv_usbRun fates ops).step .disconnect).state with
    ⟨hclean, log, hsettled, ⟨_, hidle⟩ | ⟨htrue, _⟩⟩ | ⟨⟨k, hk, hnot⟩, hlost⟩
  · rw [usbEnd, hidle, close_idle]
    exact ⟨fun _ => hclean, fun _ => hsettled.disciplined⟩
  · simp [hfinal] at htrue
  · exact ⟨fun h => absurd h hlost.close.not_disciplined, fun h => absurd (h k hk) hnot⟩

/-- An open for which no device is found. -/
def noDevice : OpenFate := ⟨true, false, true, true, true, true, 0⟩

/-- A failed connect without a device leaks its context. -/
theorem noDevice_leaks :
    ¬ libusb.Disciplined (usbEnd (fun _ => noDevice) [.connect]).log := by
  have hlog : (usbEnd (fun _ => noDevice) [.connect]).log = [.init 0, .openDeviceFailed (some 0)] :=
    by decide +kernel
  rw [hlog]
  exact Ledger.not_disciplined_of_leak (List.mem_cons_self ..) rfl (by simp [libusb])

end Slamkit
