import Slamkit.SerialChannel

/-!
# The descriptors in the calls of a serial port

Each system call that a method of `raw_serial` for Linux makes is given descriptors from the
members, and these have what the port has obtained and not yet released. What `open` and `close` do
to the descriptors is what `SerialPort` says; every method keeps the log of the calls sound.
-/

namespace Slamkit

open Library RawSerial

namespace SerialPort

/-- `close` leaves the baud rate alone. -/
theorem closeLinux_baudrate (s : SerialPort) : s.closeLinux.baudrate = s.baudrate := by
  have hsys : ∀ (fd : ℤ) (s : SerialPort), (s.sysClose fd).baudrate = s.baudrate := by
    intro fd s
    unfold sysClose
    split <;> rfl
  unfold closeLinux
  simp only [hsys]

/-- And so does `open`. -/
theorem openLinux_baudrate (gnuc : Bool) (o : OpenOutcome) (s : SerialPort) :
    (s.openLinux gnuc o).2.baudrate = s.baudrate := by
  have hopening : (s.opening (.linux gnuc) o).baudrate = s.baudrate := by
    unfold opening
    split
    · exact closeLinux_baudrate s
    · rfl
  change (s.open (.linux gnuc) o).2.baudrate = _
  rcases s.open_cases (.linux gnuc) o with ⟨-, hopen⟩ | hopen | ⟨hmac, -⟩ | ⟨-, hopen⟩
  · rw [hopen]
    exact hopening
  · rw [hopen]
    exact (closeLinux_baudrate _).trans hopening
  · cases hmac
  · rw [hopen]
    exact hopening

end SerialPort

namespace SerialRxtx

/-- `close` does to the descriptors what it does in `SerialPort`. -/
@[simp] theorem close_port (s : SerialRxtx) : s.close.port = s.port.closeLinux := rfl

@[simp] theorem issue_port (calls : List PortCall) (s : SerialRxtx) :
    (s.issue calls).port = s.port := rfl

@[simp] theorem issue_calls (calls : List PortCall) (s : SerialRxtx) :
    (s.issue calls).calls = s.calls ++ calls := rfl

/-- `clearDTR` leaves the descriptors alone. -/
@[simp] theorem clearDTR_port (s : SerialRxtx) : s.clearDTR.port = s.port := by
  unfold clearDTR
  split <;> rfl

/-- The block that makes the pipe does so by `pipe`. -/
@[simp] theorem makePipe_port (pipe : Option (ℕ × ℕ)) (pipeFlags : ℕ) (s : SerialRxtx) :
    (s.makePipe pipe pipeFlags).port = s.port.sysPipe pipe := by
  unfold makePipe
  simp only
  split <;> rfl

/-- The port in `open`, after `::open`. -/
def opening (o : OpenOutcome) (s : SerialRxtx) : SerialRxtx :=
  (if s.port.isSerialOpened then s.close else s).sysOpen o.fd

/-- It is the port in `SerialPort.open`. -/
theorem opening_port (gnuc : Bool) (o : OpenOutcome) (s : SerialRxtx) :
    (s.opening o).port = s.port.opening (.linux gnuc) o := by
  unfold opening SerialPort.opening
  split <;> rfl

/-- The system calls on the port between `::open` and the block that makes the pipe, as far as
`open` gets. -/
def settings (gnuc : Bool) (o : OpenOutcome) (baudrate : SlU32) (fd : ℤ) : List PortCall :=
  (if gnuc then [.ioctl fd] else [.tcgetattr fd]) ++
    if !gnuc && !termBauds.contains baudrate then []
    else
      (if gnuc then [.ioctl fd] else [.tcsetattr fd]) ++
        if !gnuc && !o.tcsetattr then [] else [.tcflush fd, .fcntl fd]

/-- **How `open` ends**: without a descriptor, by `close`, or with an open port. -/
theorem open_cases (gnuc : Bool) (o : OpenOutcome) (pipeFlags : ℕ) (s : SerialRxtx) :
    let opening := s.opening o
    let set := opening.issue (settings gnuc o opening.port.baudrate opening.port.serialFd)
    let opened := { set with port := { set.port with isSerialOpened := true } }
    (opening.port.serialFd = -1 ∧ s.open gnuc o pipeFlags = (false, opening)) ∨
    (opening.port.serialFd ≠ -1 ∧ s.open gnuc o pipeFlags = (false, set.close)) ∨
    (opening.port.serialFd ≠ -1 ∧
      s.open gnuc o pipeFlags = (true, opened.clearDTR.makePipe o.pipe pipeFlags)) := by
  intro opening set opened
  have hopen : s.open gnuc o pipeFlags =
      if opening.port.serialFd = -1 then (false, opening)
      else if !gnuc && !termBauds.contains opening.port.baudrate then (false, set.close)
      else if !gnuc && !o.tcsetattr then (false, set.close)
      else if !o.fcntl then (false, set.close)
      else (true, opened.clearDTR.makePipe o.pipe pipeFlags) := by
    have hdef : s.opening o = opening := rfl
    unfold «open»
    simp only [SerialRxtx.opening] at hdef
    simp only [hdef]
    cases gnuc with
    | true => simp [opened, set, settings, issue, List.append_assoc]
    | false =>
      cases hbaud : termBauds.contains opening.port.baudrate <;>
      cases hattr : o.tcsetattr <;>
        simp only [opened, set, settings, hbaud, hattr, issue, Bool.not_false, Bool.not_true,
          Bool.true_and, Bool.false_eq_true, reduceIte, List.append_assoc, List.append_nil]
  rw [hopen]
  by_cases hfd : opening.port.serialFd = -1
  · rw [if_pos hfd]
    exact .inl ⟨hfd, rfl⟩
  · rw [if_neg hfd]
    right
    split
    · exact .inl ⟨hfd, rfl⟩
    · split
      · exact .inl ⟨hfd, rfl⟩
      · split
        · exact .inl ⟨hfd, rfl⟩
        · exact .inr ⟨hfd, rfl⟩

/-- `open` does to the descriptors what it does in `SerialPort`. -/
theorem open_port (gnuc : Bool) (o : OpenOutcome) (pipeFlags : ℕ) (s : SerialRxtx) :
    (s.open gnuc o pipeFlags).1 = (s.port.openLinux gnuc o).1 ∧
      (s.open gnuc o pipeFlags).2.port = (s.port.openLinux gnuc o).2 := by
  have hport := s.opening_port gnuc o
  unfold opening SerialPort.opening at hport
  unfold «open» SerialPort.openLinux
  simp only
  change _ = (if s.port.isSerialOpened = true then s.port.closeLinux else s.port).sysOpen o.fd
    at hport
  rw [← hport]
  generalize sysOpen o.fd (if s.port.isSerialOpened = true then s.close else s) = opening
  split
  · exact ⟨rfl, rfl⟩
  · cases gnuc with
    | true =>
      simp only [Bool.not_true, Bool.false_and, Bool.false_eq_true, reduceIte]
      split
      · exact ⟨rfl, rfl⟩
      · exact ⟨rfl, by simp⟩
    | false =>
      simp only [Bool.not_false, Bool.true_and, Bool.false_eq_true, reduceIte, issue_port]
      split
      · exact ⟨rfl, rfl⟩
      · split
        · exact ⟨rfl, rfl⟩
        · split
          · exact ⟨rfl, rfl⟩
          · exact ⟨rfl, by simp⟩

end SerialRxtx

/-- After the calls `past`, a call is given only descriptors that were obtained and not released.
The exception is `FD_ISSET` of -1 by a wait on a port for which no pipe could be made. -/
def PortCall.Sound (past : List PortCall) (call : PortCall) : Prop :=
  ∀ fd ∈ call.descriptors, fdHandles.Live (past.filterMap PortCall.fdCall?) fd ∨
    call = .fdIsset (-1) ∧ PortCall.fdCall (.pipe none) ∈ past

namespace SerialRxtx

/-- The log has the calls of `SerialPort`, and all its calls are sound. -/
structure Tracked (s : SerialRxtx) : Prop where
  recorded : s.calls.filterMap PortCall.fdCall? = s.port.sysCalls
  sound : EachAfter PortCall.Sound [] s.calls

/-- A call that neither opens nor closes is given descriptors from the members, or is `FD_ISSET`
of -1 by a port without a pipe. -/
def Uses (s : SerialRxtx) (call : PortCall) : Prop :=
  call.fdCall? = none ∧ ∀ fd ∈ call.descriptors, fd ∈ s.port.held ∨
    call = .fdIsset (-1) ∧ PortCall.fdCall (.pipe none) ∈ s.calls

/-- A member that has a descriptor. -/
theorem mem_fds {fd : ℤ} (h : fd ≠ -1) : fd ∈ SerialPort.fds fd := by
  unfold SerialPort.fds
  rw [if_neg h]
  exact List.mem_singleton_self fd

/-- `serial_fd` is held. -/
theorem serialFd_held {port : SerialPort} (h : port.serialFd ≠ -1) : port.serialFd ∈ port.held :=
  List.mem_append_left _ (mem_fds h)

/-- Both ends of the pipe are held. -/
theorem selfpipe_held (port : SerialPort) :
    (port.selfpipe.1 ≠ -1 → port.selfpipe.1 ∈ port.held) ∧
      (port.selfpipe.2 ≠ -1 → port.selfpipe.2 ∈ port.held) :=
  ⟨fun h => List.mem_append_right _ (List.mem_append_left _ (mem_fds h)),
    fun h => List.mem_append_right _ (List.mem_append_right _ (mem_fds h))⟩

/-- A call on a descriptor that is held. -/
theorem uses_of_held {s : SerialRxtx} {call : PortCall} {fd : ℤ} (hnone : call.fdCall? = none)
    (hfds : call.descriptors = [fd]) (hheld : fd ∈ s.port.held) : s.Uses call := by
  refine ⟨hnone, fun fd' hmem => .inl ?_⟩
  rw [hfds, List.mem_singleton] at hmem
  rwa [hmem]

/-- Calls with descriptors from the members are sound. -/
theorem Tracked.issue {s : SerialRxtx} (h : s.Tracked)
    (hcustody : fdHandles.Custody s.port.sysCalls s.port.held) {calls : List PortCall}
    (hcalls : ∀ call ∈ calls, s.Uses call) : (s.issue calls).Tracked := by
  induction calls generalizing s with
  | nil =>
    unfold SerialRxtx.issue
    rw [List.append_nil]
    exact h
  | cons call calls ih =>
    obtain ⟨hcall, hrest⟩ := List.forall_mem_cons.mp hcalls
    obtain ⟨hfd, hheld⟩ := hcall
    have hone : (s.issue [call]).Tracked := by
      refine ⟨?_, ?_⟩
      · rw [issue_calls, List.filterMap_append, h.recorded]
        simp [hfd]
      · rw [issue_calls, eachAfter_append]
        refine ⟨h.sound, ?_, trivial⟩
        intro fd hmem
        rw [List.nil_append, h.recorded]
        rcases hheld fd hmem with hown | hnone
        · exact .inl (hcustody.live hown)
        · exact .inr hnone
    have htail := ih hone hcustody (fun c hc => by
      obtain ⟨hnone, hfds⟩ := hrest c hc
      refine ⟨hnone, fun fd hmem => ?_⟩
      rcases hfds fd hmem with hown | ⟨hisset, hpipe⟩
      · exact .inl hown
      · exact .inr ⟨hisset, List.mem_append_left _ hpipe⟩)
    have hsplit : s.issue (call :: calls) = (s.issue [call]).issue calls := by
      unfold SerialRxtx.issue
      simp
    rw [hsplit]
    exact htail

/-- `::close` of an owned descriptor is sound. -/
theorem Tracked.sysClose {s : SerialRxtx} (h : s.Tracked) {fd : ℤ} {rest : List ℤ}
    (hcustody : fdHandles.Custody s.port.sysCalls (SerialPort.fds fd ++ rest)) :
    (s.sysClose fd).Tracked := by
  unfold SerialRxtx.sysClose SerialPort.sysClose
  by_cases hfd : fd = -1
  · simp only [hfd, ne_eq, not_true_eq_false, if_false, List.append_nil]
    exact h
  · simp only [ne_eq, hfd, not_false_eq_true, if_true]
    refine ⟨?_, ?_⟩
    · simp only [List.filterMap_append, h.recorded]
      rfl
    · simp only [eachAfter_append]
      refine ⟨h.sound, ?_, trivial⟩
      intro fd' hmem
      obtain rfl : fd' = fd := List.mem_singleton.mp hmem
      rw [List.nil_append, h.recorded]
      exact .inl (hcustody.live (List.mem_append_left _ (mem_fds hfd)))

/-- `close` closes what the members have. -/
theorem Tracked.close {s : SerialRxtx} (h : s.Tracked)
    (hcustody : fdHandles.Custody s.port.sysCalls s.port.held) : s.close.Tracked := by
  have hserial := h.sysClose hcustody
  have hcustody₁ := SerialPort.custody_sysClose hcustody
  have hread := Tracked.sysClose
    (s := { s.sysClose s.port.serialFd with
      port := { (s.sysClose s.port.serialFd).port with serialFd := -1 } })
    ⟨hserial.recorded, hserial.sound⟩ hcustody₁
  have hcustody₂ := SerialPort.custody_sysClose
    (s := { s.port.sysClose s.port.serialFd with serialFd := -1 }) hcustody₁
  rw [← List.append_nil (SerialPort.fds s.port.selfpipe.2)] at hcustody₂
  have hwrite := hread.sysClose hcustody₂
  unfold SerialRxtx.close
  simp only [SerialRxtx.sysClose, SerialPort.sysClose_selfpipe] at hwrite ⊢
  exact ⟨hwrite.recorded, hwrite.sound⟩

/-- `::open` and `pipe` are given no descriptors. -/
theorem Tracked.obtain {s : SerialRxtx} (h : s.Tracked) {port : SerialPort} {call : FdCall}
    (hcall : (PortCall.fdCall call).descriptors = [])
    (hport : port.sysCalls = s.port.sysCalls ++ [call]) :
    Tracked { s with port := port, calls := s.calls ++ [.fdCall call] } := by
  refine ⟨?_, ?_⟩
  · simp only [List.filterMap_append, h.recorded, hport]
    rfl
  · simp only [eachAfter_append]
    refine ⟨h.sound, ?_, trivial⟩
    intro fd hmem
    rw [hcall] at hmem
    cases hmem

/-- After `::open` the port has at most one descriptor. -/
theorem opening_tracked {gnuc : Bool} {s : SerialRxtx} (h : s.Tracked)
    (howned : s.port.Owned (.linux gnuc)) (o : OpenOutcome) :
    (s.opening o).Tracked ∧
      fdHandles.Custody (s.opening o).port.sysCalls (s.opening o).port.held ∧
      (s.opening o).port.selfpipe = (-1, -1) := by
  have hbefore : (if s.port.isSerialOpened then s.close else s).Tracked ∧
      (if s.port.isSerialOpened then s.close else s).port.Free := by
    split
    · exact ⟨h.close howned.custody, SerialPort.free_close howned.custody howned.noPipe⟩
    · next hclosed => exact ⟨h, howned.free_of_closed (by simpa using hclosed)⟩
  obtain ⟨htracked, hfree⟩ := hbefore
  unfold opening
  generalize (if s.port.isSerialOpened then s.close else s) = s₀ at htracked hfree
  have hcustody := SerialPort.custody_sysOpen hfree o.fd
  have hpipe : (s₀.port.sysOpen o.fd).selfpipe = (-1, -1) := hfree.selfpipe
  have hheld : (s₀.port.sysOpen o.fd).held =
      SerialPort.fds (s₀.port.sysOpen o.fd).serialFd := by
    simp [SerialPort.held, hpipe, SerialPort.fds]
  refine ⟨htracked.obtain rfl rfl, ?_, hpipe⟩
  change fdHandles.Custody (s₀.port.sysOpen o.fd).sysCalls (s₀.port.sysOpen o.fd).held
  rw [hheld]
  exact hcustody

/-- The calls that set up a port are given `serial_fd`. -/
theorem settings_uses {s : SerialRxtx} (hfd : s.port.serialFd ≠ -1) (gnuc : Bool)
    (o : OpenOutcome) (baudrate : SlU32) :
    ∀ call ∈ settings gnuc o baudrate s.port.serialFd, s.Uses call := by
  intro call hcall
  unfold settings at hcall
  have hmem : call = .ioctl s.port.serialFd ∨ call = .tcgetattr s.port.serialFd ∨
      call = .tcsetattr s.port.serialFd ∨ call = .tcflush s.port.serialFd ∨
      call = .fcntl s.port.serialFd := by
    rcases List.mem_append.mp hcall with hfirst | hrest
    · cases gnuc <;> simp_all
    · split at hrest
      · cases hrest
      · rcases List.mem_append.mp hrest with hset | hlast
        · cases gnuc <;> simp_all
        · split at hlast
          · cases hlast
          · simp only [List.mem_cons, List.not_mem_nil, or_false] at hlast
            tauto
  rcases hmem with rfl | rfl | rfl | rfl | rfl <;>
    exact uses_of_held rfl rfl (serialFd_held hfd)

/-- The block that makes the pipe keeps the log sound, and a port for which it has made none has
called `pipe` in vain. -/
theorem Tracked.makePipe {s : SerialRxtx} (h : s.Tracked)
    (hcustody : fdHandles.Custody s.port.sysCalls s.port.held)
    (hpipe : s.port.selfpipe = (-1, -1)) (pipe : Option (ℕ × ℕ)) (pipeFlags : ℕ) :
    (s.makePipe pipe pipeFlags).Tracked ∧
      ((s.makePipe pipe pipeFlags).port.selfpipe.1 = -1 →
        PortCall.fdCall (.pipe none) ∈ (s.makePipe pipe pipeFlags).calls) := by
  have hmade : Tracked { s with
      port := s.port.sysPipe pipe, calls := s.calls ++ [.fdCall (.pipe pipe)] } :=
    h.obtain rfl rfl
  unfold SerialRxtx.makePipe
  cases pipe with
  | none => exact ⟨hmade, fun _ => List.mem_append_right _ (List.mem_singleton_self _)⟩
  | some pipe =>
    have hheld : s.port.held = SerialPort.fds s.port.serialFd := by
      simp [SerialPort.held, hpipe, SerialPort.fds]
    rw [hheld] at hcustody
    have hcustody' := SerialPort.custody_sysPipe hcustody hpipe (some pipe)
    refine ⟨?_, fun hnone => ?_⟩
    · apply hmade.issue hcustody'
      intro call hcall
      obtain ⟨hread, hwrite⟩ := selfpipe_held (s.port.sysPipe (some pipe))
      have hread' := hread (by simp [SerialPort.sysPipe])
      have hwrite' := hwrite (by simp [SerialPort.sysPipe])
      have hmem := List.mem_of_mem_take hcall
      simp only [List.mem_cons, List.not_mem_nil, or_false] at hmem
      rcases hmem with rfl | rfl | rfl | rfl
      · exact uses_of_held rfl rfl hread'
      · exact uses_of_held rfl rfl hread'
      · exact uses_of_held rfl rfl hwrite'
      · exact uses_of_held rfl rfl hwrite'
    · have hneg : ((pipe.1 : ℤ)) = -1 := hnone
      omega

/-- The log is sound and the members have what is owned. An open port has a descriptor, and a pipe
unless none could be made. -/
structure Inv (gnuc isOpen : Bool) (s : SerialRxtx) : Prop where
  tracked : s.Tracked
  owned : s.port.Owned (.linux gnuc)
  opened : s.port.isSerialOpened = isOpen
  serial : isOpen = true → s.port.serialFd ≠ -1
  piped : isOpen = true → s.port.selfpipe.1 = -1 → PortCall.fdCall (.pipe none) ∈ s.calls

/-- A new port. -/
theorem inv_new (gnuc : Bool) : (new gnuc).Inv gnuc false where
  tracked := ⟨rfl, trivial⟩
  owned := SerialPort.Free.owned ⟨Handles.custody_nil, rfl⟩ rfl _
  opened := rfl
  serial := nofun
  piped := nofun

/-- `open` keeps the invariant, and leaves the port open if it returns true. -/
theorem Inv.open {gnuc isOpen : Bool} {s : SerialRxtx} (h : s.Inv gnuc isOpen) (o : OpenOutcome)
    (pipeFlags : ℕ) : (s.open gnuc o pipeFlags).2.Inv gnuc (s.open gnuc o pipeFlags).1 := by
  have howned : (s.open gnuc o pipeFlags).2.port.Owned (.linux gnuc) := by
    rw [(s.open_port gnuc o pipeFlags).2]
    apply @SerialPort.owned_open (.linux gnuc)
    split
    · exact SerialPort.free_close h.owned.custody h.owned.noPipe
    · next hclosed => exact h.owned.free_of_closed (by simpa using hclosed)
  obtain ⟨htracked, hcustody, hpipe⟩ := opening_tracked h.tracked h.owned o
  rcases open_cases gnuc o pipeFlags s with ⟨hfd, hopen⟩ | ⟨hfd, hopen⟩ | ⟨hfd, hopen⟩
  · rw [hopen] at howned ⊢
    have hclosed : (s.opening o).port.isSerialOpened = false := by
      unfold opening
      split
      · rfl
      · next hclosed =>
        change s.port.isSerialOpened = false
        simpa using hclosed
    exact ⟨htracked, howned, hclosed, nofun, nofun⟩
  · rw [hopen] at howned ⊢
    have hset := htracked.issue hcustody
      (settings_uses hfd gnuc o (s.opening o).port.baudrate)
    exact ⟨hset.close hcustody, howned, rfl, nofun, nofun⟩
  · rw [hopen] at howned ⊢
    have hset := htracked.issue hcustody
      (settings_uses hfd gnuc o (s.opening o).port.baudrate)
    set set := (s.opening o).issue
      (settings gnuc o (s.opening o).port.baudrate (s.opening o).port.serialFd)
    have hdtr : SerialRxtx.clearDTR
        { set with port := { set.port with isSerialOpened := true } } =
        { set with
          port := { set.port with isSerialOpened := true }
          calls := set.calls ++ [.ioctl set.port.serialFd] } := rfl
    have hopened : Tracked { set with port := { set.port with isSerialOpened := true } } :=
      ⟨hset.recorded, hset.sound⟩
    have huses : ∀ call ∈ [PortCall.ioctl set.port.serialFd],
        Uses { set with port := { set.port with isSerialOpened := true } } call := by
      intro call hcall
      rw [List.mem_singleton.mp hcall]
      exact uses_of_held rfl rfl (serialFd_held hfd)
    have hcleared := hopened.issue hcustody huses
    obtain ⟨hmade, hpiped⟩ := hcleared.makePipe hcustody hpipe o.pipe pipeFlags
    refine ⟨hmade, howned, ?_, fun _ => ?_, fun _ => hpiped⟩
    · rw [makePipe_port]
      rfl
    · rw [makePipe_port]
      exact hfd

/-- `close` keeps the invariant. -/
theorem Inv.close {gnuc isOpen : Bool} {s : SerialRxtx} (h : s.Inv gnuc isOpen) :
    s.close.Inv gnuc false where
  tracked := h.tracked.close h.owned.custody
  owned := @SerialPort.owned_close (.linux gnuc) _ h.owned.custody h.owned.noPipe
  opened := rfl
  serial := nofun
  piped := nofun

/-- Calls with descriptors from the members keep the invariant. -/
theorem Inv.issue {gnuc isOpen : Bool} {s : SerialRxtx} (h : s.Inv gnuc isOpen)
    {calls : List PortCall} (hcalls : ∀ call ∈ calls, s.Uses call) :
    (s.issue calls).Inv gnuc isOpen where
  tracked := h.tracked.issue h.owned.custody hcalls
  owned := h.owned
  opened := h.opened
  serial := h.serial
  piped hopen hnone := List.mem_append_left _ (h.piped hopen hnone)

/-- A call on `serial_fd` of an open port. -/
theorem Inv.uses_serialFd {gnuc : Bool} {s : SerialRxtx} (h : s.Inv gnuc true) {call : PortCall}
    (hnone : call.fdCall? = none) (hfds : call.descriptors = [s.port.serialFd]) :
    s.Uses call := uses_of_held hnone hfds (serialFd_held (h.serial rfl))

/-- The calls in the loop of `senddata` are calls of `::write`. -/
theorem sendCalls_eq (fd : ℤ) (size : ℕ) (answers : List (SysResult ℕ)) (txLen : ℕ) :
    ∀ call ∈ sendCalls fd size answers txLen, call = .write fd := by
  induction answers generalizing txLen with
  | nil =>
    intro call hcall
    exact List.mem_singleton.mp hcall
  | cons ans answers ih =>
    intro call hcall
    cases ans with
    | error block => exact List.mem_singleton.mp hcall
    | ok room =>
      unfold sendCalls at hcall
      rcases List.mem_cons.mp hcall with rfl | hrest
      · rfl
      · split at hrest
        · exact ih _ call hrest
        · cases hrest

/-- The calls of one round of the loop of `waitfordata`, and of the rounds after it. The set is
never given the pipe again. -/
theorem mem_loopCalls_cons {port : SerialPort} {dataCount : ℕ} {round : WaitRound}
    {rounds : List WaitRound} {inputSet : FdSet} {timeoutVal : ℕ} {tty : Tty} {call : PortCall}
    (h : call ∈ loopCalls port dataCount (round :: rounds) inputSet timeoutVal tty) :
    call = .wait (.select inputSet timeoutVal) (setFds port inputSet) ∨
    call = .fdIsset port.selfpipe.1 ∨
    call = .ioctl port.serialFd ∨
    (inputSet.selfpipe = true ∧ call = .drain port.selfpipe.1) ∨
    (∃ time, call = .wait (.usleep time) []) ∨
    ∃ set remaining tty', (set.selfpipe = true → inputSet.selfpipe = true) ∧
      call ∈ loopCalls port dataCount rounds set remaining tty' := by
  unfold loopCalls at h
  split at h
  · cases h
  simp only at h
  split at h
  · exact .inl (List.mem_singleton.mp h)
  · exact .inl (List.mem_singleton.mp h)
  next set remaining hready =>
  have hkept : (inputSet.inter set).selfpipe = true → inputSet.selfpipe = true := by
    intro hin
    unfold FdSet.inter at hin
    exact ((Bool.and_eq_true _ _).mp hin).1
  split at h
  · next hin =>
    simp only [List.mem_cons, List.not_mem_nil, or_false] at h
    rcases h with h | h | h
    · exact .inl h
    · exact .inr (.inl h)
    · exact .inr (.inr (.inr (.inl ⟨hkept hin, h⟩)))
  · rcases List.mem_append.mp h with hround | hrest
    · simp only [List.mem_cons, List.not_mem_nil, or_false] at hround
      rcases hround with h | h | h
      · exact .inl h
      · exact .inr (.inl h)
      · exact .inr (.inr (.inl h))
    · right; right; right; right
      split at hrest
      · cases hrest
      · split at hrest
        · cases hrest
        · split at hrest
          · cases hrest
          · rcases List.mem_append.mp hrest with hpause | hloop
            · obtain ⟨time, -, hcall⟩ : ∃ time, pause _ _ _ = some time ∧
                  PortCall.wait (.usleep time) [] = call := by
                simpa using hpause
              exact .inl ⟨time, hcall.symm⟩
            · exact .inr ⟨_, _, _, hkept, hloop⟩

/-- A call of `::select` is given descriptors of an open port: the set has the pipe only if there
is one. -/
theorem Inv.uses_select {gnuc : Bool} {s : SerialRxtx} (h : s.Inv gnuc true) {set : FdSet}
    (hset : set.selfpipe = true → s.port.selfpipe.1 ≠ -1) (call : WaitCall) :
    s.Uses (.wait call (setFds s.port set)) := by
  refine ⟨rfl, fun fd hmem => .inl ?_⟩
  unfold PortCall.descriptors setFds at hmem
  rcases List.mem_append.mp hmem with hserial | hpipe
  · split at hserial
    · rw [List.mem_singleton.mp hserial]
      exact serialFd_held (h.serial rfl)
    · cases hserial
  · split at hpipe
    · next hin =>
      rw [List.mem_singleton.mp hpipe]
      exact (selfpipe_held s.port).1 (hset hin)
    · cases hpipe

/-- `FD_ISSET` is given the pipe, or -1 after `pipe` has failed. -/
theorem Inv.uses_fdIsset {gnuc : Bool} {s : SerialRxtx} (h : s.Inv gnuc true) :
    s.Uses (.fdIsset s.port.selfpipe.1) := by
  refine ⟨rfl, fun fd hmem => ?_⟩
  rw [List.mem_singleton.mp hmem]
  by_cases hpipe : s.port.selfpipe.1 = -1
  · exact .inr ⟨by rw [hpipe], h.piped rfl hpipe⟩
  · exact .inl ((selfpipe_held s.port).1 hpipe)

/-- The calls in the loop of `waitfordata` are given descriptors of an open port. -/
theorem Inv.uses_loopCalls {gnuc : Bool} {s : SerialRxtx} (h : s.Inv gnuc true)
    (dataCount : ℕ) (rounds : List WaitRound) {inputSet : FdSet}
    (hset : inputSet.selfpipe = true → s.port.selfpipe.1 ≠ -1) (timeoutVal : ℕ) (tty : Tty) :
    ∀ call ∈ loopCalls s.port dataCount rounds inputSet timeoutVal tty, s.Uses call := by
  induction rounds generalizing inputSet timeoutVal tty with
  | nil =>
    intro call hcall
    unfold loopCalls at hcall
    split at hcall
    · cases hcall
    · rw [List.mem_singleton.mp hcall]
      exact h.uses_select hset _
  | cons round rounds ih =>
    intro call hcall
    rcases mem_loopCalls_cons hcall with rfl | rfl | rfl | ⟨hin, rfl⟩ | ⟨time, rfl⟩ |
      ⟨set, remaining, tty', hkept, hrest⟩
    · exact h.uses_select hset _
    · exact h.uses_fdIsset
    · exact h.uses_serialFd rfl rfl
    · exact uses_of_held rfl rfl ((selfpipe_held s.port).1 (hset hin))
    · refine ⟨rfl, fun fd hmem => ?_⟩
      cases hmem
    · exact ih (fun hin => hset (hkept hin)) _ _ call hrest

/-- The calls of `waitfordata` on an open port. -/
theorem Inv.uses_waitCalls {gnuc : Bool} {s : SerialRxtx} (h : s.Inv gnuc true) (dataCount : ℕ)
    (timeout : SlU32) (arriving : List SlU8) (ioctlOk : Bool) (rounds : List WaitRound)
    (tty : Tty) :
    ∀ call ∈ waitCalls s.port dataCount timeout arriving ioctlOk rounds tty, s.Uses call := by
  have hset : (⟨true, s.port.selfpipe.1 != -1⟩ : FdSet).selfpipe = true →
      s.port.selfpipe.1 ≠ -1 := by simp
  intro call hcall
  unfold waitCalls at hcall
  rw [List.cons_append, List.mem_cons, List.mem_append] at hcall
  rcases hcall with rfl | hpipe | hrest
  · exact h.uses_serialFd rfl rfl
  · split at hpipe
    · next hin =>
      rw [List.mem_singleton.mp hpipe]
      exact uses_of_held rfl rfl ((selfpipe_held s.port).1 (by simpa using hin))
    · cases hpipe
  · split at hrest
    · exact h.uses_loopCalls dataCount rounds hset _ _ call hrest
    · rcases List.mem_cons.mp hrest with rfl | hloop
      · exact h.uses_serialFd rfl rfl
      · split at hloop
        · cases hloop
        · split at hloop
          · cases hloop
          · exact h.uses_loopCalls dataCount rounds hset _ _ call hloop

/-- `cancelOperation` writes into the pipe. -/
theorem Inv.cancelOperation {gnuc isOpen : Bool} {s : SerialRxtx} (h : s.Inv gnuc isOpen) :
    s.cancelOperation.Inv gnuc isOpen := by
  unfold SerialRxtx.cancelOperation
  split
  · exact h
  · next hpipe =>
    apply h.issue
    intro call hcall
    rw [List.mem_singleton.mp hcall]
    exact uses_of_held rfl rfl ((selfpipe_held s.port).2 hpipe)

end SerialRxtx

end Slamkit
