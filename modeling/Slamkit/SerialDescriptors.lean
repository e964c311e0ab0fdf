import Slamkit.Library.Handles
import Slamkit.Library.Run
import Slamkit.Protocol

/-!
# The descriptors of a serial port

`raw_serial` keeps the descriptor of the port and those of its pipe in members, and -1 where it
has none. This is `net_serial.cpp` for Linux and for macOS, as far as descriptors are opened and
closed. What the system calls of `open` return stays a parameter.
-/

namespace Slamkit

open Library

/-- A system call that opens or closes descriptors, with what it returns. -/
inductive FdCall where
  /-- `::open`; without a descriptor it has returned -1. -/
  | «open» (portname : List SlU8) (fd : Option ℕ)
  /-- `pipe`; without descriptors it has returned -1. -/
  | pipe (fds : Option (ℕ × ℕ))
  /-- `::close`. -/
  | close (fd : ℤ)
  deriving DecidableEq

/-- Descriptors are obtained by `::open` and `pipe`, and released by `::close`. -/
def fdHandles : Handles FdCall ℤ where
  obtained
    | .open _ fd => (fd.map Int.ofNat).toList
    | .pipe (some (r, w)) => [(r : ℤ), (w : ℤ)]
    | .pipe none | .close _ => []
  released
    | .close fd => some fd
    | .open _ _ | .pipe _ => none

/-- The members of `raw_serial` that have to do with descriptors, and the system calls made so
far, oldest first. On macOS there is no pipe, and `selfpipe` stays as it is. -/
structure SerialPort where
  portName : List SlU8
  baudrate : SlU32
  flags : SlU32
  serialFd : ℤ
  selfpipe : ℤ × ℤ
  isSerialOpened : Bool
  sysCalls : List FdCall
  deriving DecidableEq

/-- The results of the system calls of one `open`. On Linux the results of `ioctl` are not looked
at, and those of `fcntl` on the pipe only end the block that makes the pipe. -/
structure OpenOutcome where
  /-- `::open`. -/
  fd : Option ℕ
  /-- `tcsetattr` succeeds. -/
  tcsetattr : Bool
  /-- `ioctl` with `IOSSIOSPEED` succeeds. -/
  ioctl : Bool
  /-- `fcntl` on the port succeeds. -/
  fcntl : Bool
  /-- `pipe`. -/
  pipe : Option (ℕ × ℕ)
  deriving DecidableEq

/-- The baud rates that `getTermBaudBitmap` knows. -/
def termBauds : List SlU32 :=
  [1200, 1800, 2400, 4800, 9600, 19200, 38400, 57600, 115200, 230400, 460800, 500000, 576000,
    921600, 1000000, 1152000, 1500000, 2000000, 2500000, 3000000, 3500000, 4000000]

/-- The implementations; the one for Linux depends on whether the compiler is GNU C. -/
inductive SerialArch where
  | linux (gnuc : Bool)
  | macOS
  deriving DecidableEq

namespace SerialPort

/-- `::open`, whose result goes into `serial_fd`. -/
def sysOpen (fd : Option ℕ) (s : SerialPort) : SerialPort :=
  { s with
    serialFd := fd.elim (-1) Int.ofNat
    sysCalls := s.sysCalls ++ [.open s.portName fd] }

/-- `pipe`, which leaves the array alone if it fails. -/
def sysPipe (fds : Option (ℕ × ℕ)) (s : SerialPort) : SerialPort :=
  { s with
    selfpipe := fds.elim s.selfpipe fun fds => ((fds.1 : ℤ), (fds.2 : ℤ))
    sysCalls := s.sysCalls ++ [.pipe fds] }

/-- `::close` of a descriptor that is not -1. -/
def sysClose (fd : ℤ) (s : SerialPort) : SerialPort :=
  if fd ≠ -1 then { s with sysCalls := s.sysCalls ++ [.close fd] } else s

/-- `_init`. -/
def initLinux (s : SerialPort) : SerialPort :=
  { s with serialFd := -1, portName := [], selfpipe := (-1, -1) }

/-- `close`. -/
def closeLinux (s : SerialPort) : SerialPort :=
  let s := s.sysClose s.serialFd
  let s := { s with serialFd := -1 }
  let s := s.sysClose s.selfpipe.1
  let s := s.sysClose s.selfpipe.2
  let s := { s with selfpipe := (-1, -1) }
  { s with isSerialOpened := false }

/-- `open`. -/
def openLinux (gnuc : Bool) (o : OpenOutcome) (s : SerialPort) : Bool × SerialPort :=
  let s := if s.isSerialOpened then s.closeLinux else s
  let s := s.sysOpen o.fd
  if s.serialFd = -1 then (false, s)
  else if !gnuc && !termBauds.contains s.baudrate then (false, s.closeLinux)
  else if !gnuc && !o.tcsetattr then (false, s.closeLinux)
  else if !o.fcntl then (false, s.closeLinux)
  else
    let s := { s with isSerialOpened := true }
    (true, s.sysPipe o.pipe)

/-- `_init`. -/
def initMacOS (s : SerialPort) : SerialPort := { s with serialFd := 0, portName := [] }

/-- `close`. -/
def closeMacOS (s : SerialPort) : SerialPort :=
  let s := s.sysClose s.serialFd
  let s := { s with serialFd := -1 }
  { s with isSerialOpened := false }

/-- `open`. -/
def openMacOS (o : OpenOutcome) (s : SerialPort) : Bool × SerialPort :=
  let s := if s.isSerialOpened then s.closeMacOS else s
  let s := s.sysOpen o.fd
  if s.serialFd = -1 then (false, s)
  else if !o.tcsetattr then (false, s.closeMacOS)
  else if !o.ioctl then (false, s.closeMacOS)
  else (true, { s with isSerialOpened := true })

/-- The constructor. -/
def new (arch : SerialArch) : SerialPort :=
  let s : SerialPort := ⟨[], 0, 0, -1, (-1, -1), false, []⟩
  match arch with
  | .linux _ => s.initLinux
  | .macOS => s.initMacOS

/-- `bind`. `strncpy` copies as much of the name as `_portName` holds. -/
def bind (portname : List SlU8) (baudrate flags : SlU32) (s : SerialPort) : Bool × SerialPort :=
  (true, { s with portName := portname.take 200, baudrate := baudrate, flags := flags })

/-- `open`. -/
def «open» (arch : SerialArch) (o : OpenOutcome) (s : SerialPort) : Bool × SerialPort :=
  match arch with
  | .linux gnuc => s.openLinux gnuc o
  | .macOS => s.openMacOS o

/-- `close`. -/
def close (arch : SerialArch) (s : SerialPort) : SerialPort :=
  match arch with
  | .linux _ => s.closeLinux
  | .macOS => s.closeMacOS

/-- The descriptor in a member. -/
def fds (fd : ℤ) : List ℤ := if fd = -1 then [] else [fd]

/-- The descriptors in the members. -/
def held (s : SerialPort) : List ℤ := fds s.serialFd ++ (fds s.selfpipe.1 ++ fds s.selfpipe.2)

/-- Nothing is owned, whatever `serial_fd` is. -/
structure Free (s : SerialPort) : Prop where
  custody : fdHandles.Custody s.sysCalls []
  selfpipe : s.selfpipe = (-1, -1)

/-- The members have what is owned, and nothing is owned while the port is not open. -/
structure Owned (s : SerialPort) (arch : SerialArch) : Prop where
  custody : fdHandles.Custody s.sysCalls s.held
  free : s.isSerialOpened = false → s.held = [] ∧ s.selfpipe = (-1, -1)
  noPipe : arch = .macOS → s.selfpipe = (-1, -1)

@[simp] theorem sysClose_serialFd (fd : ℤ) (s : SerialPort) :
    (s.sysClose fd).serialFd = s.serialFd := by
  unfold sysClose
  split <;> rfl

@[simp] theorem sysClose_selfpipe (fd : ℤ) (s : SerialPort) :
    (s.sysClose fd).selfpipe = s.selfpipe := by
  unfold sysClose
  split <;> rfl

/-- `::close` of an owned descriptor. -/
theorem custody_sysClose {s : SerialPort} {fd : ℤ} {rest : List ℤ}
    (h : fdHandles.Custody s.sysCalls (fds fd ++ rest)) :
    fdHandles.Custody (s.sysClose fd).sysCalls rest := by
  unfold sysClose
  unfold fds at h
  by_cases hfd : fd = -1
  · rw [if_pos hfd, List.nil_append] at h
    rw [if_neg (not_not_intro hfd)]
    exact h
  · rw [if_neg hfd] at h
    rw [if_pos hfd]
    exact h.releases rfl rfl

/-- `::open`, by a port that owns nothing. -/
theorem custody_sysOpen {s : SerialPort} (h : s.Free) (fd : Option ℕ) :
    fdHandles.Custody (s.sysOpen fd).sysCalls (fds (s.sysOpen fd).serialFd) := by
  have hcustody := h.custody.obtains (e := .open s.portName fd) rfl
  cases fd with
  | none => exact hcustody
  | some fd =>
    have hfds : fds (Int.ofNat fd) = [Int.ofNat fd] := if_neg (by simp)
    have hserial : (s.sysOpen (some fd)).serialFd = Int.ofNat fd := rfl
    rw [hserial, hfds]
    exact hcustody

/-- `pipe`, by a port that has only its own descriptor. -/
theorem custody_sysPipe {s : SerialPort} (h : fdHandles.Custody s.sysCalls (fds s.serialFd))
    (hpipe : s.selfpipe = (-1, -1)) (pipe : Option (ℕ × ℕ)) :
    fdHandles.Custody (s.sysPipe pipe).sysCalls (s.sysPipe pipe).held := by
  have hcustody := h.obtains (e := .pipe pipe) rfl
  cases pipe with
  | none =>
    have hheld : (s.sysPipe none).held = fds s.serialFd ++ [] := by
      simp [held, sysPipe, hpipe, fds]
    rw [hheld]
    exact hcustody
  | some pipe =>
    have hfds : ∀ n : ℕ, fds (n : ℤ) = [(n : ℤ)] := fun n => if_neg (by omega)
    have hheld : (s.sysPipe (some pipe)).held =
        fds s.serialFd ++ [(pipe.1 : ℤ), (pipe.2 : ℤ)] := by
      simp [held, sysPipe, hfds]
    rw [hheld]
    exact hcustody

/-- `close` releases what the members have. -/
theorem free_close {arch : SerialArch} {s : SerialPort}
    (h : fdHandles.Custody s.sysCalls s.held)
    (hpipe : arch = .macOS → s.selfpipe = (-1, -1)) : (s.close arch).Free := by
  have hserial := custody_sysClose h
  cases arch with
  | linux gnuc =>
    refine ⟨?_, rfl⟩
    have hread := custody_sysClose (s := { s.sysClose s.serialFd with serialFd := -1 }) hserial
    rw [← List.append_nil (fds s.selfpipe.2)] at hread
    have hwrite := custody_sysClose hread
    simpa [close, closeLinux] using hwrite
  | macOS =>
    have hnone := hpipe rfl
    refine ⟨?_, ?_⟩
    · rw [hnone] at hserial
      exact hserial
    · simpa [close, closeMacOS] using hnone

/-- And marks them so. -/
theorem close_closed (arch : SerialArch) (s : SerialPort) :
    (s.close arch).serialFd = -1 ∧ (s.close arch).isSerialOpened = false := by
  cases arch with
  | linux gnuc => simp [close, closeLinux]
  | macOS => exact ⟨rfl, rfl⟩

/-- A port without descriptors in its members. -/
theorem Free.owned {s : SerialPort} (h : s.Free) (hserial : s.serialFd = -1)
    (arch : SerialArch) : s.Owned arch := by
  have hheld : s.held = [] := by simp [held, fds, hserial, h.selfpipe]
  refine ⟨?_, fun _ => ⟨hheld, h.selfpipe⟩, fun _ => h.selfpipe⟩
  rw [hheld]
  exact h.custody

theorem owned_close {arch : SerialArch} {s : SerialPort}
    (h : fdHandles.Custody s.sysCalls s.held)
    (hpipe : arch = .macOS → s.selfpipe = (-1, -1)) : (s.close arch).Owned arch :=
  (free_close h hpipe).owned (close_closed arch s).1 arch

/-- A closed port owns nothing. -/
theorem Owned.free_of_closed {arch : SerialArch} {s : SerialPort} (h : s.Owned arch)
    (hclosed : s.isSerialOpened = false) : s.Free := by
  obtain ⟨hheld, hpipe⟩ := h.free hclosed
  refine ⟨?_, hpipe⟩
  rw [← hheld]
  exact h.custody

/-- The port in `open`, after `::open`. -/
def opening (arch : SerialArch) (o : OpenOutcome) (s : SerialPort) : SerialPort :=
  (if s.isSerialOpened then s.close arch else s).sysOpen o.fd

/-- **How `open` ends**: without a descriptor, by `close`, or with an open port. -/
theorem open_cases (arch : SerialArch) (o : OpenOutcome) (s : SerialPort) :
    ((s.opening arch o).serialFd = -1 ∧ s.open arch o = (false, s.opening arch o)) ∨
    s.open arch o = (false, (s.opening arch o).close arch) ∨
    (arch = .macOS ∧ s.open arch o = (true, { s.opening arch o with isSerialOpened := true })) ∨
    (arch ≠ .macOS ∧ s.open arch o =
      (true, { s.opening arch o with isSerialOpened := true }.sysPipe o.pipe)) := by
  by_cases hfd : (s.opening arch o).serialFd = -1
  · left
    refine ⟨hfd, ?_⟩
    cases arch with
    | linux gnuc => exact if_pos hfd
    | macOS => exact if_pos hfd
  · right
    cases arch with
    | linux gnuc =>
      have hopen : s.open (.linux gnuc) o =
          if !gnuc && !termBauds.contains (s.opening (.linux gnuc) o).baudrate then
            (false, (s.opening (.linux gnuc) o).close (.linux gnuc))
          else if !gnuc && !o.tcsetattr then
            (false, (s.opening (.linux gnuc) o).close (.linux gnuc))
          else if !o.fcntl then (false, (s.opening (.linux gnuc) o).close (.linux gnuc))
          else (true, { s.opening (.linux gnuc) o with isSerialOpened := true }.sysPipe o.pipe) :=
        if_neg hfd
      rw [hopen]
      split
      · exact .inl rfl
      · split
        · exact .inl rfl
        · split
          · exact .inl rfl
          · exact .inr (.inr ⟨nofun, rfl⟩)
    | macOS =>
      have hopen : s.open .macOS o =
          if !o.tcsetattr then (false, (s.opening .macOS o).close .macOS)
          else if !o.ioctl then (false, (s.opening .macOS o).close .macOS)
          else (true, { s.opening .macOS o with isSerialOpened := true }) := if_neg hfd
      rw [hopen]
      split
      · exact .inl rfl
      · split
        · exact .inl rfl
        · exact .inr (.inl ⟨rfl, rfl⟩)

/-- If nothing is owned when `::open` is called, `open` keeps everything owned. -/
theorem owned_open {arch : SerialArch} {s : SerialPort}
    (h : (if s.isSerialOpened then s.close arch else s).Free) (o : OpenOutcome) :
    (s.open arch o).2.Owned arch := by
  have hcustody := custody_sysOpen h o.fd
  have hpipe : (s.opening arch o).selfpipe = (-1, -1) := h.selfpipe
  have hheld : (s.opening arch o).held = fds (s.opening arch o).serialFd := by
    simp [held, hpipe, fds]
  change fdHandles.Custody (s.opening arch o).sysCalls (fds (s.opening arch o).serialFd)
    at hcustody
  rcases open_cases arch o s with ⟨hfd, hopen⟩ | hopen | ⟨rfl, hopen⟩ | ⟨hlinux, hopen⟩
  · rw [hopen]
    have hnone : fds (s.opening arch o).serialFd = [] := by rw [hfd]; rfl
    rw [hnone] at hcustody
    exact Free.owned ⟨hcustody, hpipe⟩ hfd arch
  · rw [hopen]
    rw [← hheld] at hcustody
    exact owned_close hcustody fun _ => hpipe
  · rw [hopen]
    rw [← hheld] at hcustody
    exact ⟨hcustody, nofun, fun _ => hpipe⟩
  · rw [hopen]
    exact ⟨custody_sysPipe hcustody hpipe o.pipe, nofun, fun hmac => absurd hmac hlinux⟩

end SerialPort

/-- A call of one of the public methods, with the results of its system calls. -/
inductive SerialCall where
  | bind (portname : List SlU8) (baudrate flags : SlU32)
  | «open» (o : OpenOutcome)
  | close
  deriving DecidableEq

/-- The call does something with descriptors. -/
def SerialCall.uses : SerialCall → Bool
  | .bind .. => false
  | .open _ | .close => true

/-- The calls of a life. The destructor calls `close`. -/
def serialHistory (calls : List SerialCall) (destroyed : Bool) : List SerialCall :=
  calls ++ if destroyed then [.close] else []

/-- A log closes only descriptors that are owned, each once, and leaves none of them open if the
port is destroyed. -/
structure OwnsDescriptors (sysCalls : List FdCall) (destroyed : Bool) : Prop where
  closesOwned : EachAfter fdHandles.Allowed [] sysCalls
  nothingLeft : destroyed = true →
    ∀ fd, fdHandles.releasedCount sysCalls fd = fdHandles.obtainedCount sysCalls fd

namespace SerialPort

/-- The port after a call. -/
def step (arch : SerialArch) (s : SerialPort) : SerialCall → SerialPort
  | .bind portname baudrate flags => (s.bind portname baudrate flags).2
  | .open o => (s.open arch o).2
  | .close => s.close arch

/-- The port at the end of its life so far. -/
def lifetime (arch : SerialArch) (calls : List SerialCall) (destroyed : Bool) : SerialPort :=
  (serialHistory calls destroyed).foldl (step arch) (new arch)

/-- Every call keeps everything owned. -/
theorem owned_step {arch : SerialArch} {s : SerialPort} (h : s.Owned arch) (c : SerialCall) :
    (s.step arch c).Owned arch := by
  cases c with
  | bind portname baudrate flags => exact ⟨h.custody, h.free, h.noPipe⟩
  | «open» o =>
    apply owned_open
    cases hopened : s.isSerialOpened with
    | true => exact free_close h.custody h.noPipe
    | false => exact h.free_of_closed hopened
  | close => exact owned_close h.custody h.noPipe

/-- And so does a run. -/
theorem owned_run {arch : SerialArch} {s : SerialPort} (h : s.Owned arch)
    (calls : List SerialCall) : (calls.foldl (step arch) s).Owned arch :=
  invariant_of_foldl (P := fun s : SerialPort => s.Owned arch) (fun _ c hs => owned_step hs c) h
    calls

/-- If the first call that uses descriptors is `open`, then a port that owns nothing has
everything owned afterwards, whatever `serial_fd` was at first. -/
theorem owned_of_first_open {arch : SerialArch} {s : SerialPort} (h : s.Free)
    (hclosed : s.isSerialOpened = false) {calls : List SerialCall} {o : OpenOutcome}
    (hfirst : calls.find? SerialCall.uses = some (.open o)) :
    (calls.foldl (step arch) s).Owned arch := by
  induction calls generalizing s with
  | nil => cases hfirst
  | cons c calls ih =>
    cases c with
    | bind portname baudrate flags =>
      exact ih ⟨h.custody, h.selfpipe⟩ hclosed hfirst
    | «open» o' =>
      have hopened : (s.step arch (.open o')).Owned arch := by
        apply owned_open
        rw [hclosed]
        exact h
      exact owned_run hopened calls
    | close => cases hfirst

/-- Calls of `bind` alone make no system calls. -/
theorem sysCalls_of_binds (arch : SerialArch) (s : SerialPort) {calls : List SerialCall}
    (hbinds : ∀ c ∈ calls, c.uses = false) :
    (calls.foldl (step arch) s).sysCalls = s.sysCalls ∧
      (calls.foldl (step arch) s).serialFd = s.serialFd := by
  induction calls generalizing s with
  | nil => exact ⟨rfl, rfl⟩
  | cons c calls ih =>
    obtain ⟨hc, hrest⟩ := List.forall_mem_cons.mp hbinds
    cases c with
    | bind portname baudrate flags => exact ih _ hrest
    | «open» o => cases hc
    | close => cases hc

theorem sysCalls_sysClose (fd : ℤ) (s : SerialPort) : s.sysCalls <+: (s.sysClose fd).sysCalls := by
  unfold sysClose
  split
  · exact List.prefix_append _ _
  · exact List.prefix_refl _

theorem sysCalls_close (arch : SerialArch) (s : SerialPort) :
    s.sysCalls <+: (s.close arch).sysCalls := by
  have hserial := sysCalls_sysClose s.serialFd s
  cases arch with
  | linux gnuc =>
    have hread := sysCalls_sysClose s.selfpipe.1 { s.sysClose s.serialFd with serialFd := -1 }
    have hwrite := sysCalls_sysClose s.selfpipe.2
      ({ s.sysClose s.serialFd with serialFd := -1 }.sysClose s.selfpipe.1)
    simpa [close, closeLinux] using (hserial.trans hread).trans hwrite
  | macOS => exact hserial

theorem sysCalls_opening (arch : SerialArch) (o : OpenOutcome) (s : SerialPort) :
    s.sysCalls <+: (s.opening arch o).sysCalls := by
  have hopen := List.prefix_append (if s.isSerialOpened then s.close arch else s).sysCalls
    [.open (if s.isSerialOpened then s.close arch else s).portName o.fd]
  refine List.IsPrefix.trans ?_ hopen
  split
  · exact sysCalls_close arch s
  · exact List.prefix_refl _

theorem sysCalls_step (arch : SerialArch) (s : SerialPort) (c : SerialCall) :
    s.sysCalls <+: (s.step arch c).sysCalls := by
  cases c with
  | bind portname baudrate flags => exact List.prefix_refl _
  | «open» o =>
    have hopening := sysCalls_opening arch o s
    change s.sysCalls <+: (s.open arch o).2.sysCalls
    rcases open_cases arch o s with ⟨-, hopen⟩ | hopen | ⟨-, hopen⟩ | ⟨-, hopen⟩
    · rw [hopen]
      exact hopening
    · rw [hopen]
      exact hopening.trans (sysCalls_close arch _)
    · rw [hopen]
      exact hopening
    · rw [hopen]
      exact hopening.trans (List.prefix_append _ _)
  | close => exact sysCalls_close arch s

/-- What a run has closed at some point stays in the log. -/
theorem sysCalls_run (arch : SerialArch) (s : SerialPort) (calls : List SerialCall) :
    s.sysCalls <+: (calls.foldl (step arch) s).sysCalls :=
  invariant_of_foldl (P := fun later : SerialPort => s.sysCalls <+: later.sysCalls)
    (fun later c hgrown => hgrown.trans (sysCalls_step arch later c)) (List.prefix_refl _) calls

/-- A constructed port owns nothing and is not open. -/
theorem free_new (arch : SerialArch) :
    (new arch).Free ∧ (new arch).isSerialOpened = false := by
  cases arch with
  | linux gnuc => exact ⟨⟨Handles.custody_nil, rfl⟩, rfl⟩
  | macOS => exact ⟨⟨Handles.custody_nil, rfl⟩, rfl⟩

/-- Where everything is owned at the end, only what is owned was closed, and a destroyed port
leaves nothing open. -/
theorem Owned.ownsDescriptors {arch : SerialArch} {calls : List SerialCall} {destroyed : Bool}
    (h : (lifetime arch calls destroyed).Owned arch) :
    OwnsDescriptors (lifetime arch calls destroyed).sysCalls destroyed := by
  refine ⟨h.custody.allowed, ?_⟩
  rintro rfl
  have hclosed : (lifetime arch calls true).isSerialOpened = false := by
    unfold lifetime serialHistory
    rw [if_pos rfl, List.foldl_append]
    exact (close_closed arch _).2
  exact (h.free_of_closed hclosed).custody.settled

/-- On macOS, where `serial_fd` is 0 at first, a `close` before the first `open` closes
descriptor 0. -/
theorem not_ownsDescriptors_of_first_close {calls : List SerialCall} {destroyed : Bool}
    (hfirst : (serialHistory calls destroyed).find? SerialCall.uses = some .close) :
    ¬ OwnsDescriptors (lifetime .macOS calls destroyed).sysCalls destroyed := by
  intro howns
  obtain ⟨-, before, after, hsplit, hbefore⟩ := List.find?_eq_some_iff_append.mp hfirst
  have hbinds : ∀ c ∈ before, c.uses = false := fun c hc => by simpa using hbefore c hc
  obtain ⟨hlog, hserial⟩ := sysCalls_of_binds .macOS (new .macOS) hbinds
  have hrun : lifetime .macOS calls destroyed =
      after.foldl (step .macOS) ((before.foldl (step .macOS) (new .macOS)).close .macOS) := by
    unfold lifetime
    rw [hsplit, List.foldl_append]
    rfl
  have hclose : ((before.foldl (step .macOS) (new .macOS)).close .macOS).sysCalls =
      [.close 0] := by
    change (sysClose _ (before.foldl (step .macOS) (new .macOS))).sysCalls = _
    have hzero : (new .macOS).serialFd = 0 := rfl
    have hempty : (new .macOS).sysCalls = [] := rfl
    unfold sysClose
    rw [hserial, hzero, if_pos (by decide), hlog, hempty, List.nil_append]
  obtain ⟨rest, hrest⟩ := sysCalls_run .macOS
    ((before.foldl (step .macOS) (new .macOS)).close .macOS) after
  have hsound := howns.closesOwned
  rw [hrun, ← hrest, hclose] at hsound
  exact Handles.not_eachAfter_of_released rfl rest hsound

/-- **A serial port closes only descriptors it owns**, except for one on macOS that is closed or
destroyed before it was opened for the first time. -/
theorem ownsDescriptors_iff (arch : SerialArch) (calls : List SerialCall) (destroyed : Bool) :
    OwnsDescriptors (lifetime arch calls destroyed).sysCalls destroyed ↔
      (arch = .macOS → (serialHistory calls destroyed).find? SerialCall.uses ≠ some .close) := by
  constructor
  · rintro howns rfl hfirst
    exact not_ownsDescriptors_of_first_close hfirst howns
  · intro hfirst
    obtain ⟨hfree, hclosed⟩ := free_new arch
    cases arch with
    | linux gnuc =>
      exact (owned_run (hfree.owned rfl _) _).ownsDescriptors
    | macOS =>
      cases h : (serialHistory calls destroyed).find? SerialCall.uses with
      | none =>
        have hbinds : ∀ c ∈ serialHistory calls destroyed, c.uses = false := by
          simpa using List.find?_eq_none.mp h
        have hlog : (lifetime .macOS calls destroyed).sysCalls = [] :=
          (sysCalls_of_binds .macOS (new .macOS) hbinds).1
        rw [hlog]
        exact ⟨trivial, fun _ _ => rfl⟩
      | some c =>
        cases c with
        | bind portname baudrate flags => cases List.find?_some h
        | «open» o => exact (owned_of_first_open hfree hclosed h).ownsDescriptors
        | close => exact absurd h (hfirst rfl)

/-- A port on macOS that is never opened closes the standard input when it is destroyed. -/
theorem not_ownsDescriptors :
    ¬ ∀ arch calls destroyed,
      OwnsDescriptors (lifetime arch calls destroyed).sysCalls destroyed := by
  intro h
  have howns := h .macOS [] true
  have hlog : (lifetime .macOS [] true).sysCalls = [.close 0] := rfl
  have hsound := howns.closesOwned
  rw [hlog] at hsound
  exact Handles.not_eachAfter_of_released rfl [] hsound

end SerialPort

end Slamkit
