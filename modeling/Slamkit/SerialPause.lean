import Slamkit.Library.Run
import Slamkit.SerialWait

/-!
# Pauses while waiting on a serial port

Between two calls of `::select` the loop of `waitfordata` pauses for the time the missing bytes
take on the wire, if more than that remains of the timeout. Both times are computed in `size_t`
and `long` but kept as an `int`; this file says exactly for which baud rates, numbers of bytes
and timeouts this makes no difference.
-/

namespace Slamkit

open Library

namespace RawSerial

/-- The microseconds that the missing bytes take on the wire, at eight bits a byte. -/
def transmission (baudrate : SlU32) (missing : ℕ) : ℕ := missing * 8 * 10 ^ 6 / baudrate.toNat

/-- The microseconds that `usleep` is called with: its parameter is unsigned. -/
def microseconds (time : SlS32) : ℕ := time.toUInt32.toNat

/-- The pause that is due with a certain time remaining: as long as the transmission, if more than
that remains. -/
def duePause (remaining expected : ℕ) : Option ℕ :=
  if remaining > expected then some expected else none

/-- The queue of the port and the microseconds that are left of the timeout, after a round. -/
def afterRound (now : Tty × ℕ) (round : WaitRound) : Tty × ℕ :=
  (now.1.arrive round.arriving,
    match round.select with
    | .ready _ remaining => remaining
    | _ => 0)

/-- A round in which `::select` reports the port within the time that is left. It does so only
with a byte in the queue, which `ioctl` then counts. -/
def WaitRound.Reported (now : Tty × ℕ) (round : WaitRound) : Prop :=
  (∃ remaining ≤ now.2, round.select = .ready ⟨true, false⟩ remaining) ∧
  (now.1.arrive round.arriving).queue ≠ [] ∧ round.ioctlOk = true

/-- Waits on a port for `dataCount` bytes pause exactly: in every run that is in its loop, with
`::select` reporting the port in every round, one more such round that finds too few bytes does not
divide by zero, and calls between two calls of `::select` just the pause that is due. -/
def PausesExactly (s : RawSerial) (dataCount : ℕ) (timeout : SlU32) : Prop :=
  ∀ (arriving : List SlU8) (before : List WaitRound) (tty : Tty) (bytes : List SlU8)
    (remaining queued : ℕ),
    StepsMeet afterRound WaitRound.Reported (tty.arrive arriving, timeout.toNat * 1000)
      (before ++ [⟨.ready ⟨true, false⟩ remaining, bytes, true⟩]) →
    (s.waitfordata dataCount timeout arriving true before tty).2 = .running →
    queued = (((tty.arrive arriving).arrive (before.flatMap WaitRound.arriving)).arrive
      bytes).queue.length → queued < dataCount →
    ∃ (set : FdSet) (pause : Option SlS32),
      s.waitfordata dataCount timeout arriving true
          (before ++ [⟨.ready ⟨true, false⟩ remaining, bytes, true⟩]) tty =
        ((s.waitfordata dataCount timeout arriving true before tty).1 ++
          (pause.map .usleep).toList ++ [.select set remaining], .running) ∧
      pause.map microseconds = duePause remaining (transmission s.baudrate (dataCount - queued))

variable {s : RawSerial} {dataCount : ℕ}

/-- A number of microseconds becomes the parameter of `usleep` unchanged up to `2 ^ 32`. -/
theorem microseconds_ofNat {n : ℕ} (h : n < 2 ^ 32) : microseconds (Int32.ofNat n) = n := by
  unfold microseconds
  rw [Int32.toUInt32_ofNat', UInt32.toNat_ofNat']
  exact Nat.mod_eq_of_lt h

/-- From `2 ^ 31` on, it is a negative `int`. -/
theorem ofNat_neg {n : ℕ} (hle : 2 ^ 31 ≤ n) (hlt : n < 2 ^ 32) : (Int32.ofNat n).toInt < 0 := by
  rw [Int32.toInt_ofNat', Int.bmod_def]
  norm_num
  omega

/-- The product of the missing bytes does not wrap around. -/
theorem pause_eq (baudrate : SlU32) (remaining : ℕ) {missing : ℕ} (hmissing : missing < 2 ^ 31) :
    pause baudrate remaining missing =
      if Int32.ofNat remaining > Int32.ofNat (transmission baudrate missing) then
        some (Int32.ofNat (transmission baudrate missing)) else none := by
  have hproduct : missing * 1000000 * 8 % 2 ^ 64 = missing * 8 * 10 ^ 6 := by omega
  unfold pause transmission
  rw [hproduct]

/-- Within the range of an `int` the pause is the one that is due. -/
theorem pause_exact {baudrate : SlU32} {remaining missing : ℕ} (hmissing : missing < 2 ^ 31)
    (hremaining : remaining < 2 ^ 31) (hexpected : transmission baudrate missing < 2 ^ 31) :
    (pause baudrate remaining missing).map microseconds =
      duePause remaining (transmission baudrate missing) := by
  have hcompare : Int32.ofNat remaining > Int32.ofNat (transmission baudrate missing) ↔
      remaining > transmission baudrate missing := by
    rw [gt_iff_lt, Int32.lt_iff_toInt_lt, Int32.toInt_ofNat_of_lt hremaining,
      Int32.toInt_ofNat_of_lt hexpected, Nat.cast_lt]
  rw [pause_eq baudrate remaining hmissing, duePause]
  simp only [hcompare]
  split
  · rw [Option.map_some, microseconds_ofNat (by omega)]
  · rfl

/-- With exactly `2 ^ 31` microseconds remaining there is no pause. -/
theorem pause_of_long_remaining {baudrate : SlU32} {missing : ℕ} (hmissing : missing < 2 ^ 31)
    (hexpected : transmission baudrate missing < 2 ^ 31) :
    pause baudrate (2 ^ 31) missing = none := by
  have hneg : (Int32.ofNat (2 ^ 31)).toInt < 0 := ofNat_neg le_rfl (by decide)
  rw [pause_eq baudrate _ hmissing, if_neg]
  rw [gt_iff_lt, Int32.lt_iff_toInt_lt, Int32.toInt_ofNat_of_lt hexpected]
  omega

/-- With nothing remaining there is a pause if the transmission takes too long for an `int`. -/
theorem pause_of_long_transmission {baudrate : SlU32} {missing : ℕ} (hmissing : missing < 2 ^ 31)
    (hle : 2 ^ 31 ≤ transmission baudrate missing)
    (hlt : transmission baudrate missing < 2 ^ 32) : pause baudrate 0 missing ≠ none := by
  have hneg := ofNat_neg hle hlt
  have hzero : (Int32.ofNat 0).toInt = 0 := rfl
  rw [pause_eq baudrate _ hmissing, if_pos]
  · exact Option.some_ne_none _
  · rw [gt_iff_lt, Int32.lt_iff_toInt_lt, hzero]
    exact hneg

/-- Nothing takes no time. -/
theorem transmission_zero (baudrate : SlU32) : transmission baudrate 0 = 0 := by
  simp [transmission]

/-- One byte more takes at most eight seconds more. -/
theorem transmission_succ_le (baudrate : SlU32) (missing : ℕ) :
    transmission baudrate (missing + 1) ≤ transmission baudrate missing + 8 * 10 ^ 6 := by
  obtain hzero | hpos := Nat.eq_zero_or_pos baudrate.toNat
  · unfold transmission
    rw [hzero, Nat.div_zero]
    exact Nat.zero_le _
  · have hbyte : 8 * 10 ^ 6 ≤ 8 * 10 ^ 6 * baudrate.toNat := by omega
    have hbytes : (missing + 1) * 8 * 10 ^ 6 ≤
        missing * 8 * 10 ^ 6 + 8 * 10 ^ 6 * baudrate.toNat := by
      rw [Nat.add_mul, Nat.add_mul, Nat.one_mul]
      exact Nat.add_le_add_left hbyte _
    calc transmission baudrate (missing + 1)
        ≤ (missing * 8 * 10 ^ 6 + 8 * 10 ^ 6 * baudrate.toNat) / baudrate.toNat :=
          Nat.div_le_div_right hbytes
      _ = transmission baudrate missing + 8 * 10 ^ 6 := by
          rw [Nat.add_mul_div_right _ _ hpos, transmission]

/-- More bytes take longer. -/
theorem transmission_mono (baudrate : SlU32) {missing missing' : ℕ} (h : missing ≤ missing') :
    transmission baudrate missing ≤ transmission baudrate missing' :=
  Nat.div_le_div_right (by omega)

/-- If all the bytes take too long for an `int`, then some number of them takes too long by less
than its range. -/
theorem exists_long_transmission {baudrate : SlU32}
    (h : 2 ^ 31 ≤ transmission baudrate dataCount) :
    ∃ missing, 1 ≤ missing ∧ missing ≤ dataCount ∧ 2 ^ 31 ≤ transmission baudrate missing ∧
      transmission baudrate missing < 2 ^ 32 := by
  induction dataCount with
  | zero =>
    rw [transmission_zero] at h
    exact absurd h (by decide)
  | succ n ih =>
    by_cases hn : 2 ^ 31 ≤ transmission baudrate n
    · obtain ⟨missing, hpos, hle, hlong⟩ := ih hn
      exact ⟨missing, hpos, hle.trans (Nat.le_succ n), hlong⟩
    · have hstep := transmission_succ_le baudrate n
      exact ⟨n + 1, Nat.le_add_left 1 n, le_rfl, h, by omega⟩

/-- The queue has taken what has arrived in the rounds. -/
theorem foldl_afterRound_queue (before : List WaitRound) (now : Tty × ℕ) :
    (before.foldl afterRound now).1 = now.1.arrive (before.flatMap WaitRound.arriving) := by
  induction before generalizing now with
  | nil => exact (Fifo.arrive_nil _).symm
  | cons round before ih =>
    rw [List.foldl_cons, ih, List.flatMap_cons, ← Fifo.arrive_arrive]
    rfl

/-- The time that is left does not grow. -/
theorem WaitRound.Reported.left_le {now : Tty × ℕ} {round : WaitRound} {limit : ℕ}
    (hlimit : now.2 ≤ limit) (h : round.Reported now) : (afterRound now round).2 ≤ limit := by
  obtain ⟨⟨remaining, hle, hselect⟩, -, -⟩ := h
  simp only [afterRound, hselect]
  exact hle.trans hlimit

/-- The last of some rounds that report the port comes within the timeout, and finds a byte. -/
theorem reported_last {now : Tty × ℕ} {before : List WaitRound} {bytes : List SlU8}
    {remaining : ℕ} (h : StepsMeet afterRound WaitRound.Reported now
      (before ++ [⟨.ready ⟨true, false⟩ remaining, bytes, true⟩])) :
    remaining ≤ now.2 ∧
      1 ≤ ((now.1.arrive (before.flatMap WaitRound.arriving)).arrive bytes).queue.length := by
  obtain ⟨hbefore, ⟨⟨remaining', hle, hselect⟩, hqueue, -⟩, -⟩ :=
    (stepsMeet_append now before _).mp h
  have hleft : (before.foldl afterRound now).2 ≤ now.2 :=
    hbefore.invariant (P := fun later => later.2 ≤ now.2)
      (fun _ _ hlimit hround => hround.left_le hlimit) le_rfl
  cases hselect
  rw [foldl_afterRound_queue] at hqueue
  exact ⟨hle.trans hleft, List.length_pos_iff.mpr hqueue⟩

/-- One more round that finds too few bytes, in a run that is in its loop. -/
theorem waitfordata_short (hopen : s.isSerialOpened = true) (hbaud : s.baudrate ≠ 0)
    {timeout : SlU32} {arriving : List SlU8} {before : List WaitRound} {tty : Tty}
    (hrunning : (s.waitfordata dataCount timeout arriving true before tty).2 = .running)
    (remaining : ℕ) {bytes : List SlU8} {queued : ℕ}
    (hqueued : queued = (((tty.arrive arriving).arrive
      (before.flatMap WaitRound.arriving)).arrive bytes).queue.length)
    (hshort : queued < dataCount) :
    ∃ set, s.waitfordata dataCount timeout arriving true
        (before ++ [⟨.ready ⟨true, false⟩ remaining, bytes, true⟩]) tty =
      ((s.waitfordata dataCount timeout arriving true before tty).1 ++
        ((pause s.baudrate remaining (dataCount - queued)).map .usleep).toList ++
          [.select set remaining], .running) := by
  subst hqueued
  have hfirst : (tty.arrive arriving).queue.length < dataCount := by
    simp only [Fifo.arrive_queue, List.length_append] at hshort ⊢
    omega
  have hloop := waitfordata_loop hopen timeout hfirst
  rw [hloop] at hrunning
  obtain ⟨calls, inputSet, timeoutVal, returnedSize, hcalls, hmore⟩ :=
    waitLoop_append hopen hrunning
  have hpipe : (inputSet.inter ⟨true, false⟩).selfpipe = false := Bool.and_false _
  refine ⟨inputSet.inter ⟨true, false⟩, ?_⟩
  rw [hloop, hloop, hcalls, hmore, waitLoop_short hopen hbaud rfl hpipe rfl hshort,
    waitLoop_nil hopen, shortCalls]
  simp

/-- The pause between two calls of `::select` can be read off the calls. -/
theorem pause_inj {calls : List WaitCall} {pause pause' : Option SlS32} {set set' : FdSet}
    {remaining remaining' : ℕ}
    (h : calls ++ (pause.map WaitCall.usleep).toList ++ [.select set remaining] =
      calls ++ (pause'.map WaitCall.usleep).toList ++ [.select set' remaining']) :
    pause = pause' := by
  rw [List.append_assoc, List.append_assoc] at h
  have htail := List.append_cancel_left h
  cases pause <;> cases pause' <;> simp_all

/-- Waits that pause exactly do so in their first round, whatever remains and is missing then. One
byte at least has come. -/
theorem PausesExactly.first {timeout : SlU32} (h : s.PausesExactly dataCount timeout)
    (hopen : s.isSerialOpened = true) {remaining missing : ℕ}
    (hremaining : remaining ≤ timeout.toNat * 1000) (hpos : 1 ≤ missing)
    (hmissing : missing < dataCount) :
    s.baudrate ≠ 0 ∧ (pause s.baudrate remaining missing).map microseconds =
      duePause remaining (transmission s.baudrate missing) := by
  have hempty : (Fifo.arrive (⟨[], []⟩ : Tty) []).queue.length < dataCount := by
    exact Nat.zero_lt_of_lt hmissing
  have hrunning : (s.waitfordata dataCount timeout [] true [] ⟨[], []⟩).2 = .running := by
    rw [waitfordata_loop hopen timeout hempty, waitLoop_nil hopen]
  have hqueued : dataCount - missing = (((Fifo.arrive (⟨[], []⟩ : Tty) []).arrive
      (([] : List WaitRound).flatMap WaitRound.arriving)).arrive
        (List.replicate (dataCount - missing) 0)).queue.length := by simp [Fifo.arrive]
  have hreported : WaitRound.Reported (Fifo.arrive (⟨[], []⟩ : Tty) [], timeout.toNat * 1000)
      ⟨.ready ⟨true, false⟩ remaining, List.replicate (dataCount - missing) 0, true⟩ := by
    refine ⟨⟨remaining, hremaining, rfl⟩, List.ne_nil_of_length_pos ?_, rfl⟩
    have hsome : 0 < dataCount - missing := by omega
    exact hqueued ▸ hsome
  have hshort : dataCount - missing < dataCount := by omega
  have hback : dataCount - (dataCount - missing) = missing := by omega
  obtain ⟨set, pause', hrun, hdue⟩ := h [] [] ⟨[], []⟩ (List.replicate (dataCount - missing) 0)
    remaining (dataCount - missing) ⟨hreported, trivial⟩ hrunning hqueued hshort
  rw [hback] at hdue
  by_cases hbaud : s.baudrate = 0
  · -- The round divides by zero.
    rw [waitfordata_loop hopen timeout hempty, List.nil_append] at hrun
    have hnot : ¬ (s.baudrate ≠ 0 ∧ WaitRound.Short dataCount ⟨true, s.selfpipe⟩
        (Fifo.arrive ⟨[], []⟩ [])
        ⟨.ready ⟨true, false⟩ remaining, List.replicate (dataCount - missing) 0, true⟩) :=
      fun htoofew => htoofew.1 hbaud
    exact absurd (congrArg Prod.snd hrun) (waitLoop_of_not_short hopen hnot [] _ _).2.1
  · obtain ⟨set', hrun'⟩ := waitfordata_short hopen hbaud hrunning remaining hqueued hshort
    rw [hrun, hback] at hrun'
    rw [← pause_inj (congrArg Prod.fst hrun')]
    exact ⟨hbaud, hdue⟩

/-- **Exactly which serial waits pause exactly.** On an open port, at any baud rate (`bind` accepts
them all), for fewer than `2 ^ 31` bytes and every timeout: no run divides by zero, and all pauses
are made exactly when they are due and for exactly as long, if and only if at most one byte is
waited for, or the baud rate is not zero and both the timeout and the transmission of all bytes but
one take fewer than `2 ^ 31` microseconds. -/
theorem pausesExactly_iff (hopen : s.isSerialOpened = true) (hcount : dataCount < 2 ^ 31)
    (timeout : SlU32) :
    s.PausesExactly dataCount timeout ↔
      dataCount ≤ 1 ∨ (s.baudrate ≠ 0 ∧ timeout.toNat * 1000 < 2 ^ 31 ∧
        transmission s.baudrate (dataCount - 1) < 2 ^ 31) := by
  constructor
  · intro h
    rw [or_iff_not_imp_left]
    intro hmany
    have hone : 1 < dataCount := Nat.not_le.mp hmany
    refine ⟨(h.first hopen (Nat.zero_le _) le_rfl hone).1, ?_, ?_⟩
    · -- Just `2 ^ 31` microseconds may remain when one byte is missing.
      by_contra hlong
      have hbyte : transmission s.baudrate 1 < 2 ^ 31 := by
        have hstep : transmission s.baudrate 1 ≤ transmission s.baudrate 0 + 8 * 10 ^ 6 :=
          transmission_succ_le s.baudrate 0
        rw [transmission_zero] at hstep
        omega
      have hdue := (h.first hopen (not_lt.mp hlong) le_rfl hone).2
      rw [pause_of_long_remaining (by decide) hbyte, duePause, if_pos hbyte] at hdue
      cases hdue
    · -- No time may remain when so many bytes are missing.
      by_contra hlong
      obtain ⟨missing, hmissing, hle, hbelow, habove⟩ := exists_long_transmission (not_lt.mp hlong)
      have hdue := (h.first hopen (Nat.zero_le _) hmissing (by omega)).2
      rw [duePause, if_neg (Nat.not_lt_zero _), Option.map_eq_none_iff] at hdue
      exact pause_of_long_transmission (by omega) hbelow habove hdue
  · rintro hcondition arriving before tty bytes remaining queued hrounds hrunning hqueued hshort
    obtain ⟨hremaining, hsome⟩ := reported_last hrounds
    rw [← hqueued] at hsome
    obtain hfew | ⟨hbaud, htimeout, htransmission⟩ := hcondition
    · -- The byte that has been reported is all that is waited for.
      omega
    obtain ⟨set, hrun⟩ := waitfordata_short hopen hbaud hrunning remaining hqueued hshort
    have hmono : transmission s.baudrate (dataCount - queued) ≤
        transmission s.baudrate (dataCount - 1) :=
      transmission_mono s.baudrate (by omega)
    exact ⟨set, _, hrun, pause_exact (by omega) (by omega) (by omega)⟩

/-- Waits for 64 bytes, at the usual baud rate and for one second, pause exactly. -/
theorem pausesExactly_second : (⟨true, 115200, true, 0, 0⟩ : RawSerial).PausesExactly 64 1000 :=
  (pausesExactly_iff rfl (by decide) 1000).mpr (Or.inr (by decide))

/-- With the default timeout of -1, the time remaining is a negative `int`, and a wait for two
bytes does not pause when one has come. -/
theorem default_timeout_never_pauses :
    ¬ ∀ (s : RawSerial), s.isSerialOpened = true → ∀ dataCount < 2 ^ 31, ∀ timeout,
      s.PausesExactly dataCount timeout := by
  intro h
  have hdue := ((h ⟨true, 115200, true, 0, 0⟩ rfl 2 (by decide) (-1)).first rfl le_rfl le_rfl
    (by decide)).2
  revert hdue
  decide

end RawSerial

end Slamkit
