import Slamkit.Library.Run
import Slamkit.Serial

/-!
# The serial channel as a byte stream

On a queue that grows only by arrivals, `waitForData` returns true only when the bytes
asked for are queued, and `read` takes them from the front. So a read after a successful
wait is never short, and what all reads return is a beginning of what has arrived.
-/

namespace Slamkit

open Library

namespace RawSerial

/-- If the wait has returned, the queue has at most grown, and with `ANS_OK` it holds as many
bytes as were asked for. -/
def WaitRun.Sound (tty : Tty) (dataCount : ℕ) : WaitRun → Prop
  | .returned ans _ tty' =>
    (∃ bytes, tty' = tty.arrive bytes) ∧ (ans = ansOk → dataCount ≤ tty'.queue.length)
  | _ => True

/-- An answer other than `ANS_OK` before anything has arrived. -/
theorem WaitRun.sound_of_ne_ok (tty : Tty) (dataCount : ℕ) {ans : ℤ} (n : ℕ) (h : ans ≠ ansOk) :
    (WaitRun.returned ans n tty).Sound tty dataCount :=
  ⟨⟨[], tty.arrive_nil.symm⟩, fun hok => absurd hok h⟩

/-- `ANS_OK` on a queue that is long enough. -/
theorem WaitRun.sound_ok {tty : Tty} {dataCount : ℕ} (h : dataCount ≤ tty.queue.length) (n : ℕ) :
    (WaitRun.returned ansOk n tty).Sound tty dataCount :=
  ⟨⟨[], tty.arrive_nil.symm⟩, fun _ => h⟩

/-- A wait that goes on after an arrival. -/
theorem WaitRun.Sound.of_arrive {tty : Tty} {dataCount : ℕ} (bytes : List SlU8) {r : WaitRun}
    (h : r.Sound (tty.arrive bytes) dataCount) : r.Sound tty dataCount := by
  cases r with
  | running => trivial
  | crashed => trivial
  | returned ans n tty' =>
    obtain ⟨⟨more, hmore⟩, hok⟩ := h
    exact ⟨⟨bytes ++ more, by rw [hmore, Fifo.arrive_arrive]⟩, hok⟩

/-- After any number of rounds, the loop of `waitfordata` is sound. -/
theorem waitLoop_sound (s : RawSerial) (dataCount : ℕ) (rounds : List WaitRound)
    (inputSet : FdSet) (timeoutVal returnedSize : ℕ) (tty : Tty) :
    (waitLoop s dataCount rounds inputSet timeoutVal returnedSize tty).2.Sound tty dataCount := by
  induction rounds generalizing inputSet timeoutVal returnedSize tty with
  | nil =>
    rw [waitLoop]
    split
    · exact WaitRun.sound_of_ne_ok _ _ _ (by decide)
    · trivial
  | cons round rounds ih =>
    rw [waitLoop]
    split
    · exact WaitRun.sound_of_ne_ok _ _ _ (by decide)
    · cases hselect : round.select with
      | error => exact WaitRun.sound_of_ne_ok _ _ _ (by decide)
      | timeout => exact WaitRun.sound_of_ne_ok _ _ _ (by decide)
      | ready set remaining =>
        simp only
        split
        · exact WaitRun.sound_of_ne_ok _ _ _ (by decide)
        · -- everything that follows happens after the arrivals of this round
          apply WaitRun.Sound.of_arrive round.arriving
          split
          · exact WaitRun.sound_of_ne_ok _ _ _ (by decide)
          · split
            · next hqueue => exact WaitRun.sound_ok hqueue _
            · split
              · trivial
              · exact ih _ _ _ _

/-- `waitfordata` is sound. -/
theorem waitfordata_sound (s : RawSerial) (dataCount : ℕ) (timeout : SlU32)
    (arriving : List SlU8) (ioctlOk : Bool) (rounds : List WaitRound) (tty : Tty) :
    (s.waitfordata dataCount timeout arriving ioctlOk rounds tty).2.Sound tty dataCount := by
  simp only [waitfordata]
  split
  · exact waitLoop_sound _ _ _ _ _ _ _
  · apply WaitRun.Sound.of_arrive arriving
    split
    · exact WaitRun.sound_of_ne_ok _ _ _ (by decide)
    · split
      · next hqueue => exact WaitRun.sound_ok hqueue _
      · exact waitLoop_sound _ _ _ _ _ _ _

end RawSerial

/-- `waitForData` lets the queue grow, and returns true only on a queue that is long enough. -/
theorem SerialPortChannel.waitForData_sound {c : SerialPortChannel} {size : ℕ} {timeout : SlU32}
    {arriving : List SlU8} {ioctlOk : Bool} {rounds : List RawSerial.WaitRound} {tty tty' : Tty}
    {result : Bool} {actualReady : Option ℕ}
    (h : c.waitForData size timeout arriving ioctlOk rounds tty =
      some (result, actualReady, tty')) :
    (∃ bytes, tty' = tty.arrive bytes) ∧ (result = true → size ≤ tty'.queue.length) := by
  have hsound := c.rxtxSerial.waitfordata_sound size timeout arriving ioctlOk rounds tty
  rw [waitForData] at h
  split at h
  · obtain ⟨rfl, rfl, rfl⟩ : false = result ∧ none = actualReady ∧ tty = tty' := by simpa using h
    exact ⟨⟨[], tty.arrive_nil.symm⟩, by simp⟩
  · split at h
    · next ans n tty'' hrun =>
      obtain ⟨rfl, rfl, rfl⟩ : (ans == ansOk) = result ∧ some n = actualReady ∧ tty'' = tty' := by
        simpa using h
      rw [hrun] at hsound
      exact ⟨hsound.1, fun hok => hsound.2 (by simpa using hok)⟩
    · cases h

/-- A wait with the answers to its system calls, or a read before which bytes arrive. -/
inductive SerialOp where
  | waitForData (size : ℕ) (timeout : SlU32) (arriving : List SlU8) (ioctlOk : Bool)
      (rounds : List RawSerial.WaitRound)
  | read (size : ℕ) (arriving : List SlU8)
  deriving DecidableEq

/-- What the caller sees of a wait or a read. -/
inductive SerialEvent where
  | waited (size : ℕ) (result : Bool)
  | received (size : ℕ) (bytes : List SlU8)
  deriving DecidableEq

/-- The bytes a read has returned. -/
def SerialEvent.bytes : SerialEvent → List SlU8
  | .waited _ _ => []
  | .received _ bytes => bytes

/-- An open port with the events so far. -/
structure SerialRun where
  channel : SerialPortChannel
  tty : Tty
  events : List SerialEvent
  deriving DecidableEq

/-- One call, if it returns. -/
def SerialOp.run (s : SerialRun) : SerialOp → Option SerialRun
  | .waitForData size timeout arriving ioctlOk rounds =>
    (s.channel.waitForData size timeout arriving ioctlOk rounds s.tty).map fun r =>
      { s with tty := r.2.2, events := s.events ++ [.waited size r.1] }
  | .read size arriving =>
    let r := s.channel.read size (s.tty.arrive arriving)
    some ⟨r.2.1, r.2.2, s.events ++ [.received size r.1.stored]⟩

/-- The port before its first call: whatever is queued has arrived. -/
def SerialRun.start (channel : SerialPortChannel) (queue : List SlU8) : SerialRun :=
  ⟨channel, ⟨queue, queue⟩, []⟩

/-- A read that directly follows a successful wait for as many bytes returns them all. -/
def FullReads (events : List SerialEvent) : Prop :=
  ∀ before size bytes after,
    events = before ++ .waited size true :: .received size bytes :: after → bytes.length = size

/-- The state of a run on an open port. -/
structure SerialInv (s : SerialRun) : Prop where
  opened : s.channel.rxtxSerial.isSerialOpened = true
  carries : s.tty.Carries (s.events.flatMap SerialEvent.bytes)
  queued : ∀ size, s.events.getLast? = some (.waited size true) → size ≤ s.tty.queue.length
  full : FullReads s.events

/-- One more event. -/
theorem FullReads.append_singleton {events : List SerialEvent} (h : FullReads events)
    {event : SerialEvent}
    (hlast : ∀ size bytes, event = .received size bytes →
      events.getLast? = some (.waited size true) → bytes.length = size) :
    FullReads (events ++ [event]) := by
  intro before size bytes after hsplit
  rcases List.eq_nil_or_concat after with rfl | ⟨after', last, rfl⟩
  · have hparts : events ++ [event] =
        (before ++ [.waited size true]) ++ [.received size bytes] := by simpa using hsplit
    obtain ⟨rfl, hevent⟩ := List.append_inj' hparts rfl
    exact hlast size bytes (List.cons.inj hevent).1 (by simp)
  · have hparts : events ++ [event] =
        (before ++ .waited size true :: .received size bytes :: after') ++ [last] := by
      simpa using hsplit
    obtain ⟨rfl, -⟩ := List.append_inj' hparts rfl
    exact h before size bytes after' rfl

/-- One call keeps the state. -/
theorem SerialInv.step {s s' : SerialRun} (hs : SerialInv s) {op : SerialOp}
    (h : op.run s = some s') : SerialInv s' := by
  cases op with
  | waitForData size timeout arriving ioctlOk rounds =>
    rw [SerialOp.run, Option.map_eq_some_iff] at h
    obtain ⟨⟨result, actualReady, tty'⟩, hwait, rfl⟩ := h
    obtain ⟨⟨bytes, rfl⟩, hlong⟩ := SerialPortChannel.waitForData_sound hwait
    refine ⟨hs.opened, ?_, ?_, hs.full.append_singleton fun _ _ hevent => by cases hevent⟩
    · simpa [SerialEvent.bytes] using hs.carries.arrive bytes
    · intro size' hlast
      obtain ⟨rfl, rfl⟩ : size = size' ∧ result = true := by simpa using hlast
      exact hlong rfl
  | read size arriving =>
    have hread : s.channel.read size (s.tty.arrive arriving) =
        (⟨((s.tty.arrive arriving).take size).1.length, ((s.tty.arrive arriving).take size).1⟩,
          { s.channel with rxtxSerial := { s.channel.rxtxSerial with
            requiredRxCnt := ((s.tty.arrive arriving).take size).1.length } },
          ((s.tty.arrive arriving).take size).2) := by
      simp [SerialPortChannel.read, RawSerial.recvdata, hs.opened]
    rw [SerialOp.run, hread, Option.some.injEq] at h
    subst h
    refine ⟨hs.opened, ?_, ?_, hs.full.append_singleton ?_⟩
    · simpa [SerialEvent.bytes] using (hs.carries.arrive arriving).take size
    · intro size' hlast
      simp at hlast
    · intro size' bytes hevent hlast
      obtain ⟨rfl, rfl⟩ := SerialEvent.received.inj hevent
      apply Fifo.take_length
      have hqueued := hs.queued size hlast
      rw [Fifo.arrive_queue, List.length_append]
      omega

/-- **The serial channel is a byte stream.** In every run of waits and reads on an open port,
whatever arrives when and whatever the system calls of the waits answer: a read that
directly follows a successful wait for as many bytes returns them all, and what the reads
return, one after the other, is a beginning of what has arrived. -/
theorem serial_stream {channel : SerialPortChannel}
    (hopen : channel.rxtxSerial.isSerialOpened = true) (queue : List SlU8) {ops : List SerialOp}
    {s : SerialRun} (h : ops.foldlM SerialOp.run (.start channel queue) = some s) :
    FullReads s.events ∧ s.events.flatMap SerialEvent.bytes <+: s.tty.arrived := by
  have hstart : SerialInv (.start channel queue) :=
    ⟨hopen, rfl, by simp [SerialRun.start], by simp [FullReads, SerialRun.start]⟩
  have hs : SerialInv s := invariant_of_foldlM (fun _ _ _ hs₀ hop => hs₀.step hop) h hstart
  exact ⟨hs.full, hs.carries.isPrefix⟩

/-- An open port. -/
def openPort : SerialPortChannel := ⟨⟨true, 115200#32, true, 0, 0⟩, false⟩

/-- Three bytes arrive in two parts while four, then three of them are waited for. -/
theorem serial_stream_split :
    let events := [SerialEvent.waited 4 false, .waited 3 true,
      .received 3 [1#8, 2#8, 3#8], .received 2 [4#8]]
    FullReads events ∧ events.flatMap SerialEvent.bytes <+: [1#8, 2#8, 3#8, 4#8] :=
  @serial_stream openPort rfl []
    [.waitForData 4 100#32 [1#8] true [⟨.ready ⟨true, false⟩ 90, [2#8], true⟩,
        ⟨.timeout, [], true⟩],
      .waitForData 3 100#32 [] true [⟨.ready ⟨true, false⟩ 50, [3#8, 4#8], true⟩],
      .read 3 [], .read 2 []]
    ⟨⟨⟨true, 115200#32, true, 0, 1⟩, false⟩, ⟨[], [1#8, 2#8, 3#8, 4#8]⟩, _⟩ rfl

end Slamkit
