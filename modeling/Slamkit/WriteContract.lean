import Slamkit.SerialSend
import Slamkit.Tcp
import Slamkit.Udp
import Slamkit.Usb.Channel

/-!
# The contract of `write`

`IChannel` documents the result of `write` as the number of bytes written, negative for a
failure. The four channels are written independently of each other: the serial one counts,
the USB one reports the length it was given, and the network ones return a result code.
-/

namespace Slamkit

/-- A result of `write` that meets its documentation: unless it is negative, it is the number
of bytes the transport has accepted. -/
def WriteResult.Counts (r : WriteResult) : Prop := 0 ≤ r.returned → r.returned = r.accepted

instance (r : WriteResult) : Decidable r.Counts := inferInstanceAs (Decidable (_ → _))

/-- What `write` of the serial channel returns is the number of bytes the kernel has taken. -/
theorem SerialPortChannel.write_counts {c c' : SerialPortChannel} {data : List SlU8}
    {answers : List (SysResult ℕ)} {r : WriteResult} (hlt : data.length < 2 ^ 31)
    (h : c.write data answers = some (r, c')) : r.returned = r.accepted := by
  rw [write, Option.map_eq_some_iff] at h
  obtain ⟨sending, hsend, hr⟩ := h
  obtain ⟨rfl, -⟩ := Prod.mk.inj hr
  rw [RawSerial.senddata] at hsend
  split at hsend
  · obtain rfl := Option.some.inj hsend
    rfl
  · split at hsend
    · obtain rfl := Option.some.inj hsend
      rfl
    · obtain ⟨⟨n, taken, s'⟩, hloop, rfl⟩ := Option.map_eq_some_iff.mp hsend
      obtain ⟨hn, rfl, -⟩ := RawSerial.sendLoop_spec (Nat.zero_le _) rfl hloop
      simp only [List.length_take, Nat.min_eq_left hn]
      exact Int.bmod_eq_of_le (by omega) (by omega)

/-- `write` of the serial channel returns once the kernel has answered as often as there are
bytes, if it takes something of every request. -/
theorem SerialPortChannel.write_isSome (c : SerialPortChannel) {data : List SlU8}
    {answers : List (SysResult ℕ)} (hprogress : SysResult.ok 0 ∉ answers)
    (hlength : data.length ≤ answers.length) : (c.write data answers).isSome = true := by
  rw [write, Option.isSome_map, RawSerial.senddata]
  split
  · rfl
  · split
    · rfl
    · next hne =>
      rw [Option.isSome_map]
      exact RawSerial.sendLoop_isSome _ [] hprogress (Nat.pos_of_ne_zero hne) (by omega)

/-- A result code other than `RESULT_OK` is negative as an `int`. -/
theorem toInt_failures_neg : slResultOperationTimeout.toInt < 0 ∧
    slResultOperationFail.toInt < 0 ∧ slResultInvalidData.toInt < 0 := by decide

/-- `TcpChannel::write` counts unless everything was accepted. -/
theorem TcpChannel.write_counts_iff {data : List SlU8} (hpos : 1 ≤ data.length)
    (ans : SysResult ℕ) (wouldBlock : Bool) :
    (write data ans wouldBlock).Counts ↔ ans ≠ .ok data.length := by
  obtain ⟨htimeout, hfail, -⟩ := toInt_failures_neg
  have hneg : ∀ block : Bool,
      (if block then slResultOperationTimeout else slResultOperationFail).toInt < 0 := by
    intro block
    cases block
    · exact hfail
    · exact htimeout
  cases ans with
  | error block =>
    refine iff_of_true (fun hnonneg => ?_) (by simp)
    exact absurd (hneg block) (Int.not_lt.mpr hnonneg)
  | ok sent =>
    by_cases hsent : sent = data.length
    · refine iff_of_false (fun hcounts => ?_) (by simp [hsent])
      have hzero : (write data (.ok sent) wouldBlock).returned = 0 := by
        simp [write, streamSend, hsent, slResultOk]
      have haccepted := hcounts (by rw [hzero])
      rw [hzero] at haccepted
      simp only [write, Int.natCast_eq_zero, eq_comm] at haccepted
      omega
    · refine iff_of_true (fun hnonneg => ?_) (by simpa using hsent)
      simp only [write, streamSend, if_neg hsent] at hnonneg
      exact absurd (hneg wouldBlock) (Int.not_lt.mpr hnonneg)

/-- `UdpChannel::write` counts unless something was accepted. -/
theorem UdpChannel.write_counts_iff (ans : Except SendErrno ℕ) :
    (write ans).Counts ↔ ∀ sent, ans = .ok sent → sent = 0 := by
  obtain ⟨htimeout, hfail, hinvalid⟩ := toInt_failures_neg
  cases ans with
  | error errno =>
    refine iff_of_true (fun hnonneg => ?_) (by simp)
    cases errno with
    | again => exact absurd htimeout (Int.not_lt.mpr hnonneg)
    | msgSize => exact absurd hinvalid (Int.not_lt.mpr hnonneg)
    | other => exact absurd hfail (Int.not_lt.mpr hnonneg)
  | ok sent =>
    have hzero : (write (.ok sent)).returned = 0 := rfl
    rw [WriteResult.Counts, hzero]
    simp [write, eq_comm]

/-- A transfer that libusb has reported as completed. -/
def Submitted.Completed (r : Submitted) : Prop :=
  r.submitted = true ∧ r.signalled = true ∧ r.status = .completed

instance (r : Submitted) : Decidable r.Completed := inferInstanceAs (Decidable (_ ∧ _))

/-- `USBChannel::write` counts if a completed transfer has taken everything, and any other
one nothing. -/
theorem UsbCache.write_counts_iff {ε : Type} (usb : LibusbTransfers ε) (data : List SlU8) (e : ε) :
    (write usb data e).1.Counts ↔
      (usb.submitTransfer data e).1.actualLength =
        if (usb.submitTransfer data e).1.Completed then data.length else 0 := by
  rw [write, WriteResult.Counts]
  generalize (usb.submitTransfer data e).1 = r
  obtain ⟨submitted, signalled, status, actualLength⟩ := r
  by_cases hsubmitted : submitted = true
  · by_cases hsignalled : signalled = true
    · cases status <;> simp [Submitted.Completed, hsubmitted, hsignalled] <;> omega
    · have hnot : signalled = false := by simpa using hsignalled
      simp [Submitted.Completed, hnot, hsubmitted, eq_comm]
  · have hnot : submitted = false := by simpa using hsubmitted
    simp [Submitted.Completed, hnot, eq_comm]

/-- What `write` returns against its documentation, for every outcome of the transport. The
serial channel always counts, the USB channel where the length it was given is what the device
has taken, and the network channels, whose `RESULT_OK` is zero, where they have not succeeded. -/
theorem write_contract (data : List SlU8) (hpos : 1 ≤ data.length) (hlt : data.length < 2 ^ 31) :
    (∀ (c c' : SerialPortChannel) (answers : List (SysResult ℕ)) (r : WriteResult),
      c.write data answers = some (r, c') → r.Counts) ∧
    (∀ (ε : Type) (usb : LibusbTransfers ε) (e : ε),
      (UsbCache.write usb data e).1.Counts ↔
        (usb.submitTransfer data e).1.actualLength =
          if (usb.submitTransfer data e).1.Completed then data.length else 0) ∧
    (∀ (ans : SysResult ℕ) (wouldBlock : Bool),
      (TcpChannel.write data ans wouldBlock).Counts ↔ ans ≠ .ok data.length) ∧
    (∀ ans : Except SendErrno ℕ,
      (UdpChannel.write ans).Counts ↔ ∀ sent, ans = .ok sent → sent = 0) := by
  refine ⟨?_, ?_, ?_, ?_⟩
  · intro c c' answers r h hnonneg
    exact SerialPortChannel.write_counts hlt h
  · intro ε usb e
    exact UsbCache.write_counts_iff usb data e
  · exact TcpChannel.write_counts_iff hpos
  · exact UdpChannel.write_counts_iff

/-- A device that completes a transfer of two bytes after the first of them. -/
def shortTransfer : LibusbTransfers Unit where
  bulkTransfer _ _ e := (⟨true, []⟩, e)
  submitTransfer _ e := (⟨true, true, .completed, 1⟩, e)

/-- The theorem at two bytes, where a short completed transfer is counted in full. -/
theorem write_contract_pair :
    ¬ (UsbCache.write shortTransfer [0x10#8, 0x50#8] ()).1.Counts ∧
      ¬ (TcpChannel.write [0x10#8, 0x50#8] (.ok 2) false).Counts ∧
      (TcpChannel.write [0x10#8, 0x50#8] (.ok 1) false).Counts := by
  have h := write_contract [0x10#8, 0x50#8] (by decide) (by decide)
  exact ⟨fun hc => absurd ((h.2.1 Unit shortTransfer ()).mp hc) (by decide),
    fun hc => (h.2.2.1 (.ok 2) false).mp hc rfl, (h.2.2.1 (.ok 1) false).mpr (by decide)⟩

/-- A buffer of one byte accepted in full by a stream and by a datagram socket, and one of two
bytes that the device has taken half of: none of the three results is the number accepted. -/
theorem accepted_bytes_miscounted :
    (TcpChannel.write [0x10#8] (.ok 1) false).returned = 0 ∧
      (UdpChannel.write (.ok 1)).returned = 0 ∧
      ¬ (TcpChannel.write [0x10#8] (.ok 1) false).Counts ∧ ¬ (UdpChannel.write (.ok 1)).Counts ∧
      ¬ (UsbCache.write shortTransfer [0x10#8, 0x50#8] ()).1.Counts := by
  decide

end Slamkit
