import Slamkit.UdpRequests
import Slamkit.Usb.Buffer

/-!
# Which transfers a success stands for

`_sendCommand` ignores what `write` returns, and `_waitResponse` what `read` returns. So whether a
request succeeds on complete transfers only is up to the channel. This file says exactly for which
answers of the system calls and of libusb it does so on each of the four channels.
-/

namespace Slamkit

open Library RawSerial

variable {ι σ : Type} (r : Request) (out : r.Output) (timeout : SlU32)

/-- On a channel whose `read` returns as many bytes as it stores when it stores all that are asked
for, a request succeeds on complete transfers only if no answer that is too short, or to a command
sent in part, passes the two tests. -/
theorem Request.onlyOnFull_iff_stored (channels : Channels ι σ) (s : DriverState ι σ)
    (hcounts : ∀ env, (channels s.channel (.read r.asked) env).1.stored.length = r.asked →
      (channels s.channel (.read r.asked) env).1.returned = (r.asked : ℕ)) :
    let sent := r.send channels s.channel s.env
    let waited := channels s.channel (.waitForData r.asked timeout) sent.env
    let stored := (channels s.channel (.read r.asked) waited.2).1.stored
    r.OnlyOnFull channels s out timeout ↔
      (s.isConnected = true → waited.1 = true → HeaderAccepted stored →
        sent.written.accepted = r.frame.length ∧ stored.length = r.asked) := by
  intro sent waited stored
  rw [r.onlyOnFull_iff]
  refine forall_congr' fun _ => ?_
  cases hready : waited.1 with
  | false =>
    have hanswer : (r.await channels s.channel timeout s.env).answer = none :=
      (await_of_not_ready channels s.channel hready).1
    simp [hanswer]
  | true =>
    have hanswer : (r.await channels s.channel timeout s.env).answer =
        some (channels s.channel (.read r.asked) waited.2).1 :=
      (await_of_ready channels s.channel hready).1
    constructor
    · intro h _ haccepted
      have hfull := h _ hanswer haccepted
      exact ⟨hfull.1, hfull.2.2⟩
    · intro h a ha haccepted
      obtain rfl := Option.some.inj (hanswer.symm.trans ha)
      obtain ⟨hsent, hlength⟩ := h rfl haccepted
      exact ⟨hsent, hcounts _ hlength, hlength⟩

/-- Over TCP the answers of `::send` and `::recv` must be full. -/
theorem onlyOnFull_tcp (o : TcpOutcomes) (s : DriverState Unit Unit) :
    r.OnlyOnFull (tcpChannels o) s out timeout ↔
      (s.isConnected = true → o.select = 1 → ∀ bytes, o.recv = .ok bytes → HeaderAccepted bytes →
        o.send = .ok r.frame.length ∧ bytes.length = r.asked) := by
  refine (r.onlyOnFull_iff_stored out timeout (tcpChannels o) s fun _ => congrArg Nat.cast).trans ?_
  change (_ → TcpChannel.waitForData r.asked o.select = true →
    HeaderAccepted (TcpChannel.read o.recv).stored →
      (TcpChannel.write r.frame o.send false).accepted = r.frame.length ∧
        (TcpChannel.read o.recv).stored.length = r.asked) ↔ _
  rw [TcpChannel.waitForData_iff, TcpChannel.write_accepted_iff r.frame_bounds.1]
  refine forall_congr' fun _ => forall_congr' fun _ => ?_
  cases o.recv with
  | error block =>
    refine iff_of_true (fun haccepted => ?_) nofun
    exact absurd haccepted (show ¬ HeaderAccepted [] by decide)
  | ok bytes =>
    constructor
    · rintro h _ ⟨rfl⟩
      exact h
    · exact fun h => h bytes rfl

/-- What `read` returns of datagrams is the number of bytes it has stored, as an `int`. -/
theorem UdpLine.read_returned (size : ℕ) (s : UdpLine) :
    (s.read size).1.returned = ((s.read size).1.stored.length : ℤ).bmod (2 ^ 32) := by
  unfold read
  cases hread : UdpChannel.read size (s.deliverable.map .ok ++ [.error s.now.block]) with
  | none => exact Int.zero_bmod.symm
  | some received =>
    obtain ⟨⟨n, stores⟩, hloop, rfl⟩ := Option.map_eq_some_iff.mp hread
    obtain ⟨more, -, hn, -⟩ :=
      UdpChannel.readLoop_continues (show 0 = (UdpChannel.contents []).length from rfl) hloop
    simp only [Option.elim_some, hn]

/-- No request asks for many bytes. -/
theorem Request.asked_le : r.asked ≤ 1024 := by
  cases r with
  | deviceInfo => decide
  | imuProcessed req =>
    simp only [Request.asked, Request.size]
    decide
  | imuRaw => decide

/-- Over UDP `::sendto` must take the command, and the datagrams must fill the buffer just so. -/
theorem onlyOnFull_udp (s : DriverState Unit UdpLine) :
    let sending := s.env.arrive.arrive
    let waiting := sending.arrive
    let received := UdpChannel.cut r.asked
      (UdpChannel.taken r.asked waiting.arrive.deliverable 0)
    r.OnlyOnFull udpLineChannels s out timeout ↔
      (s.isConnected = true → waiting.now.select = 1 → HeaderAccepted received →
        sending.now.send = .ok r.frame.length ∧ received.length = r.asked) := by
  intro sending waiting received
  have hcounts : ∀ env : UdpLine, (env.read r.asked).1.stored.length = r.asked →
      (env.read r.asked).1.returned = (r.asked : ℕ) := by
    intro env hlength
    have hasked := r.asked_le
    rw [env.read_returned, hlength]
    exact Int.bmod_eq_of_le (by omega) (by omega)
  refine (r.onlyOnFull_iff_stored out timeout udpLineChannels s hcounts).trans ?_
  change (_ → UdpChannel.waitForData r.asked waiting.now.select = true →
    HeaderAccepted (waiting.arrive.read r.asked).1.stored →
      (UdpChannel.write sending.now.send).accepted = r.frame.length ∧
        (waiting.arrive.read r.asked).1.stored.length = r.asked) ↔ _
  rw [UdpChannel.waitForData_iff, UdpChannel.write_accepted_iff r.frame_bounds.1,
    (waiting.arrive.read_spec r.asked).1]

/-- What `read` of `size` bytes stores after a wait whose transfers have delivered `first` and
`second`, from a buffer with the bytes `rxBuffer`. -/
def UsbCache.storedAfter (rxBuffer : List SlU8) (size : ℕ) (first second : List SlU8) :
    List SlU8 :=
  if first.length = size then first
  else (store (store rxBuffer 0 first) (size - first.length) second).take
    (min size ((size - first.length + second.length) % 2 ^ 16))

/-- A read hands out what stands at the start of the buffer, as far as it counts. -/
theorem UsbCache.read_stored (size : ℕ) (c : UsbCache) :
    (c.read size).1.stored = c.rxBuffer.take (min size c.rxSize.toNat) := by
  unfold UsbCache.read
  split
  · next hle => rw [Nat.min_eq_left hle]
  · next hlt => rw [Nat.min_eq_right (Nat.le_of_not_le hlt)]

/-- The result of a wait, and what `read` stores afterwards. -/
theorem UsbCache.read_waitForData {ε : Type} (usb : LibusbTransfers ε) {size : ℕ}
    (hsize : size ≤ maxRxBufferSize) (c : UsbCache) (e : ε) :
    let first := usb.bulkTransfer size timeout e
    let second := (usb.bulkTransfer (size - first.1.data.length) timeout first.2).1
    let waited := waitForData usb size timeout c e
    (waited.1.result = true ↔ first.1.data.length = size ∨ second.success = true) ∧
      (waited.2.1.read size).1.stored =
        storedAfter c.rxBuffer size first.1.data second.data := by
  intro first second waited
  have hmax : maxRxBufferSize = 1224 := rfl
  rw [read_stored, storedAfter]
  by_cases hready : first.1.data.length = size
  · have hfront : (store c.rxBuffer 0 first.1.data).take size = first.1.data := by
      rw [store, List.take_zero, List.nil_append, List.take_left' hready]
    have hwaited : waited = _ := waitForData_complete usb hsize c hready
    rw [hwaited, if_pos hready, BitVec.toNat_ofNat, Nat.mod_eq_of_lt (by omega), Nat.min_self]
    exact ⟨iff_of_true rfl (.inl hready), hfront⟩
  · obtain ⟨hresult, hcache⟩ := waitForData_split usb hsize c hready
    change waited.1 = ⟨second.success, _⟩ at hresult
    change waited.2.1 = ⟨BitVec.ofNat 16 (size - first.1.data.length + second.data.length),
      store (store c.rxBuffer 0 first.1.data) (size - first.1.data.length) second.data⟩ at hcache
    rw [hresult, hcache, if_neg hready, BitVec.toNat_ofNat]
    exact ⟨(or_iff_right hready).symm, rfl⟩

/-- It stores all that is asked for after a full first transfer, or if enough bytes are counted. -/
theorem UsbCache.length_storedAfter {rxBuffer : List SlU8} {size : ℕ}
    (hsize : size ≤ rxBuffer.length) (first second : List SlU8) :
    (storedAfter rxBuffer size first second).length = size ↔
      first.length = size ∨ size ≤ (size - first.length + second.length) % 2 ^ 16 := by
  rw [storedAfter]
  by_cases hfirst : first.length = size
  · rw [if_pos hfirst]
    exact iff_of_true hfirst (.inl hfirst)
  · have hlength : size ≤ (store (store rxBuffer 0 first) (size - first.length) second).length := by
      simp only [store, List.length_append, List.length_take, List.length_drop]
      omega
    rw [if_neg hfirst, or_iff_right hfirst, List.length_take]
    omega

/-- Over USB the transfer to the device must be full, and so must the first one from it, or else
`_rx_size` must be large enough after the second one. -/
theorem onlyOnFull_usb {ε : Type} (usb : LibusbTransfers ε)
    (s : DriverState Unit (UsbCache × ε)) (hbuffer : s.env.1.rxBuffer.length = maxRxBufferSize) :
    let submitted := usb.submitTransfer r.frame s.env.2
    let first := usb.bulkTransfer r.asked timeout submitted.2
    let second := (usb.bulkTransfer (r.asked - first.1.data.length) timeout first.2).1
    r.OnlyOnFull (usbDataChannel usb) s out timeout ↔
      (s.isConnected = true → first.1.data.length = r.asked ∨ second.success = true →
        HeaderAccepted (UsbCache.storedAfter s.env.1.rxBuffer r.asked first.1.data second.data) →
          submitted.1.actualLength = r.frame.length ∧
            (first.1.data.length = r.asked ∨
              r.asked ≤ (r.asked - first.1.data.length + second.data.length) % 2 ^ 16)) := by
  intro submitted first second
  have hasked := r.asked_le
  have hmax : maxRxBufferSize = 1224 := rfl
  have hcounts : ∀ env : UsbCache × ε, (env.1.read r.asked).1.stored.length = r.asked →
      (env.1.read r.asked).1.returned = (r.asked : ℕ) := by
    intro env hlength
    rw [UsbCache.read_stored, List.length_take] at hlength
    rw [UsbCache.read, if_pos (by omega)]
  obtain ⟨hready, hstored⟩ := UsbCache.read_waitForData timeout usb (by omega : r.asked ≤ _)
    s.env.1.flush.clearReadCache submitted.2
  refine (r.onlyOnFull_iff_stored out timeout (usbDataChannel usb) s hcounts).trans ?_
  change (_ → (UsbCache.waitForData usb r.asked timeout s.env.1.flush.clearReadCache
    submitted.2).1.result = true → HeaderAccepted ((UsbCache.waitForData usb r.asked timeout
      s.env.1.flush.clearReadCache submitted.2).2.1.read r.asked).1.stored →
    submitted.1.actualLength = r.frame.length ∧ ((UsbCache.waitForData usb r.asked timeout
      s.env.1.flush.clearReadCache submitted.2).2.1.read r.asked).1.stored.length = r.asked) ↔ _
  rw [hready, hstored, UsbCache.length_storedAfter]
  · rfl
  · change r.asked ≤ s.env.1.rxBuffer.length
    omega

/-- Over a serial port `::write` must take the command before it fails. A wait that returns true
leaves enough bytes to read. -/
theorem onlyOnFull_serial (gnuc : Bool) (s : DriverState Unit SerialLine) :
    let sending := s.env.flush.clearReadCache
    let waited := (sending.write r.frame).2.waitForData r.asked timeout
    r.OnlyOnFull (serialChannels gnuc) s out timeout ↔
      (s.isConnected = true → waited.1 = true →
        HeaderAccepted (waited.2.received.queue.take r.asked) →
          r.frame.length ≤ granted sending.now.writes) := by
  intro sending waited
  refine (r.onlyOnFull_iff_stored out timeout (serialChannels gnuc) s
    fun _ => congrArg Nat.cast).trans ?_
  change (_ → waited.1 = true → HeaderAccepted (waited.2.read r.asked).1.stored →
    (sending.write r.frame).1.accepted = r.frame.length ∧
      (waited.2.read r.asked).1.stored.length = r.asked) ↔ _
  refine forall_congr' fun _ => forall_congr' fun hready => ?_
  have hopen : (sending.write r.frame).2.channel.rxtxSerial.port.isSerialOpened = true :=
    SerialLine.opened_of_waitForData hready
  have hread := (SerialLine.read_of_open (s := waited.2) hopen r.asked).1
  have hlong := ((sending.write r.frame).2.waitForData_sound r.asked timeout).2 hready
  have hlength : (waited.2.received.queue.take r.asked).length = r.asked := by
    have hmore : waited.2.tty.queue.length ≤ waited.2.received.queue.length := by
      unfold SerialLine.received
      rw [Fifo.arrive_queue, List.length_append]
      exact Nat.le_add_right _ _
    rw [List.length_take]
    exact Nat.min_eq_left (hlong.trans hmore)
  rw [SerialLine.write_port] at hopen
  rw [hread, SerialLine.write_granted hopen r.frame_bounds.1]
  simp only [hlength, and_true]
  rw [min_eq_left_iff]

end Slamkit
