import Slamkit.Exchange
import Slamkit.Tcp

/-!
# What the driver accepts as a reply

The three requests accept a reply by the same two tests. This file states the
exact condition for a success, what it means for a transfer that is cut short,
and that the bytes of a response structure are decoded to its fields.
-/

namespace Slamkit

open Library

variable {ι σ β : Type}

/-- `SL_RESULT_ALREADY_DONE` is no success. -/
theorem alreadyDone_ne_ok : slResultAlreadyDone ≠ slResultOk := by decide

/-- `SL_RESULT_INVALID_DATA` is no success. -/
theorem invalidData_ne_ok : slResultInvalidData ≠ slResultOk := by decide

/-- `SL_RESULT_OPERATION_FAIL` is no success. -/
theorem operationFail_ne_ok : slResultOperationFail ≠ slResultOk := by decide

/-- `SL_RESULT_OPERATION_TIMEOUT` is no success. -/
theorem operationTimeout_ne_ok : slResultOperationTimeout ≠ slResultOk := by decide

/-- **A failed request leaves the caller's data alone.** Whatever the channel does and whether
the driver is connected or not, a request with any result but `SL_RESULT_OK` leaves its output
structure as it was. -/
theorem Request.failure_keeps_output (r : Request) (channels : Channels ι σ)
    (s : DriverState ι σ) (out : r.Output) (timeout : SlU32)
    (hfail : (s.exec channels (r.program out timeout)).1.1 ≠ slResultOk) :
    (s.exec channels (r.program out timeout)).1.2 = out := by
  rcases r.exec_cases channels s out timeout with ⟨-, hkept⟩ | hok
  · exact hkept
  · exact absurd hok hfail

/-- A request that receives nothing finds no sync byte. -/
theorem failure_keeps_output_empty :
    (connectedDriver.exec (cannedChannels [])
      (Request.imuRaw.program ⟨1, 2, 3, 4, 5, 6, 7, 8, 9, 10⟩ defaultTimeout)).1.2 =
        ⟨1, 2, 3, 4, 5, 6, 7, 8, 9, 10⟩ :=
  Request.imuRaw.failure_keeps_output (cannedChannels []) connectedDriver _ defaultTimeout
    (show slResultInvalidData ≠ slResultOk from invalidData_ne_ok)

/-- The tests a request makes on the bytes it has received: the first byte and the
status byte. A byte that was not received reads as zero. -/
def HeaderAccepted (stored : List SlU8) : Prop :=
  stored.getD 0 0#8 = slSlamkitCmdSyncByte ∧ stored.getD 3 0#8 ≠ statusCodeAnsRxerr

instance (stored : List SlU8) : Decidable (HeaderAccepted stored) :=
  inferInstanceAs (Decidable (_ ∧ _))

/-- The tests see the received bytes through the zero-filled buffer. -/
theorem accept_overlay (load : List SlU8 → β) (stored : List SlU8) (out : β) :
    accept load (overlay stored zeroBuffer) out =
      if stored.getD 0 0#8 ≠ slSlamkitCmdSyncByte then (slResultInvalidData, out)
      else if stored.getD 3 0#8 = statusCodeAnsRxerr then (slResultOperationFail, out)
      else (slResultOk, load ((overlay stored zeroBuffer).drop 4)) := by
  simp only [accept, zeroBuffer, overlay_getD]

/-- A request succeeds exactly if the channel has delivered an accepted reply. -/
theorem respond_eq_ok_iff (load : List SlU8 → β) (answer : Option ReadResult) (out : β) :
    (respond load answer out).1 = slResultOk ↔ ∃ a, answer = some a ∧ HeaderAccepted a.stored := by
  cases answer with
  | none =>
    simp only [respond, Option.elim_none, reduceCtorEq, false_and, exists_false, iff_false]
    exact operationTimeout_ne_ok
  | some a =>
    simp only [respond, Option.elim_some, Option.some.injEq, exists_eq_left', HeaderAccepted,
      accept_overlay]
    by_cases hsync : a.stored.getD 0 0#8 = slSlamkitCmdSyncByte
    · by_cases hstatus : a.stored.getD 3 0#8 = statusCodeAnsRxerr
      · rw [if_neg (not_not.mpr hsync), if_pos hstatus]
        exact ⟨fun h => absurd h operationFail_ne_ok, fun h => absurd hstatus h.2⟩
      · rw [if_neg (not_not.mpr hsync), if_neg hstatus]
        exact ⟨fun _ => ⟨hsync, hstatus⟩, fun _ => rfl⟩
    · rw [if_pos hsync]
      exact ⟨fun h => absurd h invalidData_ne_ok, fun h => absurd h.1 hsync⟩

/-- A successful request has decoded the bytes behind the header. -/
theorem respond_of_accepted (load : List SlU8 → β) {a : ReadResult} (h : HeaderAccepted a.stored)
    (out : β) :
    respond load (some a) out = (slResultOk, load ((overlay a.stored zeroBuffer).drop 4)) := by
  simp only [respond, Option.elim_some, accept_overlay, if_neg (not_not.mpr h.1), if_neg h.2]

/-- A request of any driver succeeds exactly if the driver is connected and the
channel has delivered an accepted reply. -/
theorem Request.ok_iff (r : Request) (channels : Channels ι σ) (s : DriverState ι σ)
    (out : r.Output) (timeout : SlU32) :
    (s.exec channels (r.program out timeout)).1.1 = slResultOk ↔
      s.isConnected = true ∧ ∃ a, (r.await channels s.channel timeout s.env).answer = some a ∧
        HeaderAccepted a.stored := by
  cases hconn : s.isConnected with
  | false =>
    rw [r.exec_of_not_connected channels hconn]
    simp only [Bool.false_eq_true, false_and, iff_false]
    exact operationFail_ne_ok
  | true =>
    rw [r.exec channels hconn]
    simp only [respond_eq_ok_iff, true_and]

/-- The packet rule for a reply with a response structure of `n` bytes: the sync
byte, the little-endian length, a status other than a receive error, and a zero
exclusive-or of all bytes. -/
def WellFormedReply (n : ℕ) (bytes : List SlU8) : Prop :=
  bytes.length = n + 5 ∧ bytes.getD 0 0#8 = slSlamkitCmdSyncByte ∧
    (bytes.getD 1 0#8).toNat + 256 * (bytes.getD 2 0#8).toNat = n + 1 ∧
    bytes.getD 3 0#8 ≠ statusCodeAnsRxerr ∧ xorBytes bytes = 0#8

instance (n : ℕ) (bytes : List SlU8) : Decidable (WellFormedReply n bytes) :=
  inferInstanceAs (Decidable (_ ∧ _))

/-- **The acceptance test.** A request to which the channel delivers a byte string
of full length succeeds exactly if the driver is connected, the first byte is the
sync byte and the status byte is not `STATUS_CODE_ANS_RXERR`. The length bytes,
the checksum and every other byte are not examined. -/
theorem request_ok_iff_header (r : Request) (channels : Channels ι σ) (s : DriverState ι σ)
    (out : r.Output) (timeout : SlU32) {bytes : List SlU8} (hlength : bytes.length = r.size + 5)
    (hanswer : (r.await channels s.channel timeout s.env).answer = some ⟨r.size + 5, bytes⟩) :
    (s.exec channels (r.program out timeout)).1.1 = slResultOk ↔
      s.isConnected = true ∧ bytes[0] = slSlamkitCmdSyncByte ∧ bytes[3] ≠ statusCodeAnsRxerr := by
  rw [r.ok_iff, hanswer]
  simp [HeaderAccepted, hlength]

/-- A raw-data output structure of zeros. -/
def zeroImuRawData : ImuRawData := ⟨0, 0, 0, 0, 0, 0, 0, 0, 0, 0⟩

/-- A well-formed reply to the raw-data request: all readings are zero. -/
def goodReply : List SlU8 :=
  [0x50#8, 27#8, 0x00#8, 0x02#8] ++ List.replicate 26 0x00#8 ++ [0x49#8]

/-- The well-formed reply is accepted. -/
theorem request_ok_iff_header_goodReply :
    WellFormedReply 26 goodReply ∧
      (connectedDriver.exec (cannedChannels goodReply)
        (Request.imuRaw.program zeroImuRawData defaultTimeout)).1.1 = slResultOk :=
  ⟨by decide +kernel,
    (request_ok_iff_header .imuRaw (cannedChannels goodReply) connectedDriver zeroImuRawData
      defaultTimeout (show goodReply.length = Request.imuRaw.size + 5 by decide +kernel) rfl).mpr
      ⟨rfl, by decide +kernel, by decide +kernel⟩⟩

/-- A reply of the right size with a zero length, a zero checksum byte and
readings that do not match it. -/
def corruptReply : List SlU8 :=
  [0x50#8, 0x00#8, 0x00#8, 0x02#8] ++ List.replicate 26 0xff#8 ++ [0x00#8]

/-- A corrupt reply is handed to the caller as data: it has neither the length nor
the checksum of a packet, and the request that receives it succeeds. -/
theorem corruptReply_accepted :
    corruptReply.length = Request.imuRaw.size + 5 ∧ ¬ WellFormedReply 26 corruptReply ∧
      (connectedDriver.exec (cannedChannels corruptReply)
        (Request.imuRaw.program zeroImuRawData defaultTimeout)).1.1 = slResultOk := by
  decide +kernel

/-- The transfers of a request were complete: `write` took the whole packet, and
`read` returned and stored exactly the bytes of the response packet. -/
def FullTransfers (r : Request) (written : WriteResult) (a : ReadResult) : Prop :=
  written.accepted = r.frame.length ∧ a.returned = (pktSizeExPayload + r.size : ℕ) ∧
    a.stored.length = pktSizeExPayload + r.size

instance (r : Request) (written : WriteResult) (a : ReadResult) :
    Decidable (FullTransfers r written a) :=
  inferInstanceAs (Decidable (_ ∧ _))

/-- On complete transfers every byte that is decoded was received. -/
theorem respond_of_full (r : Request) {a : ReadResult} (h : HeaderAccepted a.stored)
    (hfull : a.stored.length = pktSizeExPayload + r.size) (out : r.Output) :
    respond r.load (some a) out = (slResultOk, r.load (a.stored.drop 4)) := by
  have hdrop : (overlay a.stored zeroBuffer).drop 4 =
      a.stored.drop 4 ++ zeroBuffer.drop a.stored.length := by
    rw [overlay, List.drop_append_of_le_length (by rw [hfull]; simp [pktSizeExPayload]; omega)]
  have hsize : r.size ≤ (a.stored.drop 4).length := by
    rw [List.length_drop, hfull]
    simp only [pktSizeExPayload]
    omega
  rw [respond_of_accepted r.load h, hdrop]
  cases r with
  | deviceInfo => rw [Request.load, InfoResponse.layout.decode_append _ hsize]
  | imuProcessed req =>
    simp only [Request.load]
    rw [ReadImuProcessedResponse.layout.decode_append _ hsize]
  | imuRaw => simp only [Request.load, loadImuRawData,
      ReadImuRawResponse.layout.decode_append _ hsize]

/-- A request succeeds on complete transfers only, and then with a structure whose every byte has
been read from the channel. -/
def Request.OnlyOnFull (r : Request) (channels : Channels ι σ) (s : DriverState ι σ)
    (out : r.Output) (timeout : SlU32) : Prop :=
  let written := (r.send channels s.channel s.env).written
  let answer := (r.await channels s.channel timeout s.env).answer
  let result := (s.exec channels (r.program out timeout)).1
  result.1 = slResultOk → ∃ a, answer = some a ∧ FullTransfers r written a ∧
    result.2 = r.load (a.stored.drop 4)

/-- It does so if every answer of the channel that passes the two tests comes from complete
transfers. -/
theorem Request.onlyOnFull_iff (r : Request) (channels : Channels ι σ) (s : DriverState ι σ)
    (out : r.Output) (timeout : SlU32) :
    r.OnlyOnFull channels s out timeout ↔ (s.isConnected = true →
      ∀ a, (r.await channels s.channel timeout s.env).answer = some a → HeaderAccepted a.stored →
        FullTransfers r (r.send channels s.channel s.env).written a) := by
  constructor
  · intro h hconn a ha haccepted
    obtain ⟨b, hb, hfull, -⟩ := h ((r.ok_iff channels s out timeout).mpr ⟨hconn, a, ha, haccepted⟩)
    obtain rfl : a = b := Option.some.inj (ha.symm.trans hb)
    exact hfull
  · intro h hok
    obtain ⟨hconn, a, ha, haccepted⟩ := (r.ok_iff channels s out timeout).mp hok
    have hfull := h hconn a ha haccepted
    have hexec := r.exec_fst channels hconn out timeout
    rw [ha, respond_of_full r haccepted hfull.2.2] at hexec
    exact ⟨a, ha, hfull, congrArg Prod.snd hexec⟩

/-- The first TCP segment of a reply: the header and the accelerometer words. -/
def firstSegment : List SlU8 :=
  [0x50#8, 27#8, 0x00#8, 0x02#8, 0x01#8, 0x00#8, 0x02#8, 0x00#8, 0x03#8, 0x00#8]

/-- A request over TCP whose command is sent in full and of whose reply a first
segment of ten bytes has arrived. -/
def segmentedOutcomes : TcpOutcomes := ⟨1, .ok Request.imuRaw.frame.length, .ok firstSegment⟩

/-- A response packet: the sync byte place, the length bytes, the status, the
response structure and the checksum. -/
def replyPacket (first lengthL lengthH status : SlU8) (payload : List SlU8) (checksum : SlU8) :
    List SlU8 :=
  [first, lengthL, lengthH, status] ++ payload ++ [checksum]

/-- Decoding sees the structure at offset four whatever surrounds it. -/
theorem respond_replyPacket (load : List SlU8 → β) {value : β} {payload : List SlU8}
    (hload : ∀ rest, load (payload ++ rest) = value)
    (first lengthL lengthH status checksum : SlU8) (returned : ℤ) (out : β) :
    respond load (some ⟨returned, replyPacket first lengthL lengthH status payload checksum⟩) out =
      if first ≠ slSlamkitCmdSyncByte then (slResultInvalidData, out)
      else if status = statusCodeAnsRxerr then (slResultOperationFail, out)
      else (slResultOk, value) := by
  have hdrop : (overlay (replyPacket first lengthL lengthH status payload checksum)
      zeroBuffer).drop 4 = payload ++ ([checksum] ++
        zeroBuffer.drop (replyPacket first lengthL lengthH status payload checksum).length) := by
    simp [overlay, replyPacket]
  simp only [respond, Option.elim_some, accept_overlay, hdrop, hload]
  simp [replyPacket]

/-- **Decoding undoes encoding.** Whatever the output structure held before, and for
all length and checksum bytes: a reply with another first byte is invalid data, a
reply with a receive error fails, and any other reply that carries the packed
bytes of a response structure succeeds with the fields of that structure. -/
theorem decode_replies (channels : Channels ι σ) {s : DriverState ι σ}
    (hconn : s.isConnected = true) (first lengthL lengthH status checksum : SlU8)
    (timeout : SlU32) :
    (∀ (info r : InfoResponse) (returned : ℤ),
      (Request.deviceInfo.await channels s.channel timeout s.env).answer = some ⟨returned,
        replyPacket first lengthL lengthH status (InfoResponse.layout.encode r) checksum⟩ →
      (s.exec channels (getDeviceInfo info timeout)).1 =
        if first ≠ slSlamkitCmdSyncByte then (slResultInvalidData, info)
        else if status = statusCodeAnsRxerr then (slResultOperationFail, info)
        else (slResultOk, r)) ∧
    (∀ (req : ReadImuProcessedRequest) (processedData r : ReadImuProcessedResponse)
        (returned : ℤ),
      ((Request.imuProcessed req).await channels s.channel timeout s.env).answer = some ⟨returned,
        replyPacket first lengthL lengthH status (ReadImuProcessedResponse.layout.encode r)
          checksum⟩ →
      (s.exec channels (setMotionHitAndGetImuProcessed req processedData timeout)).1 =
        if first ≠ slSlamkitCmdSyncByte then (slResultInvalidData, processedData)
        else if status = statusCodeAnsRxerr then (slResultOperationFail, processedData)
        else (slResultOk, r)) ∧
    (∀ (imuRawData : ImuRawData) (r : ReadImuRawResponse) (returned : ℤ),
      (Request.imuRaw.await channels s.channel timeout s.env).answer = some ⟨returned,
        replyPacket first lengthL lengthH status (ReadImuRawResponse.layout.encode r) checksum⟩ →
      ∃ data : ImuRawData,
        (s.exec channels (getImuRawData imuRawData timeout)).1 =
          (if first ≠ slSlamkitCmdSyncByte then (slResultInvalidData, imuRawData)
          else if status = statusCodeAnsRxerr then (slResultOperationFail, imuRawData)
          else (slResultOk, data)) ∧
        data.accX.toInt = r.inertiaRawData.acc.accX.toInt ∧
        data.accY.toInt = r.inertiaRawData.acc.accY.toInt ∧
        data.accZ.toInt = r.inertiaRawData.acc.accZ.toInt ∧
        data.gyroX.toInt = r.inertiaRawData.gyro.gyroX.toInt ∧
        data.gyroY.toInt = r.inertiaRawData.gyro.gyroY.toInt ∧
        data.gyroZ.toInt = r.inertiaRawData.gyro.gyroZ.toInt ∧
        data.magX = r.compassRawData.hmcX ∧ data.magY = r.compassRawData.hmcY ∧
        data.magZ = r.compassRawData.hmcZ ∧ data.timestamp = r.inertiaRawData.timestamp) := by
  refine ⟨?_, ?_, ?_⟩
  · intro info r returned hanswer
    have hexec := Request.deviceInfo.exec_fst channels hconn info timeout
    rw [hanswer] at hexec
    exact hexec.trans
      (respond_replyPacket _ (InfoResponse.layout.decode_encode r) _ _ _ _ _ _ _)
  · intro req processedData r returned hanswer
    have hexec := (Request.imuProcessed req).exec_fst channels hconn processedData timeout
    rw [hanswer] at hexec
    exact hexec.trans
      (respond_replyPacket _ (ReadImuProcessedResponse.layout.decode_encode r) _ _ _ _ _ _ _)
  · intro imuRawData r returned hanswer
    have hexec := Request.imuRaw.exec_fst channels hconn imuRawData timeout
    have hload : ∀ rest, loadImuRawData (ReadImuRawResponse.layout.encode r ++ rest) =
        loadImuRawData (ReadImuRawResponse.layout.encode r) := by
      intro rest
      simp only [loadImuRawData,
        ReadImuRawResponse.layout.decode_append rest (ReadImuRawResponse.layout.encode_length r).ge]
    have hdecode : ReadImuRawResponse.layout.decode (ReadImuRawResponse.layout.encode r) = r := by
      have h := ReadImuRawResponse.layout.decode_encode r []
      rwa [List.append_nil] at h
    rw [hanswer] at hexec
    refine ⟨loadImuRawData (ReadImuRawResponse.layout.encode r),
      hexec.trans (respond_replyPacket _ hload _ _ _ _ _ _ _), ?_⟩
    simp [loadImuRawData, hdecode]

/-- A device information response with a value in every field. -/
def sampleInfoResponse : InfoResponse :=
  ⟨0x0102#16, 0x0304#16, 0x0506#16, fun i => BitVec.ofNat 32 (0x01020304 + i), 0x0a0b0c0d#32, 7#32⟩

/-- A processed response with a value in every field. -/
def sampleProcessedResponse : ReadImuProcessedResponse :=
  ⟨0x00010203#32, 7#8, ⟨1#32, 2#32, 0x80000000#32⟩, ⟨4#32, 5#32, 6#32, 7#32, 8#32, 0xffffffff#32⟩⟩

/-- A raw response with negative readings. -/
def sampleRawResponse : ReadImuRawResponse :=
  ⟨⟨⟨0xffff#16, 2#16, 3#16⟩, ⟨0x8000#16, 5#16, 6#16⟩, 7#16, 0x01020304#32⟩, ⟨-1, 2, 3, 4#16⟩⟩

/-- The three requests on the sample responses, one of them with a receive error. -/
theorem decode_replies_samples :
    (connectedDriver.exec (cannedChannels (replyPacket 0x50#8 31#8 0#8 2#8
        (InfoResponse.layout.encode sampleInfoResponse) 0#8))
      (getDeviceInfo ⟨0#16, 0#16, 0#16, fun _ => 0#32, 0#32, 0#32⟩)).1 =
        (slResultOk, sampleInfoResponse) ∧
    (connectedDriver.exec (cannedChannels (replyPacket 0x50#8 42#8 0#8 3#8
        (ReadImuProcessedResponse.layout.encode sampleProcessedResponse) 0#8))
      (setMotionHitAndGetImuProcessed ⟨0#32, 1#8, 0, 0, 0⟩ sampleProcessedResponse)).1 =
        (slResultOperationFail, sampleProcessedResponse) ∧
    ∃ data : ImuRawData,
      (connectedDriver.exec (cannedChannels (replyPacket 0x50#8 27#8 0#8 2#8
          (ReadImuRawResponse.layout.encode sampleRawResponse) 0#8))
        (getImuRawData zeroImuRawData)).1 = (slResultOk, data) ∧
      data.accX.toInt = -1 ∧ data.gyroX.toInt = -32768 ∧ data.magX = -1 := by
  refine ⟨?_, ?_, ?_⟩
  · exact (decode_replies (cannedChannels _) connectedDriver_isConnected 0x50#8 31#8 0#8 2#8 0#8
      defaultTimeout).1 _ sampleInfoResponse _ rfl
  · exact (decode_replies (cannedChannels _) connectedDriver_isConnected 0x50#8 42#8 0#8 3#8 0#8
      defaultTimeout).2.1 _ _ sampleProcessedResponse _ rfl
  · obtain ⟨data, hexec, haccX, _, _, hgyroX, _, _, hmagX, _⟩ :=
      (decode_replies (cannedChannels _) connectedDriver_isConnected 0x50#8 27#8 0#8 2#8 0#8
        defaultTimeout).2.2 zeroImuRawData sampleRawResponse _ rfl
    exact ⟨data, hexec, haccX, hgyroX, hmagX⟩

end Slamkit
