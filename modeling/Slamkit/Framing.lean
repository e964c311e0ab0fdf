import Mathlib.Tactic.IntervalCases
import Slamkit.Driver

/-!
# Command framing

`_sendCommand` builds the packet of a command in three stages: the split of the
length into two bytes, a loop that accumulates the checksum and the payload,
and a copy into a fixed array. This file gives the packet in closed form and
proves that the packets form a uniquely decodable, error-detecting code for the
layout of `sl_slamkit_cmd_packet_t`.
-/

namespace Slamkit

open Library

variable {ι σ : Type}

/-- The low length byte. -/
theorem lengthL_toNat (x : SlU16) :
    ((x &&& 0x00ff#16).setWidth 8 : SlU8).toNat = x.toNat % 256 := by
  have h : (x &&& 0x00ff#16).setWidth 8 = (x.setWidth 8 : SlU8) := by
    ext i hi
    have hmask : (0x00ff#16).getLsbD i = true := by interval_cases i <;> rfl
    rw [BitVec.getElem_setWidth, BitVec.getLsbD_and, BitVec.getElem_setWidth, hmask,
      Bool.and_true]
  rw [h]
  simp

/-- The high length byte. -/
theorem lengthH_toNat (x : SlU16) :
    (((x &&& 0xff00#16) >>> 8).setWidth 8 : SlU8).toNat = x.toNat / 256 := by
  have h : ((x &&& 0xff00#16) >>> 8).setWidth 8 = ((x >>> 8).setWidth 8 : SlU8) := by
    ext i hi
    have hmask : (0xff00#16).getLsbD (8 + i) = true := by interval_cases i <;> rfl
    rw [BitVec.getElem_setWidth, BitVec.getLsbD_ushiftRight, BitVec.getLsbD_and,
      BitVec.getElem_setWidth, BitVec.getLsbD_ushiftRight, hmask, Bool.and_true]
  have hx := x.isLt
  rw [h]
  simp [Nat.shiftRight_eq_div_pow]
  omega

/-- The payload loop adds the payload to both accumulators. -/
theorem payload_loop (checksum : SlU8) (packet payload : List SlU8) :
    payload.foldl (fun r byte => (r.1 ^^^ byte, r.2 ++ [byte])) (checksum, packet) =
      (checksum ^^^ xorBytes payload, packet ++ payload) := by
  induction payload generalizing checksum packet with
  | nil => simp
  | cons byte payload ih =>
    rw [List.foldl_cons, ih, xorBytes_cons, BitVec.xor_assoc, List.append_assoc]
    rfl

/-- The four bytes in front of the payload. -/
def packetHeader (cmd : SlU8) (n : ℕ) : List SlU8 :=
  let length : SlU16 := BitVec.ofNat 16 (n + 1)
  [slSlamkitCmdSyncByte, (length &&& 0x00ff#16).setWidth 8,
    ((length &&& 0xff00#16) >>> 8).setWidth 8, cmd]

/-- The packet is the header, the payload and the exclusive-or of both. -/
theorem cmdPacket_eq (cmd : SlU8) (payload : List SlU8) :
    cmdPacket cmd payload = packetHeader cmd payload.length ++ payload ++
      [xorBytes (packetHeader cmd payload.length ++ payload)] := by
  simp [cmdPacket, payload_loop, packetHeader, BitVec.xor_assoc]

@[simp] theorem cmdPacket_length (cmd : SlU8) (payload : List SlU8) :
    (cmdPacket cmd payload).length = payload.length + 5 := by
  rw [cmdPacket_eq]
  simp [packetHeader]

/-- The checksum byte makes the exclusive-or of the whole packet zero. -/
theorem cmdPacket_xor (cmd : SlU8) (payload : List SlU8) :
    xorBytes (cmdPacket cmd payload) = 0#8 := by
  rw [cmdPacket_eq, xorBytes_append, xorBytes_cons, xorBytes_nil, BitVec.xor_zero,
    BitVec.xor_self]

/-- After `k` rounds the copy loop has copied the first `k` bytes. -/
theorem copy_loop (packet : List SlU8) (hsize : packet.length ≤ 1024) {k : ℕ}
    (hk : k ≤ packet.length) :
    (List.range k).foldl (fun array pos => array.set pos (packet.getD pos 0#8))
        (List.replicate 1024 0#8) = packet.take k ++ List.replicate (1024 - k) 0#8 := by
  induction k with
  | zero => rw [List.range_zero, List.foldl_nil, List.take_zero, List.nil_append, Nat.sub_zero]
  | succ k ih =>
    have hlt : k < packet.length := hk
    have hsucc : 1024 - k = (1024 - (k + 1)) + 1 := by omega
    rw [List.range_succ, List.foldl_append, List.foldl_cons, List.foldl_nil, ih (by omega),
      List.set_append_right _ _ (List.length_take_le _ _), List.length_take_of_le hlt.le,
      Nat.sub_self, hsucc, List.replicate_succ, List.set_cons_zero, List.take_add_one,
      List.getElem?_eq_getElem hlt, List.append_assoc, List.getD_eq_getElem?_getD,
      List.getElem?_eq_getElem hlt]
    rfl

/-- A packet that fits the array is copied unchanged. -/
theorem copyPacket_eq {packet : List SlU8} (hsize : packet.length ≤ 1024) :
    copyPacket packet = packet := by
  rw [copyPacket, copy_loop packet hsize le_rfl, List.take_length,
    List.take_left' rfl]

/-- The packet handed to `write` for a payload that fits. -/
theorem copyPacket_cmdPacket (cmd : SlU8) {payload : List SlU8} (h : payload.length ≤ 1019) :
    copyPacket (cmdPacket cmd payload) = cmdPacket cmd payload :=
  copyPacket_eq (by rw [cmdPacket_length]; omega)

/-- The command of a request is not empty, and fits the buffer of a packet. -/
theorem Request.frame_bounds (r : Request) : 0 < r.frame.length ∧ r.frame.length ≤ 1024 := by
  have hreq : r.txReq.length ≤ 1019 := by
    cases r with
    | deviceInfo => decide
    | imuProcessed req =>
      change (ReadImuProcessedRequest.layout.encode req).length + 1 ≤ 1019
      rw [Packed.encode_length]
      decide
    | imuRaw => decide
  unfold Request.frame
  rw [copyPacket_cmdPacket _ hreq, cmdPacket_length]
  omega

/-- The bytes of a `write` call. -/
def ChannelCall.written? : ChannelCall ι → Option (List SlU8)
  | ⟨_, .write data, _⟩ => some data
  | _ => none

/-- The byte strings `_sendCommand` hands to `write` when it is run from `s`. -/
def sentFrames (channels : Channels ι σ) (s : DriverState ι σ) (cmd : SlU8)
    (payload : List SlU8) : List (List SlU8) :=
  ((s.exec channels (sendCommand cmd payload)).2.calls.drop s.calls.length).filterMap
    ChannelCall.written?

/-- A connected driver sends one packet per command. -/
theorem sentFrames_eq (channels : Channels ι σ) {s : DriverState ι σ} (hconn : s.isConnected = true)
    (cmd : SlU8) (payload : List SlU8) :
    sentFrames channels s cmd payload = [copyPacket (cmdPacket cmd payload)] := by
  simp [sentFrames, DriverState.exec, sendCommand, isConnected, invoke, DriverState.handle, hconn]
  rfl

/-- Read one packet: the sync byte, the little-endian length, the command, one
byte less of payload than the length says, and the checksum byte. The rest of
the input is returned with the command and the payload. -/
def readPacket : List SlU8 → Option ((SlU8 × List SlU8) × List SlU8)
  | sync :: lengthL :: lengthH :: cmd :: rest =>
    let length := lengthL.toNat + 256 * lengthH.toNat
    if sync = slSlamkitCmdSyncByte ∧ 0 < length ∧ length ≤ rest.length ∧
        xorBytes (sync :: lengthL :: lengthH :: cmd :: rest.take length) = 0#8 then
      some ((cmd, rest.take (length - 1)), rest.drop length)
    else none
  | _ => none

/-- Reading a packet shortens the input. -/
theorem readPacket_length {bytes rest : List SlU8} {packet : SlU8 × List SlU8}
    (h : readPacket bytes = some (packet, rest)) : rest.length < bytes.length := by
  unfold readPacket at h
  split at h
  · simp only at h
    split at h
    · simp only [Option.some.injEq, Prod.mk.injEq] at h
      rw [← h.2]
      simp only [List.length_drop, List.length_cons]
      omega
    · cases h
  · cases h

/-- Read packets until the input is used up. -/
def readPackets (bytes : List SlU8) : Option (List (SlU8 × List SlU8)) :=
  if bytes = [] then some [] else
    match h : readPacket bytes with
    | none => none
    | some (packet, rest) =>
      have : rest.length < bytes.length := readPacket_length h
      (readPackets rest).map (packet :: ·)
termination_by bytes.length

/-- One round of reading packets. -/
theorem readPackets_of_readPacket {bytes rest : List SlU8} {packet : SlU8 × List SlU8}
    (h : readPacket bytes = some (packet, rest)) :
    readPackets bytes = (readPackets rest).map (packet :: ·) := by
  have hne : bytes ≠ [] := by
    rintro rfl
    cases h
  rw [readPackets, if_neg hne]
  split
  · next hnone =>
    rw [h] at hnone
    cases hnone
  · next packet' rest' hsome =>
    obtain ⟨rfl, rfl⟩ : packet = packet' ∧ rest = rest' := by simpa [h] using hsome
    rfl

/-- A packet in front of any input is read back, and exactly its bytes are used. -/
theorem readPacket_cmdPacket (cmd : SlU8) {payload : List SlU8} (h : payload.length ≤ 1019)
    (rest : List SlU8) :
    readPacket (cmdPacket cmd payload ++ rest) = some ((cmd, payload), rest) := by
  have hxor := cmdPacket_xor cmd payload
  rw [cmdPacket_eq] at hxor ⊢
  simp only [packetHeader, List.cons_append, List.nil_append] at hxor ⊢
  set length : SlU16 := BitVec.ofNat 16 (payload.length + 1) with hlength
  have hvalue : length.toNat = payload.length + 1 := by
    rw [hlength, BitVec.toNat_ofNat, Nat.mod_eq_of_lt (by omega)]
  have hsplit : length.toNat % 256 + 256 * (length.toNat / 256) = payload.length + 1 := by omega
  rw [readPacket, lengthL_toNat, lengthH_toNat, hsplit, if_pos]
  · simp [List.drop_append]
  · refine ⟨rfl, by omega, by simp, ?_⟩
    rw [List.take_left' (by simp)]
    exact hxor

/-- The concatenation of packets is read back as the list of their contents. -/
theorem readPackets_cmdPackets {commands : List (SlU8 × List SlU8)}
    (h : ∀ command ∈ commands, command.2.length ≤ 1019) :
    readPackets (commands.flatMap fun command => cmdPacket command.1 command.2) =
      some commands := by
  induction commands with
  | nil => rw [List.flatMap_nil, readPackets, if_pos rfl]
  | cons command commands ih =>
    have hread := readPacket_cmdPacket command.1 (h command (by simp))
      (commands.flatMap fun command => cmdPacket command.1 command.2)
    rw [List.flatMap_cons, readPackets_of_readPacket hread, ih fun c hc => h c (by simp [hc])]
    rfl

/-- **Framing is uniquely decodable.** The one byte string a connected driver
hands to `write` for a command and a payload of at most 1019 bytes is read back
by the packet layout, in any list of packets, and no change of a single byte
goes unnoticed by the checksum. -/
theorem sentFrames_uniquely_decodable (channels : Channels ι σ) {s : DriverState ι σ}
    (hconn : s.isConnected = true) :
    ∃ f : SlU8 → List SlU8 → List SlU8,
      (∀ cmd payload, payload.length ≤ 1019 → sentFrames channels s cmd payload = [f cmd payload]) ∧
      (∀ cmd payload, payload.length ≤ 1019 → (f cmd payload).length = payload.length + 5 ∧
        ∀ rest, readPacket (f cmd payload ++ rest) = some ((cmd, payload), rest)) ∧
      (∀ commands : List (SlU8 × List SlU8), (∀ command ∈ commands, command.2.length ≤ 1019) →
        readPackets (commands.flatMap fun command => f command.1 command.2) = some commands) ∧
      (∀ cmd payload, payload.length ≤ 1019 → ∀ front b b' back,
        f cmd payload = front ++ b :: back → b' ≠ b → xorBytes (front ++ b' :: back) ≠ 0#8) := by
  refine ⟨cmdPacket, ?_, ?_, ?_, ?_⟩
  · intro cmd payload h
    rw [sentFrames_eq channels hconn, copyPacket_cmdPacket cmd h]
  · intro cmd payload h
    exact ⟨cmdPacket_length cmd payload, readPacket_cmdPacket cmd h⟩
  · intro commands h
    exact readPackets_cmdPackets h
  · intro cmd payload _ front b b' back hf hne hzero
    have hxor := cmdPacket_xor cmd payload
    rw [hf, ← hzero] at hxor
    exact xorBytes_ne_of_replace hne.symm hxor

/-- The packet of the raw-data request has ten bytes. -/
theorem sentFrames_uniquely_decodable_imuRaw :
    ∃ frame, sentFrames (cannedChannels []) connectedDriver cmdCodeSlamtecSlamkit
        getImuRawDataTxReq = [frame] ∧ frame.length = 10 ∧
      readPacket frame = some ((cmdCodeSlamtecSlamkit, getImuRawDataTxReq), []) := by
  obtain ⟨f, hsent, hread, _⟩ :=
    sentFrames_uniquely_decodable (cannedChannels []) connectedDriver_isConnected
  obtain ⟨hlength, hpacket⟩ := hread cmdCodeSlamtecSlamkit getImuRawDataTxReq (by decide)
  have hrest := hpacket []
  rw [List.append_nil] at hrest
  exact ⟨_, hsent _ _ (by decide), hlength, hrest⟩

end Slamkit
