import Slamkit.Replies

/-!
# The device behind a channel

A device answers each command it has received with one reply. Its replies carry
nothing that says which command they answer, so whether a request is given the
reply to its own command depends on the order in which replies are read.
-/

namespace Slamkit

/-- A device: its reply to the last of some commands. -/
abbrev Device := List (List SlU8) → List SlU8

/-- The reply of a device to command `k`. -/
def Device.reply (device : Device) (commands : List (List SlU8)) (k : ℕ) : List SlU8 :=
  device (commands.take (k + 1))

/-- What `read` stores of a reply. -/
def readReply (reply : List SlU8) (size : ℕ) : ReadResult :=
  ⟨(reply.take size).length, reply.take size⟩

/-- A request that has returned. `index` is the number of commands the device had received
before the command of the request, and `none` if it has not received that one. -/
structure Finished where
  request : Request
  out : request.Output
  index : Option ℕ
  result : SlResult × request.Output

/-- A request that returned success has decoded the reply to its own command. -/
def Finished.Agrees (device : Device) (commands : List (List SlU8)) (f : Finished) : Prop :=
  f.result.1 = slResultOk → ∃ k, f.index = some k ∧ commands[k]? = some f.request.frame ∧
    f.result = respond f.request.load
      (some (readReply (device.reply commands k) (pktSizeExPayload + f.request.size))) f.out

/-- A reply does not depend on later commands. -/
theorem reply_append (device : Device) {commands : List (List SlU8)} (later : List (List SlU8))
    {k : ℕ} (hk : k < commands.length) :
    device.reply (commands ++ later) k = device.reply commands k := by
  rw [Device.reply, Device.reply, List.take_append_of_le_length (by omega)]

/-- Agreement does not depend on later commands. -/
theorem Finished.Agrees.append {device : Device} {commands : List (List SlU8)} {f : Finished}
    (h : f.Agrees device commands) (later : List (List SlU8)) :
    f.Agrees device (commands ++ later) := by
  intro hok
  obtain ⟨k, hindex, hcommand, hresult⟩ := h hok
  have hlt : k < commands.length := (List.getElem?_eq_some_iff.mp hcommand).1
  refine ⟨k, hindex, by rw [List.getElem?_append_left hlt, hcommand], ?_⟩
  rwa [reply_append device later hlt]

/-- One more request that has returned, and later commands. -/
theorem agrees_append {device : Device} {commands : List (List SlU8)} {finished : List Finished}
    (h : ∀ f ∈ finished, f.Agrees device commands) (later : List (List SlU8)) {last : Finished}
    (hlast : last.Agrees device (commands ++ later)) :
    ∀ f ∈ finished ++ [last], f.Agrees device (commands ++ later) := by
  intro f hf
  rcases List.mem_append.mp hf with hold | hnew
  · exact (h f hold).append later
  · rw [List.mem_singleton.mp hnew]
    exact hlast

/-- A device that answers every command with a raw reading whose timestamp is the number
of commands so far. -/
def countingDevice : Device := fun commands =>
  replyPacket 0x50#8 27#8 0#8 2#8 (ReadImuRawResponse.layout.encode
    ⟨⟨⟨0#16, 0#16, 0#16⟩, ⟨0#16, 0#16, 0#16⟩, 0#16, BitVec.ofNat 32 commands.length⟩,
      ⟨0, 0, 0, 0#16⟩⟩) 0#8

/-- A request that was given the first reply of this device does not agree with the second
command. -/
theorem not_agrees_of_first_reply {commands : List (List SlU8)} (h : 2 ≤ commands.length) :
    ¬ Finished.Agrees countingDevice commands ⟨.imuRaw, zeroImuRawData, some 1,
      (slResultOk, { zeroImuRawData with timestamp := 1#32 })⟩ := by
  intro hagrees
  obtain ⟨k, hindex, -, hresult⟩ := hagrees rfl
  obtain rfl : 1 = k := Option.some.inj hindex
  have hreply : countingDevice.reply commands 1 = countingDevice [[], []] := by
    unfold Device.reply countingDevice
    rw [List.length_take, Nat.min_eq_left h]
    rfl
  rw [hreply] at hresult
  have htimestamp : (1#32, slResultOk) = (2#32, slResultOk) :=
    congrArg (fun r : SlResult × ImuRawData => (r.2.timestamp, r.1)) hresult
  exact absurd htimestamp (by decide)

end Slamkit
