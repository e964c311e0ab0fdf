import Slamkit.Driver

/-!
# The receive cache of a USB channel

The data methods of `USBChannel` in `sl_usb_channel.cpp`, on the receive buffer
and its fill. The libusb transfers are a parameter: any type of states with any
outcome of each transfer.
-/

namespace Slamkit

/-- `MAX_RX_BUFFER_SIZE`. -/
def maxRxBufferSize : ℕ := 1224

/-- The outcome of a transfer: whether libusb reports success, and the bytes it has
transferred, whose number is the actual length. -/
structure Transfer where
  success : Bool
  data : List SlU8
  deriving DecidableEq

/-- The final status of a submitted transfer, as far as `write` tells them apart. -/
inductive TransferStatus where
  | completed
  | stall
  | other
  deriving DecidableEq

/-- The outcome of an asynchronous transfer to the device: whether `libusb_submit_transfer`
succeeds, whether the completion is signalled, the final status, and the number of bytes
the device has taken. -/
structure Submitted where
  submitted : Bool
  signalled : Bool
  status : TransferStatus
  actualLength : ℕ
  deriving DecidableEq

/-- What the data methods ask of libusb on a state `ε`: a bulk transfer of at most so many
bytes from the device within a timeout, and the transfer of a packet to the device. -/
structure LibusbTransfers (ε : Type) where
  bulkTransfer : ℕ → SlU32 → ε → Transfer × ε
  submitTransfer : List SlU8 → ε → Submitted × ε

/-- The members of `USBChannel` for received data. -/
structure UsbCache where
  /-- `_rx_size`, of type `uint16_t`. -/
  rxSize : SlU16
  /-- `_rx_buffer`. -/
  rxBuffer : List SlU8
  deriving DecidableEq

namespace UsbCache

variable {ε : Type}

/-- The buffer after bytes have been stored at an offset. -/
def store (buffer : List SlU8) (offset : ℕ) (bytes : List SlU8) : List SlU8 :=
  buffer.take offset ++ bytes ++ buffer.drop (offset + bytes.length)

/-- `flush`, whose body is commented out. -/
def flush (c : UsbCache) : UsbCache := c

/-- `clearReadCache`. -/
def clearReadCache (c : UsbCache) : UsbCache := { c with rxSize := 0#16 }

/-- The result of `waitForData`, with the value it stores in `*actualReady`, if any. -/
structure Ready where
  result : Bool
  actualReady : Option ℕ
  deriving DecidableEq

/-- `waitForData`. The error of the first transfer is overwritten: if that transfer is not
complete there is a second one, which alone decides the result. -/
def waitForData (usb : LibusbTransfers ε) (size : ℕ) (timeoutInMs : SlU32) (c : UsbCache)
    (e : ε) : Ready × UsbCache × ε :=
  if size > maxRxBufferSize then (⟨false, none⟩, c, e)
  else
    let first := usb.bulkTransfer size timeoutInMs e
    let readySize := first.1.data.length
    let rxBuffer := store c.rxBuffer 0 first.1.data
    if readySize ≠ size then
      let offset := size - readySize
      let second := usb.bulkTransfer offset timeoutInMs first.2
      let rsize := second.1.data.length
      (⟨second.1.success, some (offset + rsize)⟩,
        ⟨BitVec.ofNat 16 (offset + rsize), store rxBuffer offset second.1.data⟩, second.2)
    else (⟨true, some readySize⟩, ⟨BitVec.ofNat 16 readySize, rxBuffer⟩, first.2)

/-- `write`: the length of a transfer that completes, else zero. -/
def write (usb : LibusbTransfers ε) (data : List SlU8) (e : ε) : WriteResult × ε :=
  let r := usb.submitTransfer data e
  let actualSize : ℤ :=
    if !r.1.submitted then 0
    else if !r.1.signalled then 0
    else match r.1.status with
      | .completed => data.length
      | .stall => 0
      | .other => 0
  (⟨actualSize, r.1.actualLength⟩, r.2)

/-- `read`. When fewer bytes are cached than asked for, their number is cleared before it is
returned. -/
def read (size : ℕ) (c : UsbCache) : ReadResult × UsbCache :=
  if size ≤ c.rxSize.toNat then
    (⟨size, c.rxBuffer.take size⟩, { c with rxSize := c.rxSize - BitVec.ofNat 16 size })
  else (⟨0, c.rxBuffer.take c.rxSize.toNat⟩, { c with rxSize := 0#16 })

end UsbCache

/-- The data methods of an open USB channel as seen by the driver. -/
def usbDataChannel {ε : Type} (usb : LibusbTransfers ε) : Channels Unit (UsbCache × ε)
  | _, .«open», s => (true, s)
  | _, .close, s => ((), s)
  | _, .flush, s => ((), s.1.flush, s.2)
  | _, .waitForData size timeoutInMs, s =>
    let r := UsbCache.waitForData usb size timeoutInMs s.1 s.2
    (r.1.result, r.2)
  | _, .write data, s =>
    let r := UsbCache.write usb data s.2
    (r.1, s.1, r.2)
  | _, .read size, s =>
    let r := s.1.read size
    (r.1, r.2, s.2)
  | _, .clearReadCache, s => ((), s.1.clearReadCache, s.2)

end Slamkit
