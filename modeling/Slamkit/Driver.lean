import Slamkit.Library.Program
import Slamkit.Protocol

/-!
# The driver

`SlamtecSlamkitDriver` of `sl_slamkit_driver.cpp` as programs over the methods
of `IChannel`, the fields of the driver and its lock. A channel is an arbitrary
object: any type of states with any effect and any result of each method.
-/

namespace Slamkit

open Library

/-- What `IChannel::write` does: the number it returns and the number of bytes
the transport has accepted. -/
structure WriteResult where
  returned : ℤ
  accepted : ℕ
  deriving DecidableEq

/-- What `IChannel::read` does: the number it returns and the bytes it stores at
the start of the caller's buffer. -/
structure ReadResult where
  returned : ℤ
  stored : List SlU8
  deriving DecidableEq

/-- The methods of `IChannel` with their arguments. -/
inductive ChannelOp where
  | «open»
  | close
  | flush
  | waitForData (size : ℕ) (timeoutInMs : SlU32)
  | write (data : List SlU8)
  | read (size : ℕ)
  | clearReadCache
  deriving DecidableEq

/-- The result of a method of `IChannel`. -/
@[reducible] def ChannelOp.Result : ChannelOp → Type
  | .«open» => Bool
  | .close => Unit
  | .flush => Unit
  | .waitForData _ _ => Bool
  | .write _ => WriteResult
  | .read _ => ReadResult
  | .clearReadCache => Unit

/-- A call of a channel method with its result. The channel is `none` when the
method is called through a null pointer. -/
structure ChannelCall (ι : Type) where
  channel : Option ι
  op : ChannelOp
  result : op.Result

/-- The behaviour of every channel object `ι` on a shared environment `σ`. -/
abbrev Channels (ι σ : Type) := Option ι → Handler ChannelOp ChannelOp.Result σ

/-- What the driver code does step by step: it takes and releases `_lock`, reads
and writes its fields, and calls channel methods. -/
inductive DriverOp (ι : Type) where
  | lock
  | unlock
  | loadConnected
  | storeConnected (value : Bool)
  | loadChannel
  | storeChannel (channel : Option ι)
  | call (channel : Option ι) (op : ChannelOp)

/-- The answer to an operation of the driver code. -/
@[reducible] def DriverOp.Result {ι : Type} : DriverOp ι → Type
  | .lock => Unit
  | .unlock => Unit
  | .loadConnected => Bool
  | .storeConnected _ => Unit
  | .loadChannel => Option ι
  | .storeChannel _ => Unit
  | .call _ op => op.Result

/-- A piece of driver code. -/
abbrev DriverProgram (ι : Type) := Program (DriverOp ι) DriverOp.Result

/-- The driver object with the environment of its channels. `calls` records the
calls of channel methods, oldest first. -/
structure DriverState (ι σ : Type) where
  /-- `_channel`. -/
  channel : Option ι
  /-- `_isConnected`. -/
  isConnected : Bool
  env : σ
  calls : List (ChannelCall ι)

variable {ι σ β : Type}

/-- The effect of one operation. With a single client the lock is always free. -/
def DriverState.handle (channels : Channels ι σ) :
    Handler (DriverOp ι) DriverOp.Result (DriverState ι σ)
  | .lock, s => ((), s)
  | .unlock, s => ((), s)
  | .loadConnected, s => (s.isConnected, s)
  | .storeConnected value, s => ((), { s with isConnected := value })
  | .loadChannel, s => (s.channel, s)
  | .storeChannel channel, s => ((), { s with channel := channel })
  | .call channel op, s =>
    let r := channels channel op s.env
    (r.1, { s with env := r.2, calls := s.calls ++ [⟨channel, op, r.1⟩] })

/-- Run driver code to its end. -/
abbrev DriverState.exec (s : DriverState ι σ) (channels : Channels ι σ) (p : DriverProgram ι β) :
    β × DriverState ι σ := p.run (DriverState.handle channels) s

/-- `_lock.lock()`, by an `AutoLocker`. -/
def acquire : DriverProgram ι Unit := Program.perform DriverOp.lock

/-- `_lock.unlock()`, at the end of the scope of an `AutoLocker`. -/
def release : DriverProgram ι Unit := Program.perform DriverOp.unlock

/-- The value of `_isConnected`, which is all `isConnected` returns. -/
def isConnected : DriverProgram ι Bool := Program.perform DriverOp.loadConnected

/-- `_isConnected = value`. -/
def setConnected (value : Bool) : DriverProgram ι Unit :=
  Program.perform (DriverOp.storeConnected value)

/-- `_channel = channel`. -/
def setChannel (channel : Option ι) : DriverProgram ι Unit :=
  Program.perform (DriverOp.storeChannel channel)

/-- `_channel->op(..)`. -/
def invoke (op : ChannelOp) : DriverProgram ι op.Result :=
  .call .loadChannel fun channel => Program.perform (DriverOp.call channel op)

/-- `connect`. A null channel is `none`. -/
def connect (channel : Option ι) : DriverProgram ι SlResult := do
  if channel.isNone then return slResultOperationFail
  if ← isConnected then return slResultAlreadyDone
  setChannel channel
  acquire
  let ans ← invoke .«open»
  if !ans then
    release
    return slResultOperationFail
  invoke .flush
  release
  setConnected true
  return slResultOk

/-- `disconnect`. -/
def disconnect : DriverProgram ι Unit := do
  if ← isConnected then
    invoke .close
  setConnected false

/-- The bytes `_sendCommand` pushes to `cmd_packet`, with the running checksum. -/
def cmdPacket (cmd : SlU8) (payload : List SlU8) : List SlU8 :=
  let length : SlU16 := BitVec.ofNat 16 (payload.length + 1)
  let lengthL : SlU8 := (length &&& 0x00ff#16).setWidth 8
  let lengthH : SlU8 := ((length &&& 0xff00#16) >>> 8).setWidth 8
  let checksum := 0#8 ^^^ slSlamkitCmdSyncByte ^^^ lengthL ^^^ lengthH ^^^ cmd
  let r := payload.foldl (fun r byte => (r.1 ^^^ byte, r.2 ++ [byte]))
    (checksum, [slSlamkitCmdSyncByte, lengthL, lengthH, cmd])
  r.2 ++ [r.1]

/-- The first `cmd_packet.size()` bytes of the 1024-byte array `packet` after the
copy loop. The contents of the array before the loop are written as zeros. -/
def copyPacket (packet : List SlU8) : List SlU8 :=
  ((List.range packet.length).foldl (fun array pos => array.set pos (packet.getD pos 0#8))
    (List.replicate 1024 0#8)).take packet.length

/-- `_sendCommand`. The result of `write` is discarded. -/
def sendCommand (cmd : SlU8) (payload : List SlU8) : DriverProgram ι SlResult := do
  if !(← isConnected) then return slResultOperationFail
  invoke .flush
  invoke .clearReadCache
  let _ ← invoke (.write (copyPacket (cmdPacket cmd payload)))
  return slResultOk

/-- `_waitResponse` on the buffer `payload`: the result and the buffer afterwards.
The number returned by `read` is discarded. -/
def waitResponse (payload : List SlU8) (size : ℕ) (timeout : SlU32) :
    DriverProgram ι (SlResult × List SlU8) := do
  if !(← isConnected) then return (slResultOperationFail, payload)
  let pktSize := pktSizeExPayload + size
  if !(← invoke (.waitForData pktSize timeout)) then
    return (slResultOperationTimeout, payload)
  let r ← invoke (.read pktSize)
  return (slResultOk, overlay r.stored payload)

/-- `DEFAULT_TIMEOUT`. -/
def defaultTimeout : SlU32 := 2000

/-- `sl_u8 data_buffer[1024] = {0}`. -/
def zeroBuffer : List SlU8 := List.replicate 1024 0#8

/-- The tests on a received packet and the assignment of the output structure
from the bytes at offset four. -/
def accept (load : List SlU8 → β) (dataBuffer : List SlU8) (out : β) : SlResult × β :=
  if dataBuffer.getD 0 0#8 ≠ slSlamkitCmdSyncByte then (slResultInvalidData, out)
  else if dataBuffer.getD 3 0#8 = statusCodeAnsRxerr then (slResultOperationFail, out)
  else (slResultOk, load (dataBuffer.drop 4))

/-- The common body of the three requests: send the command `txReq`, wait for a
response of `size` bytes and decode it by `load` into `out`. `waitFailed` is the
test on the result of `_waitResponse`. -/
def transact (txReq : List SlU8) (size : ℕ) (waitFailed : SlResult → Bool)
    (load : List SlU8 → β) (out : β) (timeout : SlU32) : DriverProgram ι (SlResult × β) := do
  acquire
  let ans ← sendCommand cmdCodeSlamtecSlamkit txReq
  release
  if slIsFail ans then return (ans, out)
  acquire
  let r ← waitResponse zeroBuffer size timeout
  release
  if waitFailed r.1 then return (r.1, out)
  return accept load r.2 out

/-- The bytes of `tx_req` in `getDeviceInfo`. -/
def getDeviceInfoTxReq : List SlU8 :=
  slSlamkitCmdGetDeviceInfo :: InfoRequest.layout.encode ⟨0, 0⟩

/-- `getDeviceInfo`. -/
def getDeviceInfo (info : InfoResponse) (timeout : SlU32 := defaultTimeout) :
    DriverProgram ι (SlResult × InfoResponse) :=
  transact getDeviceInfoTxReq InfoResponse.layout.size slIsFail InfoResponse.layout.decode
    info timeout

/-- The bytes of `tx_req` in `set_motion_hit_and_get_imu_processed`. -/
def setMotionHitAndGetImuProcessedTxReq (req : ReadImuProcessedRequest) : List SlU8 :=
  slSlamkitCmdReadImuProcessed :: ReadImuProcessedRequest.layout.encode req

/-- `set_motion_hit_and_get_imu_processed`. -/
def setMotionHitAndGetImuProcessed (req : ReadImuProcessedRequest)
    (processedData : ReadImuProcessedResponse) (timeout : SlU32 := defaultTimeout) :
    DriverProgram ι (SlResult × ReadImuProcessedResponse) :=
  transact (setMotionHitAndGetImuProcessedTxReq req) ReadImuProcessedResponse.layout.size
    slIsFail ReadImuProcessedResponse.layout.decode processedData timeout

/-- The bytes of `tx_req` in `getImuRawData`. -/
def getImuRawDataTxReq : List SlU8 :=
  slSlamkitCmdReadImuRaw :: ReadImuRawRequest.layout.encode ⟨0⟩

/-- The assignments from `ppayload` in `getImuRawData`: unsigned words become
two's-complement words of the same bits. -/
def loadImuRawData (bytes : List SlU8) : ImuRawData :=
  let ppayload := ReadImuRawResponse.layout.decode bytes
  { accX := .ofBitVec ppayload.inertiaRawData.acc.accX
    accY := .ofBitVec ppayload.inertiaRawData.acc.accY
    accZ := .ofBitVec ppayload.inertiaRawData.acc.accZ
    gyroX := .ofBitVec ppayload.inertiaRawData.gyro.gyroX
    gyroY := .ofBitVec ppayload.inertiaRawData.gyro.gyroY
    gyroZ := .ofBitVec ppayload.inertiaRawData.gyro.gyroZ
    magX := ppayload.compassRawData.hmcX
    magY := ppayload.compassRawData.hmcY
    magZ := ppayload.compassRawData.hmcZ
    timestamp := ppayload.inertiaRawData.timestamp }

/-- `getImuRawData`. Unlike the other requests it takes every nonzero result of
`_waitResponse` for a failure (`if (ans) return ans;`). -/
def getImuRawData (imuRawData : ImuRawData) (timeout : SlU32 := defaultTimeout) :
    DriverProgram ι (SlResult × ImuRawData) :=
  transact getImuRawDataTxReq ReadImuRawResponse.layout.size (· != 0) loadImuRawData
    imuRawData timeout

/-- The three kinds of requests. -/
inductive Request where
  | deviceInfo
  | imuProcessed (req : ReadImuProcessedRequest)
  | imuRaw
  deriving DecidableEq

namespace Request

/-- The structure a request fills. -/
@[reducible] def Output : Request → Type
  | .deviceInfo => InfoResponse
  | .imuProcessed _ => ReadImuProcessedResponse
  | .imuRaw => ImuRawData

/-- The driver method of a request. -/
def program : (r : Request) → r.Output → SlU32 → DriverProgram ι (SlResult × r.Output)
  | .deviceInfo, out, timeout => getDeviceInfo out timeout
  | .imuProcessed req, out, timeout => setMotionHitAndGetImuProcessed req out timeout
  | .imuRaw, out, timeout => getImuRawData out timeout

/-- The command bytes of a request. -/
def txReq : Request → List SlU8
  | .deviceInfo => getDeviceInfoTxReq
  | .imuProcessed req => setMotionHitAndGetImuProcessedTxReq req
  | .imuRaw => getImuRawDataTxReq

/-- The size of the response structure on the wire. -/
def size : Request → ℕ
  | .deviceInfo => InfoResponse.layout.size
  | .imuProcessed _ => ReadImuProcessedResponse.layout.size
  | .imuRaw => ReadImuRawResponse.layout.size

/-- The test a request makes on the result of `_waitResponse`. -/
def waitFailed : Request → SlResult → Bool
  | .imuRaw => (· != 0)
  | _ => slIsFail

/-- The decoding of the response bytes of a request. -/
def load : (r : Request) → List SlU8 → r.Output
  | .deviceInfo => InfoResponse.layout.decode
  | .imuProcessed _ => ReadImuProcessedResponse.layout.decode
  | .imuRaw => loadImuRawData

/-- Every request is the common body with its own command, size and decoding. -/
theorem program_eq (r : Request) (out : r.Output) (timeout : SlU32) :
    (r.program out timeout : DriverProgram ι _) =
      transact r.txReq r.size r.waitFailed r.load out timeout := by
  cases r <;> rfl

/-- The packet a request hands to `write`. -/
def frame (r : Request) : List SlU8 := copyPacket (cmdPacket cmdCodeSlamtecSlamkit r.txReq)

end Request

/-- A request with the arguments of its call. -/
structure Query where
  request : Request
  out : request.Output
  timeout : SlU32

/-- A channel on which every command is taken and every wait is answered by the
same bytes. -/
def cannedChannels (reply : List SlU8) : Channels Unit Unit
  | _, .«open», s => (true, s)
  | _, .close, s => ((), s)
  | _, .flush, s => ((), s)
  | _, .waitForData _ _, s => (true, s)
  | _, .write data, s => (⟨data.length, data.length⟩, s)
  | _, .read _, s => (⟨reply.length, reply⟩, s)
  | _, .clearReadCache, s => ((), s)

/-- A connected driver whose channel has no state. -/
def connectedDriver : DriverState Unit Unit := ⟨some (), true, (), []⟩

/-- It is connected. -/
theorem connectedDriver_isConnected : connectedDriver.isConnected = true := rfl

end Slamkit
