import Slamkit.Library.Packed

/-!
# Protocol data of the SLAMKIT

The constants, result codes and packed structures of `sl_types.h`,
`sl_slamkit_protocol.h` and `sl_slamkit_cmd.h`. Each structure has the layout
of its declaration: the fields in order, without padding.
-/

namespace Slamkit

open Library

/-- `sl_u8`. -/
abbrev SlU8 := BitVec 8

/-- `sl_u16`. -/
abbrev SlU16 := BitVec 16

/-- `sl_u32`. -/
abbrev SlU32 := BitVec 32

/-- `sl_s16`. -/
abbrev SlS16 := Int16

/-- `sl_s32`. -/
abbrev SlS32 := Int32

/-- `sl_result`. -/
abbrev SlResult := SlU32

/-- `SL_RESULT_OK`. -/
def slResultOk : SlResult := 0#32

/-- `SL_RESULT_FAIL_BIT`. -/
def slResultFailBit : SlResult := 0x80000000#32

/-- `SL_RESULT_ALREADY_DONE`. -/
def slResultAlreadyDone : SlResult := 0x20#32

/-- `SL_RESULT_INVALID_DATA`. -/
def slResultInvalidData : SlResult := 0x8000#32 ||| slResultFailBit

/-- `SL_RESULT_OPERATION_FAIL`. -/
def slResultOperationFail : SlResult := 0x8001#32 ||| slResultFailBit

/-- `SL_RESULT_OPERATION_TIMEOUT`. -/
def slResultOperationTimeout : SlResult := 0x8002#32 ||| slResultFailBit

/-- `SL_RESULT_OPERATION_NOT_SUPPORT`. -/
def slResultOperationNotSupport : SlResult := 0x8004#32 ||| slResultFailBit

/-- `SL_IS_OK`. -/
def slIsOk (x : SlResult) : Bool := x &&& slResultFailBit == 0

/-- `SL_IS_FAIL`. -/
def slIsFail (x : SlResult) : Bool := x &&& slResultFailBit != 0

/-- `SL_SLAMKIT_CMD_SYNC_BYTE`. -/
def slSlamkitCmdSyncByte : SlU8 := 0x50#8

/-- `STATUS_CODE_ANS_RXERR`. -/
def statusCodeAnsRxerr : SlU8 := 0x03#8

/-- `PKT_SIZE_EX_PAYLOAD`: the bytes of a packet around its payload. -/
def pktSizeExPayload : ℕ := 5

/-- `CMD_CODE_SLAMTEC_SLAMKIT`. -/
def cmdCodeSlamtecSlamkit : SlU8 := 0xF1#8

/-- `SL_SLAMKIT_CMD_GET_DEVICE_INFO`. -/
def slSlamkitCmdGetDeviceInfo : SlU8 := 0x3f#8

/-- `SL_SLAMKIT_CMD_READ_IMU_PROCESSED`. -/
def slSlamkitCmdReadImuProcessed : SlU8 := 0x5d#8

/-- `SL_SLAMKIT_CMD_READ_IMU_RAW`. -/
def slSlamkitCmdReadImuRaw : SlU8 := 0x5f#8

/-- The layout of an `sl_u8` field. -/
def layoutU8 : Packed SlU8 := Packed.word 1

/-- The layout of an `sl_u16` field. -/
def layoutU16 : Packed SlU16 := Packed.word 2

/-- The layout of an `sl_u32` field. -/
def layoutU32 : Packed SlU32 := Packed.word 4

/-- The layout of an `sl_s16` field: the two's-complement word. -/
def layoutS16 : Packed SlS16 := layoutU16.map ⟨Int16.ofBitVec, Int16.toBitVec, fun _ => rfl,
  fun _ => rfl⟩

/-- The layout of an `sl_s32` field: the two's-complement word. -/
def layoutS32 : Packed SlS32 := layoutU32.map ⟨Int32.ofBitVec, Int32.toBitVec, fun _ => rfl,
  fun _ => rfl⟩

/-- `sl_slamkit_info_request_t`. -/
structure InfoRequest where
  requestType : SlU8
  requestKey : SlU32
  deriving DecidableEq

/-- The layout of `sl_slamkit_info_request_t`. -/
def InfoRequest.layout : Packed InfoRequest :=
  (layoutU8.pair layoutU32).map
    ⟨fun x => ⟨x.1, x.2⟩, fun r => (r.requestType, r.requestKey), fun _ => rfl, fun _ => rfl⟩

/-- `sl_slamkit_read_imu_processed_request_t`. -/
structure ReadImuProcessedRequest where
  requestKey : SlU32
  motionHintBitmap : SlU8
  uxQ16 : SlS32
  uyQ16 : SlS32
  uwQ16 : SlS32
  deriving DecidableEq

/-- The layout of `sl_slamkit_read_imu_processed_request_t`. -/
def ReadImuProcessedRequest.layout : Packed ReadImuProcessedRequest :=
  (layoutU32.pair (layoutU8.pair (layoutS32.pair (layoutS32.pair layoutS32)))).map
    ⟨fun x => ⟨x.1, x.2.1, x.2.2.1, x.2.2.2.1, x.2.2.2.2⟩,
      fun r => (r.requestKey, r.motionHintBitmap, r.uxQ16, r.uyQ16, r.uwQ16),
      fun _ => rfl, fun _ => rfl⟩

/-- `_sl_slamkit_read_imu_raw_request_t`. -/
structure ReadImuRawRequest where
  requestKey : SlU32
  deriving DecidableEq

/-- The layout of `_sl_slamkit_read_imu_raw_request_t`. -/
def ReadImuRawRequest.layout : Packed ReadImuRawRequest :=
  layoutU32.map ⟨fun x => ⟨x⟩, fun r => r.requestKey, fun _ => rfl, fun _ => rfl⟩

/-- `sl_slamkit_info_response_t`. -/
structure InfoResponse where
  model : SlU16
  firmwareVersion : SlU16
  hardwareVersion : SlU16
  serialNumber : Fin 4 → SlU32
  hwFeatures : SlU32
  licensedFeatures : SlU32
  deriving DecidableEq

/-- The layout of `sl_slamkit_info_response_t`. -/
def InfoResponse.layout : Packed InfoResponse :=
  (layoutU16.pair (layoutU16.pair (layoutU16.pair ((layoutU32.array 4).pair
    (layoutU32.pair layoutU32))))).map
    ⟨fun x => ⟨x.1, x.2.1, x.2.2.1, x.2.2.2.1, x.2.2.2.2.1, x.2.2.2.2.2⟩,
      fun r => (r.model, r.firmwareVersion, r.hardwareVersion, r.serialNumber, r.hwFeatures,
        r.licensedFeatures),
      fun _ => rfl, fun _ => rfl⟩

/-- `acc_processed_data_t`. -/
structure AccProcessedData where
  xD4 : SlU32
  yD4 : SlU32
  zD4 : SlU32
  deriving DecidableEq

/-- The layout of `acc_processed_data_t`. -/
def AccProcessedData.layout : Packed AccProcessedData :=
  (layoutU32.pair (layoutU32.pair layoutU32)).map
    ⟨fun x => ⟨x.1, x.2.1, x.2.2⟩, fun r => (r.xD4, r.yD4, r.zD4), fun _ => rfl, fun _ => rfl⟩

/-- `gyro_processed_data_t`. -/
structure GyroProcessedData where
  wxD4 : SlU32
  wyD4 : SlU32
  wzD4 : SlU32
  sumXD4 : SlU32
  sumYD4 : SlU32
  sumZD4 : SlU32
  deriving DecidableEq

/-- The layout of `gyro_processed_data_t`. -/
def GyroProcessedData.layout : Packed GyroProcessedData :=
  (layoutU32.pair (layoutU32.pair (layoutU32.pair (layoutU32.pair
    (layoutU32.pair layoutU32))))).map
    ⟨fun x => ⟨x.1, x.2.1, x.2.2.1, x.2.2.2.1, x.2.2.2.2.1, x.2.2.2.2.2⟩,
      fun r => (r.wxD4, r.wyD4, r.wzD4, r.sumXD4, r.sumYD4, r.sumZD4),
      fun _ => rfl, fun _ => rfl⟩

/-- `sl_slamkit_read_imu_processed_response_t`. -/
structure ReadImuProcessedResponse where
  timestamp : SlU32
  availBitmap : SlU8
  acc : AccProcessedData
  gyro : GyroProcessedData
  deriving DecidableEq

/-- The layout of `sl_slamkit_read_imu_processed_response_t`. -/
def ReadImuProcessedResponse.layout : Packed ReadImuProcessedResponse :=
  (layoutU32.pair (layoutU8.pair (AccProcessedData.layout.pair GyroProcessedData.layout))).map
    ⟨fun x => ⟨x.1, x.2.1, x.2.2.1, x.2.2.2⟩,
      fun r => (r.timestamp, r.availBitmap, r.acc, r.gyro), fun _ => rfl, fun _ => rfl⟩

/-- `accelemeter_data_t`. -/
structure AccelemeterData where
  accX : SlU16
  accY : SlU16
  accZ : SlU16
  deriving DecidableEq

/-- The layout of `accelemeter_data_t`. -/
def AccelemeterData.layout : Packed AccelemeterData :=
  (layoutU16.pair (layoutU16.pair layoutU16)).map
    ⟨fun x => ⟨x.1, x.2.1, x.2.2⟩, fun r => (r.accX, r.accY, r.accZ), fun _ => rfl, fun _ => rfl⟩

/-- `gyrosensor_data_t`. -/
structure GyrosensorData where
  gyroX : SlU16
  gyroY : SlU16
  gyroZ : SlU16
  deriving DecidableEq

/-- The layout of `gyrosensor_data_t`. -/
def GyrosensorData.layout : Packed GyrosensorData :=
  (layoutU16.pair (layoutU16.pair layoutU16)).map
    ⟨fun x => ⟨x.1, x.2.1, x.2.2⟩, fun r => (r.gyroX, r.gyroY, r.gyroZ),
      fun _ => rfl, fun _ => rfl⟩

/-- `inertia_sensor_data_t`. -/
structure InertiaSensorData where
  acc : AccelemeterData
  gyro : GyrosensorData
  refVolt : SlU16
  timestamp : SlU32
  deriving DecidableEq

/-- The layout of `inertia_sensor_data_t`. -/
def InertiaSensorData.layout : Packed InertiaSensorData :=
  (AccelemeterData.layout.pair (GyrosensorData.layout.pair (layoutU16.pair layoutU32))).map
    ⟨fun x => ⟨x.1, x.2.1, x.2.2.1, x.2.2.2⟩,
      fun r => (r.acc, r.gyro, r.refVolt, r.timestamp), fun _ => rfl, fun _ => rfl⟩

/-- `compass_raw_data_t`. -/
structure CompassRawData where
  hmcX : SlS16
  hmcY : SlS16
  hmcZ : SlS16
  refVolt : SlU16
  deriving DecidableEq

/-- The layout of `compass_raw_data_t`. -/
def CompassRawData.layout : Packed CompassRawData :=
  (layoutS16.pair (layoutS16.pair (layoutS16.pair layoutU16))).map
    ⟨fun x => ⟨x.1, x.2.1, x.2.2.1, x.2.2.2⟩,
      fun r => (r.hmcX, r.hmcY, r.hmcZ, r.refVolt), fun _ => rfl, fun _ => rfl⟩

/-- `sl_slamkit_read_imu_raw_response_t`. -/
structure ReadImuRawResponse where
  inertiaRawData : InertiaSensorData
  compassRawData : CompassRawData
  deriving DecidableEq

/-- The layout of `sl_slamkit_read_imu_raw_response_t`. -/
def ReadImuRawResponse.layout : Packed ReadImuRawResponse :=
  (InertiaSensorData.layout.pair CompassRawData.layout).map
    ⟨fun x => ⟨x.1, x.2⟩, fun r => (r.inertiaRawData, r.compassRawData),
      fun _ => rfl, fun _ => rfl⟩

/-- `sl_imu_raw_data_t` of `sl_slamkit_driver.h`. -/
structure ImuRawData where
  accX : SlS16
  accY : SlS16
  accZ : SlS16
  gyroX : SlS16
  gyroY : SlS16
  gyroZ : SlS16
  magX : SlS16
  magY : SlS16
  magZ : SlS16
  timestamp : SlU32
  deriving DecidableEq

@[simp] theorem infoRequest_size : InfoRequest.layout.size = 5 := rfl

@[simp] theorem readImuProcessedRequest_size : ReadImuProcessedRequest.layout.size = 17 := rfl

@[simp] theorem readImuRawRequest_size : ReadImuRawRequest.layout.size = 4 := rfl

@[simp] theorem infoResponse_size : InfoResponse.layout.size = 30 := rfl

@[simp] theorem readImuProcessedResponse_size : ReadImuProcessedResponse.layout.size = 41 := rfl

@[simp] theorem readImuRawResponse_size : ReadImuRawResponse.layout.size = 26 := rfl

end Slamkit
