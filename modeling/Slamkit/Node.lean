import Mathlib.Data.Rat.Cast.Defs
import Slamkit.Exchange
import Slamkit.Library.Register

/-!
# The ROS node

The publishing functions of `node.cpp`, with the constants of `utility.hpp`, and
the loop of `main`. The numbers of a message are of an arbitrary type with the
operations of `double` that the code uses, in the order in which it uses them; a
stamp is of an arbitrary type.
-/

namespace Slamkit

open Library

variable {R τ ι σ β : Type}

/-- `geometry_msgs::msg::Vector3`. -/
structure Vector3 (R : Type) where
  x : R
  y : R
  z : R
  deriving DecidableEq

/-- `std_msgs::msg::Header`. -/
structure Header (τ : Type) where
  stamp : τ
  frameId : String
  deriving DecidableEq

/-- The fields of `sensor_msgs::msg::Imu` that the node assigns for every message. -/
structure Imu (R τ : Type) where
  header : Header τ
  angularVelocity : Vector3 R
  linearAcceleration : Vector3 R
  deriving DecidableEq

/-- The fields of `sensor_msgs::msg::MagneticField` that the node assigns. -/
structure MagneticField (R τ : Type) where
  header : Header τ
  magneticField : Vector3 R
  deriving DecidableEq

/-- `geometry_msgs::msg::Vector3Stamped`. -/
structure Vector3Stamped (R τ : Type) where
  header : Header τ
  vector : Vector3 R
  deriving DecidableEq

/-- `FRAMDE_ID_MAG`. -/
def framdeIdMag : String := "magentic"

/-- `FRAMDE_ID_IMU_PROCESSED`. -/
def framdeIdImuProcessed : String := "imu_processed"

section Conversions

variable [Mul R] [Div R] [IntCast R] [OfScientific R]

/-- `MY_PI`. -/
def myPi : R := 3.141592654

/-- `DEGREE_TO_RAD`. -/
def degreeToRad : R := myPi / 180.0

/-- `RAD_TO_DEGREE`. -/
def radToDegree : R := 180.0 / myPi

/-- `SHIFT_15_BITS`. -/
def shift15Bits : R := 32768.0

/-- `STD_GRAVITY`. -/
def stdGravity : R := 9.8

/-- The conversion of an acceleration in `imu_publish`. -/
def convertAcc (x : SlS16) : R := (x.toInt : R) / shift15Bits * 2.0 * stdGravity

/-- The conversion of an angular velocity in `imu_publish`. -/
def convertGyro (x : SlS16) : R := (x.toInt : R) / shift15Bits * 2000.0 * degreeToRad

/-- The conversion of a magnetic field in `imu_publish`. -/
def convertMag (x : SlS16) : R := (x.toInt : R) * 4900.0 / shift15Bits / 1000000.0

/-- The conversion of an angle in `imu_processed_publish`: the unsigned field is
cast to a signed word first. -/
def convertSum (x : SlU32) : R := (x.toInt : R) / 10000.0 * radToDegree

/-- The message published on `imu/data_raw`. -/
def imuMsg (frameId : String) (stamp : τ) (imuData : ImuRawData) : Imu R τ where
  header := ⟨stamp, frameId⟩
  angularVelocity :=
    ⟨convertGyro imuData.gyroX, convertGyro imuData.gyroY, convertGyro imuData.gyroZ⟩
  linearAcceleration :=
    ⟨convertAcc imuData.accX, convertAcc imuData.accY, convertAcc imuData.accZ⟩

/-- The message published on `imu/mag`. -/
def magMsg (stamp : τ) (imuData : ImuRawData) : MagneticField R τ where
  header := ⟨stamp, framdeIdMag⟩
  magneticField := ⟨convertMag imuData.magX, convertMag imuData.magY, convertMag imuData.magZ⟩

/-- The message published on `imu/processed_yaw`. -/
def imuProcessedMsg (stamp : τ) (pImuResp : ReadImuProcessedResponse) : Vector3Stamped R τ where
  header := ⟨stamp, framdeIdImuProcessed⟩
  vector := ⟨((0 : ℤ) : R), ((0 : ℤ) : R), convertSum pImuResp.gyro.sumZD4⟩

/-- `imu_publish`: the messages, if any, and `last_ts_ms` afterwards. -/
def imuPublish (imuData : ImuRawData) (frameId : String) (imuStamp magStamp : τ)
    (lastTsMs : SlU32) : Option (Imu R τ × MagneticField R τ) × SlU32 :=
  if lastTsMs = imuData.timestamp then (none, lastTsMs)
  else (some (imuMsg frameId imuStamp imuData, magMsg magStamp imuData), imuData.timestamp)

/-- `imu_processed_publish`: the message, if any, and `processed_last_ts_ms` afterwards. -/
def imuProcessedPublish (pImuResp : ReadImuProcessedResponse) (stamp : τ)
    (processedLastTsMs : SlU32) : Option (Vector3Stamped R τ) × SlU32 :=
  if processedLastTsMs = pImuResp.timestamp then (none, processedLastTsMs)
  else (some (imuProcessedMsg stamp pImuResp), pImuResp.timestamp)

/-- `SLAMKIT_REQUEST_MOTION_HINT_BITMAP_MOTION_BIT`. -/
def slamkitRequestMotionHintBitmapMotionBit : SlU8 := 0x1#8 <<< 0

/-- The request of `main`, which assigns one field of an uninitialised structure. -/
def mainReq (req : ReadImuProcessedRequest) : ReadImuProcessedRequest :=
  { req with motionHintBitmap := slamkitRequestMotionHintBitmapMotionBit }

/-- The variables of `main` and the two timestamps of `node.hpp`. -/
structure NodeState where
  imuData : ImuRawData
  processedData : ReadImuProcessedResponse
  lastTsMs : SlU32
  processedLastTsMs : SlU32
  deriving DecidableEq

/-- The state before the loop. `main` does not initialise its two structures. -/
def NodeState.initial (imuData : ImuRawData) (processedData : ReadImuProcessedResponse) :
    NodeState :=
  ⟨imuData, processedData, 0#32, 0#32⟩

/-- The readings of the clock in one iteration. -/
structure Stamps (τ : Type) where
  imu : τ
  mag : τ
  processed : τ

/-- What one iteration publishes on the three topics, and the errors it logs. -/
structure Published (R τ : Type) where
  dataRaw : Option (Imu R τ)
  mag : Option (MagneticField R τ)
  processedYaw : Option (Vector3Stamped R τ)
  errors : List String
  deriving DecidableEq

/-- The error of a failed `getImuRawData`. -/
def imuRawError : String := "can not get Imu Raw Data.\n"

/-- The error of a failed `set_motion_hit_and_get_imu_processed`. -/
def imuProcessedError : String := "can not get Imu processed Data.\n"

/-- What an iteration does with the results of its two requests. It publishes
whether they failed or not. -/
def NodeState.publish (s : NodeState) (frameId : String) (stamps : Stamps τ)
    (raw : SlResult × ImuRawData) (processed : SlResult × ReadImuProcessedResponse) :
    Published R τ × NodeState :=
  let imu := imuPublish raw.2 frameId stamps.imu stamps.mag s.lastTsMs
  let yaw := imuProcessedPublish processed.2 stamps.processed s.processedLastTsMs
  ({ dataRaw := imu.1.map Prod.fst
     mag := imu.1.map Prod.snd
     processedYaw := yaw.1
     errors := (if slIsFail raw.1 then [imuRawError] else []) ++
       (if slIsFail processed.1 then [imuProcessedError] else []) },
    { imuData := raw.2
      processedData := processed.2
      lastTsMs := imu.2
      processedLastTsMs := yaw.2 })

/-- One iteration of the loop of `main`. -/
def mainIteration (frameId : String) (req : ReadImuProcessedRequest) (stamps : Stamps τ)
    (s : NodeState) : DriverProgram ι (Published R τ × NodeState) := do
  let raw ← getImuRawData s.imuData
  let processed ← setMotionHitAndGetImuProcessed (mainReq req) s.processedData
  return s.publish frameId stamps raw processed

/-- The loop of `main`, for as many iterations as there are stamps. -/
def mainLoop (frameId : String) (req : ReadImuProcessedRequest) :
    List (Stamps τ) → NodeState → DriverProgram ι (List (Published R τ))
  | [], _ => return []
  | stamps :: rest, s => do
    let r ← mainIteration frameId req stamps s
    return r.1 :: (← mainLoop frameId req rest r.2)

/-- One iteration as its environment decides it: the samples of the two requests,
`none` for a failed one, and the clock. -/
structure Iteration (τ : Type) where
  raw : Option ImuRawData
  processed : Option ReadImuProcessedResponse
  stamps : Stamps τ

/-- The sample of a request that did not fail. -/
def sampleOf (r : SlResult × β) : Option β := if slIsFail r.1 then none else some r.2

/-- The result of a request with the given outcome: a failed one leaves the
caller's structure as it was. -/
def resultOf (held : β) (outcome : Option β) : SlResult × β :=
  outcome.elim (slResultOperationTimeout, held) (fun sample => (slResultOk, sample))

/-- What the iterations of `main` publish for the given outcomes. -/
def NodeState.run (frameId : String) : NodeState → List (Iteration τ) → List (Published R τ)
  | _, [] => []
  | s, it :: its =>
    let r := s.publish frameId it.stamps (resultOf s.imuData it.raw)
      (resultOf s.processedData it.processed)
    r.1 :: r.2.run frameId its

end Conversions

/-- The requests leave the caller's structure as it was whenever they fail. -/
theorem Request.failed_leaves_output (r : Request) (channels : Channels ι σ)
    (s : DriverState ι σ) (out : r.Output) (timeout : SlU32)
    (hfail : slIsFail (s.exec channels (r.program out timeout)).1.1 = true) :
    (s.exec channels (r.program out timeout)).1.2 = out := by
  rcases r.exec_cases channels s out timeout with ⟨-, hkept⟩ | hok
  · exact hkept
  · rw [hok] at hfail
    exact absurd hfail (by decide)

/-- What a request leaves in the caller's structure, from its sample. -/
theorem Request.output_eq_getD (r : Request) (channels : Channels ι σ) (s : DriverState ι σ)
    (out : r.Output) (timeout : SlU32) :
    (s.exec channels (r.program out timeout)).1.2 =
      (sampleOf (s.exec channels (r.program out timeout)).1).getD out := by
  by_cases hfail : slIsFail (s.exec channels (r.program out timeout)).1.1 = true
  · rw [sampleOf, if_pos hfail, Option.getD_none]
    exact r.failed_leaves_output channels s out timeout hfail
  · rw [sampleOf, if_neg hfail, Option.getD_some]

/-- Rebuilding a result from its sample keeps the structure and the failure. -/
theorem resultOf_sampleOf {r : SlResult × β} {held : β} (h : r.2 = (sampleOf r).getD held) :
    (resultOf held (sampleOf r)).2 = r.2 ∧
      slIsFail (resultOf held (sampleOf r)).1 = slIsFail r.1 := by
  by_cases hfail : slIsFail r.1 = true
  · rw [sampleOf, if_pos hfail] at h ⊢
    exact ⟨h.symm, hfail.symm ▸ (show slIsFail slResultOperationTimeout = true by decide)⟩
  · rw [sampleOf, if_neg hfail, Bool.eq_false_iff.mpr hfail]
    exact ⟨rfl, show slIsFail slResultOk = false by decide⟩

section Refinement

variable [Mul R] [Div R] [IntCast R] [OfScientific R]

/-- What an iteration publishes depends on the results only through the samples. -/
theorem NodeState.publish_eq (s : NodeState) (frameId : String) (stamps : Stamps τ)
    {raw : SlResult × ImuRawData} {processed : SlResult × ReadImuProcessedResponse}
    (hraw : raw.2 = (sampleOf raw).getD s.imuData)
    (hprocessed : processed.2 = (sampleOf processed).getD s.processedData) :
    (s.publish frameId stamps raw processed : Published R τ × NodeState) =
      s.publish frameId stamps (resultOf s.imuData (sampleOf raw))
        (resultOf s.processedData (sampleOf processed)) := by
  obtain ⟨hraw1, hraw2⟩ := resultOf_sampleOf hraw
  obtain ⟨hprocessed1, hprocessed2⟩ := resultOf_sampleOf hprocessed
  simp only [NodeState.publish, hraw1, hraw2, hprocessed1, hprocessed2]

/-- One iteration of `main` runs the two requests and publishes their results. -/
theorem mainIteration_exec (channels : Channels ι σ) (frameId : String)
    (req : ReadImuProcessedRequest) (stamps : Stamps τ) (s : NodeState) (d : DriverState ι σ) :
    let raw := d.exec channels (getImuRawData s.imuData)
    let processed :=
      raw.2.exec channels (setMotionHitAndGetImuProcessed (mainReq req) s.processedData)
    d.exec channels (mainIteration frameId req stamps s) =
      ((s.publish frameId stamps raw.1 processed.1 : Published R τ × NodeState), processed.2) := by
  simp only [DriverState.exec, mainIteration, Program.run_bind, Program.pure_eq_done,
    Program.run_done]

/-- One iteration of `main` publishes what it publishes for the outcomes of its requests. -/
theorem mainIteration_outcomes (channels : Channels ι σ) (frameId : String)
    (req : ReadImuProcessedRequest) (stamps : Stamps τ) (s : NodeState) (d : DriverState ι σ) :
    ∃ (raw : Option ImuRawData) (processed : Option ReadImuProcessedResponse)
        (d' : DriverState ι σ),
      d.exec channels (mainIteration frameId req stamps s) =
        ((s.publish frameId stamps (resultOf s.imuData raw)
          (resultOf s.processedData processed) : Published R τ × NodeState), d') := by
  have hraw := Request.imuRaw.output_eq_getD channels d s.imuData defaultTimeout
  have hprocessed := (Request.imuProcessed (mainReq req)).output_eq_getD channels
    (d.exec channels (getImuRawData s.imuData)).2 s.processedData defaultTimeout
  exact ⟨_, _, _, (mainIteration_exec channels frameId req stamps s d).trans
    (congrArg (·, _) (s.publish_eq frameId stamps hraw hprocessed))⟩

/-- **The loop of `main` is a loop over outcomes.** Whatever the channel does, what the
node publishes is what it publishes for some sequence of request outcomes. -/
theorem mainLoop_outcomes (channels : Channels ι σ) (frameId : String)
    (req : ReadImuProcessedRequest) (stamps : List (Stamps τ)) (s : NodeState)
    (d : DriverState ι σ) :
    ∃ its : List (Iteration τ), its.map (·.stamps) = stamps ∧
      (d.exec channels (mainLoop frameId req stamps s)).1 =
        (s.run frameId its : List (Published R τ)) := by
  induction stamps generalizing s d with
  | nil => exact ⟨[], rfl, rfl⟩
  | cons stamp stamps ih =>
    obtain ⟨raw, processed, d', hexec⟩ :=
      mainIteration_outcomes (R := R) channels frameId req stamp s d
    obtain ⟨its, hstamps, hrun⟩ := ih (s.publish (R := R) frameId stamp (resultOf s.imuData raw)
      (resultOf s.processedData processed)).2 d'
    refine ⟨⟨raw, processed, stamp⟩ :: its, by rw [List.map_cons, hstamps], ?_⟩
    simp only [DriverState.exec] at hexec hrun
    simp only [DriverState.exec, mainLoop, Program.run_bind, Program.pure_eq_done,
      Program.run_done, hexec, NodeState.run, hrun]

/-- The raw sample of the loop as a register that announces new timestamps. -/
def NodeState.rawRegister (s : NodeState) : Register ImuRawData SlU32 := ⟨s.imuData, s.lastTsMs⟩

/-- The processed sample of the loop as such a register. -/
def NodeState.processedRegister (s : NodeState) : Register ReadImuProcessedResponse SlU32 :=
  ⟨s.processedData, s.processedLastTsMs⟩

/-- `imu_publish` announces the sample of the register by two messages. -/
theorem imuPublish_eq (imuData : ImuRawData) (frameId : String) (imuStamp magStamp : τ)
    (lastTsMs : SlU32) :
    let announced := Register.announce ImuRawData.timestamp ⟨imuData, lastTsMs⟩
    (imuPublish imuData frameId imuStamp magStamp lastTsMs :
        Option (Imu R τ × MagneticField R τ) × SlU32) =
      (announced.1.map fun a => (imuMsg frameId imuStamp a, magMsg magStamp a),
        announced.2.last) ∧ announced.2.current = imuData := by
  by_cases h : lastTsMs = imuData.timestamp <;> simp [imuPublish, Register.announce, h]

/-- `imu_processed_publish` announces the sample of the register. -/
theorem imuProcessedPublish_eq (pImuResp : ReadImuProcessedResponse) (stamp : τ)
    (processedLastTsMs : SlU32) :
    let announced :=
      Register.announce ReadImuProcessedResponse.timestamp ⟨pImuResp, processedLastTsMs⟩
    (imuProcessedPublish pImuResp stamp processedLastTsMs :
        Option (Vector3Stamped R τ) × SlU32) =
      (announced.1.map (imuProcessedMsg stamp), announced.2.last) ∧
        announced.2.current = pImuResp := by
  by_cases h : processedLastTsMs = pImuResp.timestamp <;>
    simp [imuProcessedPublish, Register.announce, h]

/-- The structure a result leaves is the refreshed contents. -/
@[simp] theorem resultOf_snd (held : β) (outcome : Option β) :
    (resultOf held outcome).2 = outcome.getD held := by
  cases outcome <;> rfl

/-- The messages on `imu/data_raw` and `imu/mag` are the announcements of the raw register. -/
theorem run_raw (frameId : String) (s : NodeState) (its : List (Iteration τ)) :
    let published : List (Published R τ) := s.run frameId its
    let outputs := s.rawRegister.outputs ImuRawData.timestamp (its.map (·.raw))
    published.map (·.dataRaw) =
      List.zipWith (fun stamp output => output.map (imuMsg frameId stamp))
        (its.map (·.stamps.imu)) outputs ∧
    published.map (·.mag) =
      List.zipWith (fun stamp output => output.map (magMsg stamp)) (its.map (·.stamps.mag))
        outputs := by
  induction its generalizing s with
  | nil => exact ⟨rfl, rfl⟩
  | cons it its ih =>
    obtain ⟨himu, hcurrent⟩ := imuPublish_eq (R := R) (it.raw.getD s.imuData) frameId
      it.stamps.imu it.stamps.mag s.lastTsMs
    have hnext : (s.publish (R := R) frameId it.stamps (resultOf s.imuData it.raw)
        (resultOf s.processedData it.processed)).2.rawRegister =
        ((s.rawRegister.refresh it.raw).announce ImuRawData.timestamp).2 := by
      simp only [NodeState.publish, NodeState.rawRegister, resultOf_snd, himu, Register.refresh]
      exact congrArg (Register.mk · _) hcurrent.symm
    have htail := ih (s.publish (R := R) frameId it.stamps (resultOf s.imuData it.raw)
      (resultOf s.processedData it.processed)).2
    simp only [hnext] at htail
    simp only [NodeState.run, List.map_cons, Register.outputs, List.zipWith_cons_cons, htail.1,
      htail.2]
    simp only [NodeState.publish, resultOf_snd, himu, Option.map_map]
    exact ⟨rfl, rfl⟩

/-- The messages on `imu/processed_yaw` are the announcements of the processed register. -/
theorem run_processed (frameId : String) (s : NodeState) (its : List (Iteration τ)) :
    (s.run frameId its : List (Published R τ)).map (·.processedYaw) =
      List.zipWith (fun stamp output => output.map (imuProcessedMsg stamp))
        (its.map (·.stamps.processed))
        (s.processedRegister.outputs ReadImuProcessedResponse.timestamp
          (its.map (·.processed))) := by
  induction its generalizing s with
  | nil => rfl
  | cons it its ih =>
    obtain ⟨hyaw, hcurrent⟩ := imuProcessedPublish_eq (R := R)
      (it.processed.getD s.processedData) it.stamps.processed s.processedLastTsMs
    have hnext : (s.publish (R := R) frameId it.stamps (resultOf s.imuData it.raw)
        (resultOf s.processedData it.processed)).2.processedRegister =
        ((s.processedRegister.refresh it.processed).announce
          ReadImuProcessedResponse.timestamp).2 := by
      simp only [NodeState.publish, NodeState.processedRegister, resultOf_snd, hyaw,
        Register.refresh]
      exact congrArg (Register.mk · _) hcurrent.symm
    have htail := ih (s.publish (R := R) frameId it.stamps (resultOf s.imuData it.raw)
      (resultOf s.processedData it.processed)).2
    simp only [hnext] at htail
    simp only [NodeState.run, List.map_cons, Register.outputs, List.zipWith_cons_cons, htail]
    simp only [NodeState.publish, resultOf_snd, hyaw]
    rfl

/-- Only real readings are published: on each topic every message is converted from
the latest sample a request returned, and no sample is published twice. -/
structure OnlyRealReadings (frameId : String) (its : List (Iteration τ))
    (published : List (Published R τ)) : Prop where
  dataRaw : AnnouncesReadings (fun a m => ∃ stamp, m = imuMsg frameId stamp a)
    (its.map (·.raw)) (published.map (·.dataRaw))
  mag : AnnouncesReadings (fun a m => ∃ stamp, m = magMsg stamp a)
    (its.map (·.raw)) (published.map (·.mag))
  processedYaw : AnnouncesReadings (fun a m => ∃ stamp, m = imuProcessedMsg stamp a)
    (its.map (·.processed)) (published.map (·.processedYaw))

/-- **Exactly when only real readings are published.** A first request that fails must
find a zero timestamp in its uninitialised structure, for both kinds of requests. -/
theorem onlyRealReadings_iff (frameId : String) (imuData : ImuRawData)
    (processedData : ReadImuProcessedResponse) (its : List (Iteration τ)) :
    OnlyRealReadings frameId its
        ((NodeState.initial imuData processedData).run frameId its : List (Published R τ)) ↔
      ((its.map (·.raw)).head? = some none → imuData.timestamp = 0#32) ∧
      ((its.map (·.processed)).head? = some none → processedData.timestamp = 0#32) := by
  obtain ⟨hdataRaw, hmag⟩ := run_raw (R := R) frameId (.initial imuData processedData) its
  have hyaw := run_processed (R := R) frameId (.initial imuData processedData) its
  have hraw : (NodeState.initial imuData processedData).rawRegister.Settled
      ImuRawData.timestamp ↔ imuData.timestamp = 0#32 := eq_comm
  have hprocessed : (NodeState.initial imuData processedData).processedRegister.Settled
      ReadImuProcessedResponse.timestamp ↔ processedData.timestamp = 0#32 := eq_comm
  constructor
  · intro h
    have h1 := h.dataRaw
    have h2 := h.processedYaw
    rw [hdataRaw] at h1
    rw [hyaw] at h2
    exact ⟨fun hhead => hraw.mp
        ((Register.announcesReadings_iff _ _ _ (by simp)).mp h1 hhead),
      fun hhead => hprocessed.mp
        ((Register.announcesReadings_iff _ _ _ (by simp)).mp h2 hhead)⟩
  · intro h
    constructor
    · rw [hdataRaw, Register.announcesReadings_iff _ _ _ (by simp)]
      exact fun hhead => hraw.mpr (h.1 hhead)
    · rw [hmag, Register.announcesReadings_iff _ _ _ (by simp)]
      exact fun hhead => hraw.mpr (h.1 hhead)
    · rw [hyaw, Register.announcesReadings_iff _ _ _ (by simp)]
      exact fun hhead => hprocessed.mpr (h.2 hhead)

end Refinement

/-- An uninitialised raw structure with a nonzero timestamp. -/
def garbageImuData : ImuRawData := ⟨1, 2, 3, 4, 5, 6, 7, 8, 9, 10#32⟩

/-- A processed structure with a zero timestamp. -/
def zeroProcessedData : ReadImuProcessedResponse :=
  ⟨0#32, 0#8, ⟨0#32, 0#32, 0#32⟩, ⟨0#32, 0#32, 0#32, 0#32, 0#32, 0#32⟩⟩

/-- If both requests of the first iteration fail, the uninitialised structure is
published on `imu/data_raw`. -/
theorem garbage_published :
    ¬ OnlyRealReadings "imu" [(⟨none, none, ⟨0, 0, 0⟩⟩ : Iteration ℕ)]
      ((NodeState.initial garbageImuData zeroProcessedData).run "imu"
        [⟨none, none, ⟨0, 0, 0⟩⟩] : List (Published ℚ ℕ)) := by
  intro h
  have hfirst : (((NodeState.initial garbageImuData zeroProcessedData).run "imu"
      [⟨none, none, ⟨0, 0, 0⟩⟩] : List (Published ℚ ℕ)).map (·.dataRaw))[0]? =
      some (some (imuMsg "imu" 0 garbageImuData : Imu ℚ ℕ)) := rfl
  exact not_announcesReadings_of_first rfl hfirst h.dataRaw

end Slamkit
