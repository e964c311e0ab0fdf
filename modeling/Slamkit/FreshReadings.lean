import Slamkit.Node

/-!
# Which samples the node publishes

`imu_publish` and `imu_processed_publish` keep the timestamp of the last sample and publish
nothing for a sample that has the same one. Both timestamps start at zero. This file says
exactly in which runs of `main` every fresh sample is published and nothing else is.
-/

namespace Slamkit

open Library

variable {R τ : Type} [Mul R] [Div R] [IntCast R] [OfScientific R]

/-- On each topic the fresh samples are published, each in the iteration that has read it: those
whose timestamp differs from that of the sample read before, the first one included. -/
structure PublishesFresh (frameId : String) (its : List (Iteration τ))
    (published : List (Published R τ)) : Prop where
  dataRaw : published.map (·.dataRaw) = topic (imuMsg frameId) (its.map (·.stamps.imu))
    (freshReadings ImuRawData.timestamp none (its.map (·.raw)))
  mag : published.map (·.mag) = topic magMsg (its.map (·.stamps.mag))
    (freshReadings ImuRawData.timestamp none (its.map (·.raw)))
  processedYaw : published.map (·.processedYaw) =
    topic imuProcessedMsg (its.map (·.stamps.processed))
      (freshReadings ReadImuProcessedResponse.timestamp none (its.map (·.processed)))

/-- **When no fresh sample is dropped.** For all outcomes of the requests and all timestamps,
the fresh samples and nothing else are published if and only if, for both kinds of requests,
the first sample has a nonzero timestamp and, where the first request fails, the uninitialised
structure has a zero one. -/
theorem publishesFresh_iff (frameId : String) (imuData : ImuRawData)
    (processedData : ReadImuProcessedResponse) (its : List (Iteration τ)) :
    PublishesFresh frameId its
        ((NodeState.initial imuData processedData).run frameId its : List (Published R τ)) ↔
      ((its.map (·.raw)).head? = some none → imuData.timestamp = 0#32) ∧
      (∀ a, (its.map (·.raw)).reduceOption.head? = some a → a.timestamp ≠ 0#32) ∧
      ((its.map (·.processed)).head? = some none → processedData.timestamp = 0#32) ∧
      ∀ a, (its.map (·.processed)).reduceOption.head? = some a → a.timestamp ≠ 0#32 := by
  obtain ⟨hdataRaw, hmag⟩ := run_raw (R := R) frameId (.initial imuData processedData) its
  have hyaw := run_processed (R := R) frameId (.initial imuData processedData) its
  have hdataRaw_iff := Register.topic_fresh_iff ImuRawData.timestamp
    (NodeState.initial imuData processedData).rawRegister (its.map (·.raw))
    (imuMsg (R := R) frameId) (its.map (·.stamps.imu)) (by simp)
  have hmag_iff := Register.topic_fresh_iff ImuRawData.timestamp
    (NodeState.initial imuData processedData).rawRegister (its.map (·.raw))
    (magMsg (R := R)) (its.map (·.stamps.mag)) (by simp)
  have hyaw_iff := Register.topic_fresh_iff ReadImuProcessedResponse.timestamp
    (NodeState.initial imuData processedData).processedRegister
    (its.map (·.processed)) (imuProcessedMsg (R := R)) (its.map (·.stamps.processed)) (by simp)
  have hsettled : (NodeState.initial imuData processedData).rawRegister.Settled
      ImuRawData.timestamp ↔ imuData.timestamp = 0#32 := eq_comm
  have hsettled' : (NodeState.initial imuData processedData).processedRegister.Settled
      ReadImuProcessedResponse.timestamp ↔ processedData.timestamp = 0#32 := eq_comm
  rw [hsettled] at hdataRaw_iff hmag_iff
  rw [hsettled'] at hyaw_iff
  constructor
  · rintro ⟨hdata, -, hprocessed⟩
    have hconditions := hdataRaw_iff.mp (hdataRaw.symm.trans hdata)
    have hconditions' := hyaw_iff.mp (hyaw.symm.trans hprocessed)
    exact ⟨hconditions.1, hconditions.2, hconditions'.1, hconditions'.2⟩
  · rintro ⟨hfirst, hzero, hfirst', hzero'⟩
    exact ⟨hdataRaw.trans (hdataRaw_iff.mpr ⟨hfirst, hzero⟩),
      hmag.trans (hmag_iff.mpr ⟨hfirst, hzero⟩), hyaw.trans (hyaw_iff.mpr ⟨hfirst', hzero'⟩)⟩

/-- A raw sample with a zero timestamp. -/
def zeroStampSample : ImuRawData := ⟨1, 2, 3, 4, 5, 6, 7, 8, 9, 0#32⟩

/-- A first sample with a zero timestamp, of either kind, is not published: the timestamps of
the node start at zero. -/
theorem zero_timestamp_dropped :
    let its := [(⟨some zeroStampSample, some zeroProcessedData, ⟨0, 0, 0⟩⟩ : Iteration ℕ)]
    let published : List (Published ℚ ℕ) :=
      (NodeState.initial garbageImuData zeroProcessedData).run "imu" its
    published.map (·.dataRaw) = [none] ∧ published.map (·.processedYaw) = [none] ∧
      ¬ PublishesFresh "imu" its published := by
  refine ⟨rfl, rfl, fun h => ?_⟩
  have hsome := congrArg (List.map Option.isSome) h.dataRaw
  cases hsome

end Slamkit
