import Slamkit.Exchange
import Slamkit.Library.Run

/-!
# Requests on an open channel

One client makes requests on a connected driver, one after the other. What holds of the channel
and of the bytes read so far between two requests is proved of one exchange, and then of every run.
-/

namespace Slamkit

open Library

variable {σ : Type}

/-- The bytes that the `read` of a request has stored, none if it did not get that far. -/
def Awaited.stored {ι : Type} (awaited : Awaited ι σ) : List SlU8 :=
  awaited.answer.elim [] ReadResult.stored

/-- A request that has returned, with the bytes its `read` has stored. -/
structure Reading where
  request : Request
  out : request.Output
  stored : List SlU8
  result : SlResult × request.Output

/-- A request has returned what the bytes it has stored decode to, or it has not come to its `read`
and returns a timeout. -/
def Reading.Decodes (reading : Reading) : Prop :=
  reading.result = respond reading.request.load (some ⟨reading.stored.length, reading.stored⟩)
      reading.out ∨
    reading.stored = [] ∧ reading.result = (slResultOperationTimeout, reading.out)

/-- An answer of a channel decodes to what it stores. -/
theorem Reading.decodes_of_answer (r : Request) (out : r.Output) (awaited : Awaited Unit σ) :
    Decodes ⟨r, out, awaited.stored, respond r.load awaited.answer out⟩ := by
  unfold Decodes Awaited.stored
  cases awaited.answer with
  | none => exact .inr ⟨rfl, rfl⟩
  | some a => exact .inl rfl

/-- The number of bytes a request asks for. -/
def Request.asked (r : Request) : ℕ := pktSizeExPayload + r.size

/-- Every request asks for something. -/
theorem Request.asked_pos (r : Request) : 0 < r.asked := by
  unfold asked pktSizeExPayload
  omega

/-- The driver on an open channel, and the requests that have returned, oldest first. -/
structure RequestRun (σ : Type) where
  driver : DriverState Unit σ
  readings : List Reading

namespace RequestRun

/-- A driver that has just been connected. -/
def start (env : σ) : RequestRun σ := ⟨⟨some (), true, env, []⟩, []⟩

/-- One request. -/
def step (channels : Channels Unit σ) (s : RequestRun σ) (q : Query) : RequestRun σ :=
  let r := s.driver.exec channels (q.request.program q.out q.timeout)
  let awaited := q.request.await channels s.driver.channel q.timeout s.driver.env
  ⟨r.2, s.readings ++ [⟨q.request, q.out, awaited.stored, r.1⟩]⟩

/-- The requests of a client. -/
def run (channels : Channels Unit σ) (env : σ) (queries : List Query) : RequestRun σ :=
  queries.foldl (step channels) (start env)

/-- The driver stays connected to its channel. -/
structure Connected (s : RequestRun σ) : Prop where
  connected : s.driver.isConnected = true
  channel : s.driver.channel = some ()

/-- A request is one exchange with the channel. -/
theorem Connected.step {channels : Channels Unit σ} {s : RequestRun σ} (h : s.Connected)
    (q : Query) :
    let awaited := q.request.await channels (some ()) q.timeout s.driver.env
    (s.step channels q).Connected ∧ (s.step channels q).driver.env = awaited.env ∧
      (s.step channels q).readings = s.readings ++ [⟨q.request, q.out, awaited.stored,
        respond q.request.load awaited.answer q.out⟩] := by
  intro awaited
  have hexec := q.request.exec channels h.connected q.out q.timeout
  rw [h.channel] at hexec
  unfold RequestRun.step
  simp only
  rw [h.channel, hexec]
  exact ⟨⟨h.connected, rfl⟩, rfl, rfl⟩

/-- **What one exchange keeps, a run keeps.** -/
theorem keeps {channels : Channels Unit σ} {I : σ → List Reading → Prop}
    (hstep : ∀ env readings (q : Query), I env readings →
      let awaited := q.request.await channels (some ()) q.timeout env
      I awaited.env (readings ++ [⟨q.request, q.out, awaited.stored,
        respond q.request.load awaited.answer q.out⟩]))
    {env : σ} (hstart : I env []) (queries : List Query) :
    I (run channels env queries).driver.env (run channels env queries).readings := by
  refine (invariant_of_foldl (P := fun s => s.Connected ∧ I s.driver.env s.readings) ?_
    (s := start env) ⟨⟨rfl, rfl⟩, hstart⟩ queries).2
  rintro s q ⟨hconnected, h⟩
  obtain ⟨hconnected', henv, hreadings⟩ := hconnected.step q
  refine ⟨hconnected', ?_⟩
  rw [henv, hreadings]
  exact hstep _ _ q h

/-- Every request of a run has returned what its own stored bytes decode to. -/
theorem run_decodes (channels : Channels Unit σ) (env : σ) (queries : List Query) :
    ∀ reading ∈ (run channels env queries).readings, reading.Decodes := by
  refine keeps (I := fun _ readings => ∀ reading ∈ readings, reading.Decodes) ?_ (by simp) queries
  intro env readings q h awaited reading hreading
  rcases List.mem_append.mp hreading with hold | hnew
  · exact h reading hold
  · rw [List.mem_singleton.mp hnew]
    exact Reading.decodes_of_answer q.request q.out awaited

/-- The requests that have returned are those that were made. -/
theorem run_requests (channels : Channels Unit σ) (env : σ) (queries : List Query) :
    (run channels env queries).readings.map Reading.request = queries.map Query.request := by
  have hfold : ∀ (queries : List Query) (s : RequestRun σ),
      (queries.foldl (step channels) s).readings.map Reading.request =
        s.readings.map Reading.request ++ queries.map Query.request := by
    intro queries
    induction queries with
    | nil => exact fun s => (List.append_nil _).symm
    | cons q queries ih =>
      intro s
      rw [List.foldl_cons, ih]
      unfold step
      rw [List.map_append, List.map_singleton, List.append_assoc]
      rfl
  exact hfold queries _

end RequestRun

end Slamkit
