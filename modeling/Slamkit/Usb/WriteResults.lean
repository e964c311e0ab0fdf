import Slamkit.Usb.WriteInvariant

/-!
# The results of concurrent writes on a USB channel

As long as every wait finds its signal, the writes of any number of threads are those of a
channel on which one write is finished after the other: each returns what has become of its own
transfer, and none submits the transfer while it is in flight.
-/

namespace Slamkit

open Library

variable {κ : Type}

namespace Writes

open TxChannel

/-- The writes are synchronous: every result is that of the write's own transfer, in the order of
the transfers, and at most the last one is still to come. A transfer in flight has the bytes of
the write that holds the lock; a write that comes to submit the transfer does not find it in
flight; and a write is blocked only until its callback is called. -/
structure Synchronous (s : Writes κ) : Prop where
  results : s.results <+: returns s.outcomes
  pending : s.outcomes.length ≤ s.results.length + 1
  settled : s.opLock = none → s.results = returns s.outcomes
  flight : ∀ k data, s.inFlight = some (k, data) →
    s.opLock = some k ∧ s.buffer = data ∧ (s.pc k = .submitted data ∨ s.pc k = .waiting data)
  submits : ∀ k data, s.pc k = .cleared data → s.inFlight = none
  blocked : ∀ waiter ∈ s.txSignal.blocked, s.inFlight.isSome ∨ s.callback = true

variable {s : Writes κ} {k : κ} {data : List SlU8}

/-- Where every outcome has had its result, none is missing. -/
theorem results_of_settled {c : TxChannel κ} (h : c.Settled) :
    c.results <+: returns c.outcomes ∧ c.outcomes.length ≤ c.results.length + 1 := by
  unfold Settled at h
  refine ⟨?_, ?_⟩
  · rw [h]
  · rw [h, returns, List.length_map]
    omega

/-- Where the last one has not had its result, only that is missing. -/
theorem results_of_recorded {c : TxChannel κ} (h : c.Recorded k data) :
    c.results <+: returns c.outcomes ∧ c.outcomes.length ≤ c.results.length + 1 := by
  obtain ⟨earlier, actualLength, houtcomes, hresults⟩ := h
  refine ⟨?_, ?_⟩
  · rw [houtcomes, returns_concat, hresults]
    exact List.prefix_append _ _
  · rw [houtcomes, hresults, returns, List.length_append, List.length_map]
    rfl

/-- What is known while a transfer is under way. -/
theorem results_of_transferring {c : TxChannel κ} (h : c.Transferring k data) :
    (c.results <+: returns c.outcomes ∧ c.outcomes.length ≤ c.results.length + 1) ∧
      (∀ j sent, c.inFlight = some (j, sent) → j = k ∧ sent = data) ∧
      (c.txSignal.isSignalled = false → c.inFlight.isSome ∨ c.callback = true) := by
  cases h with
  | flying hflight _ _ hsettled =>
    refine ⟨results_of_settled hsettled, ?_, fun _ => .inl (by rw [hflight]; rfl)⟩
    rintro j sent hsome
    obtain ⟨rfl, rfl⟩ := Prod.mk.inj (Option.some.inj (hflight.symm.trans hsome))
    exact ⟨rfl, rfl⟩
  | ended hflight hcallback _ hrecorded =>
    refine ⟨results_of_recorded hrecorded, ?_, fun _ => .inr hcallback⟩
    rw [hflight]
    nofun
  | signalled hflight _ hset hrecorded =>
    refine ⟨results_of_recorded hrecorded, ?_, ?_⟩
    · rw [hflight]
      nofun
    · rw [hset]
      nofun

/-- A write that is about to submit the transfer does not find it in flight. -/
theorem Inv.submits (h : s.Inv) (hpc : s.pc k = .cleared data) : s.inFlight = none := by
  obtain ⟨-, -, -, hidle⟩ := h.holding hpc id
  exact hidle.flight

/-- Without a transfer under way nothing is left to do. -/
theorem synchronous_of_idle (h : s.Idle) : s.Synchronous := by
  obtain ⟨hresults, hpending⟩ := results_of_settled h.settled
  refine ⟨hresults, hpending, fun _ => h.settled, ?_, fun _ _ _ => h.flight, ?_⟩
  · rw [h.flight]
    nofun
  · rw [h.nobody.1]
    nofun

/-- While a transfer is under way its write has still to return. -/
theorem Inv.synchronous_of_transferring (h : s.Inv) (hlock : s.opLock = some k)
    (hdata : s.buffer = data) (hpc : s.pc k = .submitted data ∨ s.pc k = .waiting data)
    (htransfer : s.Transferring k data)
    (hblocked : ∀ waiter ∈ s.txSignal.blocked, s.txSignal.isSignalled = false) :
    s.Synchronous := by
  obtain ⟨⟨hresults, hpending⟩, hflight, hunset⟩ := results_of_transferring htransfer
  refine ⟨hresults, hpending, ?_, ?_, fun _ _ hcleared => h.submits hcleared, ?_⟩
  · rw [hlock]
    nofun
  · intro j sent hsome
    obtain ⟨rfl, rfl⟩ := hflight j sent hsome
    exact ⟨hlock, hdata, hpc⟩
  · exact fun waiter hmem => hunset (hblocked waiter hmem)

/-- The same in the wait of the write. -/
theorem Inv.synchronous_of_waiting (h : s.Inv) (hlock : s.opLock = some k)
    (hdata : s.buffer = data) (hpc : s.pc k = .waiting data) (hwaiting : s.Waiting k data) :
    s.Synchronous := by
  cases hwaiting with
  | blocked _ _ hunset htransfer =>
    exact h.synchronous_of_transferring hlock hdata (.inr hpc) htransfer fun _ _ => hunset
  | woken _ hblocked _ htransfer =>
    refine h.synchronous_of_transferring hlock hdata (.inr hpc) htransfer ?_
    rw [hblocked]
    nofun
  | back hnobody hflight _ hrecorded =>
    obtain ⟨hresults, hpending⟩ := results_of_recorded hrecorded
    refine ⟨hresults, hpending, ?_, ?_, fun _ _ _ => hflight, ?_⟩
    · rw [hlock]
      nofun
    · rw [hflight]
      nofun
    · rw [hnobody.1]
      nofun

/-- What the invariant says to the callers of `write`. -/
theorem Inv.synchronous (h : s.Inv) : s.Synchronous := by
  cases hlock : s.opLock with
  | none => exact synchronous_of_idle (h.free hlock)
  | some k =>
    have hheld := h.held k hlock
    cases hpc : s.pc k with
    | outside => rw [hpc] at hheld; exact hheld.elim
    | locking => rw [hpc] at hheld; exact hheld.elim
    | locked => rw [hpc] at hheld; exact synchronous_of_idle hheld
    | cleared => rw [hpc] at hheld; exact synchronous_of_idle hheld.2.2
    | submitted data =>
      rw [hpc] at hheld
      obtain ⟨hdata, hnobody, htransfer⟩ := hheld
      refine h.synchronous_of_transferring hlock hdata (.inl hpc) htransfer ?_
      rw [hnobody.1]
      nofun
    | waiting data =>
      rw [hpc] at hheld
      exact h.synchronous_of_waiting hlock hheld.1 hpc hheld.2

variable [DecidableEq κ]

/-- **The writes on a USB channel are synchronous** as long as every wait finds its signal. -/
theorem usb_writes_synchronous (txEndpoint : SlU16) {steps : List (WritesStep κ)}
    (hmeet : StepsMeet step FindsSignal (start txEndpoint) steps) :
    (steps.foldl step (start txEndpoint)).Synchronous :=
  (hmeet.invariant (fun _ _ hs hfinds => hs.step hfinds) (inv_start txEndpoint)).synchronous

/-- Two threads write; the second transfer stalls. -/
def twoWrites : List (WritesStep ℕ) :=
  [.call 1 [7, 8], .call 2 [9], .write 1 true, .write 2 true, .write 1 true, .write 1 true,
    .write 1 true, .transferEnds .completed 2, .handleEvents 0, .resume 1, .write 1 true,
    .write 2 true, .write 2 true, .write 2 true, .transferEnds .stall 0, .handleEvents 0,
    .write 2 true, .write 2 true]

/-- The first write returns its length and the second one zero. -/
theorem usb_writes_synchronous_two :
    (twoWrites.foldl step (start 2)).results = [(1, [7, 8], 2), (2, [9], 0)] ∧
      (twoWrites.foldl step (start 2)).Synchronous := by
  refine ⟨rfl, usb_writes_synchronous 2 (findsSignal_of_notSpurious ?_)⟩
  simp [twoWrites, NotSpurious]

end Writes

end Slamkit
