import Mathlib.Data.List.Basic
import Mathlib.Data.List.ReduceOption

/-!
# A register that announces its changes

A loop reads a source that may fail into one register and announces the
contents of the register whenever their key differs from the key of the last
announcement. This file says which readings are announced: a failed read
announces nothing, except that the very first one may announce the initial
contents of the register.
-/

namespace Slamkit.Library

variable {α κ μ τ : Type}

/-- The register and the key of the last announcement. -/
structure Register (α κ : Type) where
  current : α
  last : κ

namespace Register

/-- A read: success replaces the contents, failure leaves them. -/
def refresh (r : Register α κ) (reading : Option α) : Register α κ :=
  { r with current := reading.getD r.current }

variable [DecidableEq κ] (key : α → κ)

/-- The announcement of one iteration, and the register after it. -/
def announce (r : Register α κ) : Option α × Register α κ :=
  if r.last = key r.current then (none, r)
  else (some r.current, { r with last := key r.current })

/-- The announcements of a sequence of iterations. -/
def outputs (r : Register α κ) : List (Option α) → List (Option α)
  | [] => []
  | reading :: readings =>
    ((r.refresh reading).announce key).1 ::
      ((r.refresh reading).announce key).2.outputs readings

/-- The contents have been announced, or are taken to have been. -/
def Settled (r : Register α κ) : Prop := r.last = key r.current

omit [DecidableEq κ] in
/-- A failed read changes nothing. -/
@[simp] theorem refresh_none (r : Register α κ) : r.refresh none = r := rfl

/-- After an iteration the register is settled. -/
theorem settled_announce (r : Register α κ) : (r.announce key).2.Settled key := by
  by_cases h : r.last = key r.current
  · rw [announce, if_pos h]
    exact h
  · rw [announce, if_neg h]
    rfl

/-- Only the contents are announced. -/
theorem announce_eq_some {r : Register α κ} {a : α} (h : (r.announce key).1 = some a) :
    r.current = a := by
  by_cases hkey : r.last = key r.current
  · simp [announce, hkey] at h
  · simpa [announce, hkey] using h

/-- A settled register announces nothing. -/
theorem announce_of_settled {r : Register α κ} (h : r.Settled key) :
    (r.announce key).1 = none := by
  simp only [announce, if_pos (show r.last = key r.current from h)]

/-- The announcement of an iteration whose read succeeds or whose register was
settled is the reading of that iteration. -/
theorem announce_refresh_eq_some {r : Register α κ} {reading : Option α} {a : α}
    (hprimed : reading = none → r.Settled key)
    (h : ((r.refresh reading).announce key).1 = some a) : reading = some a := by
  cases reading with
  | none => simp [announce_of_settled key (hprimed rfl)] at h
  | some b => exact congrArg some (announce_eq_some key h)

/-- If the register is settled or the first read succeeds, every announcement is
the reading of its own iteration. -/
theorem outputs_eq_reading {r : Register α κ} {readings : List (Option α)}
    (hprimed : readings.head? = some none → r.Settled key) {k : ℕ} {a : α}
    (h : (r.outputs key readings)[k]? = some (some a)) : readings[k]? = some (some a) := by
  induction readings generalizing r k with
  | nil => simp [outputs] at h
  | cons reading readings ih =>
    cases k with
    | zero =>
      have hhead : ((r.refresh reading).announce key).1 = some a := by simpa [outputs] using h
      have hreading := announce_refresh_eq_some key (fun hnone => hprimed (by simp [hnone])) hhead
      simp [hreading]
    | succ k => exact ih (fun _ => settled_announce key _) (by simpa [outputs] using h)

end Register

/-- Reading `j`, with the value `a`, is the latest one at iteration `k`. -/
def IsLatest (readings : List (Option α)) (k j : ℕ) (a : α) : Prop :=
  j ≤ k ∧ readings[j]? = some (some a) ∧ ∀ i, j < i → i ≤ k → readings[i]? = some none

/-- Every message of a topic carries the latest reading at its iteration, and no
reading is carried by two messages. -/
structure AnnouncesReadings (carries : α → μ → Prop) (readings : List (Option α))
    (topic : List (Option μ)) : Prop where
  real : ∀ k m, topic[k]? = some (some m) → ∃ j a, IsLatest readings k j a ∧ carries a m
  once : ∀ j k k' a a' m m', topic[k]? = some (some m) → topic[k']? = some (some m') →
    IsLatest readings k j a → IsLatest readings k' j a' → k = k'

/-- The reading of an iteration is the latest one there. -/
theorem isLatest_self {readings : List (Option α)} {k : ℕ} {a : α}
    (h : readings[k]? = some (some a)) : IsLatest readings k k a :=
  ⟨Nat.le_refl k, h, fun i hlt hle => absurd hlt (by omega)⟩

/-- A topic whose messages each carry the reading of their own iteration. -/
theorem announcesReadings_of_own {carries : α → μ → Prop} {readings : List (Option α)}
    {topic : List (Option μ)}
    (h : ∀ (k : ℕ) m, topic[k]? = some (some m) → ∃ a, readings[k]? = some (some a) ∧ carries a m) :
    AnnouncesReadings carries readings topic := by
  have hlatest : ∀ k m j a, topic[k]? = some (some m) → IsLatest readings k j a → j = k := by
    intro k m j a hk ⟨hle, _, hnone⟩
    obtain ⟨b, hb, _⟩ := h k m hk
    rcases Nat.lt_or_eq_of_le hle with hlt | rfl
    · rw [hnone k hlt (Nat.le_refl k)] at hb
      simp at hb
    · rfl
  constructor
  · intro k m hk
    obtain ⟨a, ha, hcarries⟩ := h k m hk
    exact ⟨k, a, isLatest_self ha, hcarries⟩
  · intro j k k' a a' m m' hk hk' hj hj'
    exact (hlatest k m j a hk hj).symm.trans (hlatest k' m' j a' hk' hj')

/-- A topic with a message in the first iteration, although the first read failed,
announces something that is not a reading. -/
theorem not_announcesReadings_of_first {carries : α → μ → Prop} {readings : List (Option α)}
    {topic : List (Option μ)} {m : μ} (hfirst : readings[0]? = some none)
    (hm : topic[0]? = some (some m)) : ¬ AnnouncesReadings carries readings topic := by
  intro h
  obtain ⟨j, a, ⟨hle, hj, _⟩, _⟩ := h.real 0 m hm
  obtain rfl : j = 0 := by omega
  rw [hfirst] at hj
  simp at hj

/-- A topic whose message at each iteration is made from the announcement and the
stamp of that iteration announces readings exactly if a failed first read finds the
register settled. -/
theorem Register.announcesReadings_iff [DecidableEq κ] (key : α → κ) (r : Register α κ)
    {readings : List (Option α)} (make : τ → α → μ) {stamps : List τ}
    (hlength : stamps.length = readings.length) :
    AnnouncesReadings (fun a m => ∃ stamp, m = make stamp a) readings
        (List.zipWith (fun stamp output => output.map (make stamp)) stamps
          (r.outputs key readings)) ↔
      (readings.head? = some none → r.Settled key) := by
  constructor
  · intro h hhead
    by_contra hsettled
    cases readings with
    | nil => simp at hhead
    | cons reading readings =>
      cases stamps with
      | nil => simp at hlength
      | cons stamp stamps =>
        obtain rfl : reading = none := by simpa using hhead
        have hout : (r.announce key).1 = some r.current := by
          rw [announce, if_neg (show ¬ r.last = key r.current from hsettled)]
        have hfirst : (List.zipWith (fun stamp output => Option.map (make stamp) output)
            (stamp :: stamps) (r.outputs key (none :: readings)))[0]? =
            some (some (make stamp r.current)) := by
          simp [outputs, hout]
        exact not_announcesReadings_of_first rfl hfirst h
  · intro hprimed
    apply announcesReadings_of_own
    intro k m hk
    obtain ⟨stamp, output, _, houtput, hm⟩ := List.getElem?_zipWith_eq_some.mp hk
    obtain ⟨a, rfl, rfl⟩ := Option.map_eq_some_iff.mp hm
    exact ⟨a, outputs_eq_reading key hprimed houtput, stamp, rfl⟩

section Fresh

variable [DecidableEq κ] (key : α → κ)

/-- The fresh readings of a sequence, each at its place: those whose key differs from the key
of the reading before. `previous` is the key of the last reading so far, if there was one. -/
def freshReadings : Option κ → List (Option α) → List (Option α)
  | _, [] => []
  | previous, none :: readings => none :: freshReadings previous readings
  | previous, some a :: readings =>
    (if previous = some (key a) then none else some a) :: freshReadings (some (key a)) readings

/-- From a settled register, or if the first read succeeds, the announcements are the readings
that are fresh after the last announcement. -/
theorem Register.outputs_eq_freshReadings {r : Register α κ} {readings : List (Option α)}
    (hprimed : readings.head? = some none → r.Settled key) :
    r.outputs key readings = freshReadings key (some r.last) readings := by
  induction readings generalizing r with
  | nil => rfl
  | cons reading readings ih =>
    have hsettled := settled_announce key (r.refresh reading)
    rw [outputs, ih fun _ => hsettled]
    cases reading with
    | none =>
      have hkept : r.announce key = (none, r) := if_pos (hprimed rfl)
      rw [refresh_none, hkept]
      rfl
    | some a =>
      have hcurrent : (r.refresh (some a)).current = a := rfl
      have hlast : (r.refresh (some a)).last = r.last := rfl
      by_cases hkey : r.last = key a
      · simp [announce, freshReadings, hcurrent, hlast, hkey]
      · simp [announce, freshReadings, hcurrent, hkey, hlast]

/-- A reading before the sequence matters only if the first reading has its key. -/
theorem freshReadings_some_of_ne {k : κ} {readings : List (Option α)}
    (h : ∀ a, readings.reduceOption.head? = some a → key a ≠ k) :
    freshReadings key (some k) readings = freshReadings key none readings := by
  induction readings with
  | nil => rfl
  | cons reading readings ih =>
    cases reading with
    | none => rw [freshReadings, freshReadings, ih h]
    | some a =>
      have hne : ¬ some k = some (key a) := by simpa [eq_comm] using h a rfl
      rw [freshReadings, freshReadings, if_neg hne, if_neg (by simp)]

/-- And then it makes a difference at the place of that reading. -/
theorem freshReadings_some_isSome_ne {k : κ} {readings : List (Option α)} {a : α}
    (ha : readings.reduceOption.head? = some a) (hkey : key a = k) :
    (freshReadings key (some k) readings).map Option.isSome ≠
      (freshReadings key none readings).map Option.isSome := by
  induction readings with
  | nil => cases ha
  | cons reading readings ih =>
    cases reading with
    | none =>
      intro h
      exact ih ha (List.cons.inj h).2
    | some b =>
      obtain rfl : b = a := by simpa using ha
      intro h
      simp [freshReadings, hkey] at h

/-- If fresh readings and nothing else are announced, a failed first read finds the register
settled, and the first reading does not have the key that the register starts with. -/
theorem Register.primed_of_outputs_isSome {r : Register α κ} {readings : List (Option α)}
    (h : (r.outputs key readings).map Option.isSome =
      (freshReadings key none readings).map Option.isSome) :
    (readings.head? = some none → r.Settled key) ∧
      ∀ a, readings.reduceOption.head? = some a → key a ≠ r.last := by
  have hprimed : readings.head? = some none → r.Settled key := by
    intro hhead
    by_contra hsettled
    obtain ⟨readings, rfl⟩ : ∃ rest, readings = none :: rest := by
      cases readings with
      | nil => cases hhead
      | cons reading rest => exact ⟨rest, by simpa using hhead⟩
    have hannounced : (r.announce key).1 = some r.current := by
      rw [announce, if_neg (show ¬ r.last = key r.current from hsettled)]
    simp [outputs, freshReadings, hannounced] at h
  refine ⟨hprimed, fun a ha hkey => ?_⟩
  rw [outputs_eq_freshReadings key hprimed] at h
  exact freshReadings_some_isSome_ne key ha hkey h

/-- Each iteration has its announcement, if only an empty one. -/
theorem Register.outputs_length (r : Register α κ) (readings : List (Option α)) :
    (r.outputs key readings).length = readings.length := by
  induction readings generalizing r with
  | nil => rfl
  | cons reading readings ih => rw [outputs, List.length_cons, List.length_cons, ih]

/-- Each reading has its place. -/
theorem freshReadings_length (previous : Option κ) (readings : List (Option α)) :
    (freshReadings key previous readings).length = readings.length := by
  induction readings generalizing previous with
  | nil => rfl
  | cons reading readings ih =>
    cases reading with
    | none => rw [freshReadings, List.length_cons, List.length_cons, ih]
    | some a => rw [freshReadings, List.length_cons, List.length_cons, ih]

/-- A topic: the message of each iteration is made from its announcement and its stamp. -/
def topic (make : τ → α → μ) (stamps : List τ) (outputs : List (Option α)) : List (Option μ) :=
  List.zipWith (fun stamp output => output.map (make stamp)) stamps outputs

omit [DecidableEq κ] in
/-- A topic has its messages where there are announcements. -/
theorem isSome_topic (make : τ → α → μ) {stamps : List τ} {outputs : List (Option α)}
    (hlength : stamps.length = outputs.length) :
    (topic make stamps outputs).map Option.isSome = outputs.map Option.isSome := by
  induction stamps generalizing outputs with
  | nil =>
    obtain rfl := List.length_eq_zero_iff.mp hlength.symm
    rfl
  | cons stamp stamps ih =>
    cases outputs with
    | nil => cases hlength
    | cons output outputs =>
      have hrest := ih (Nat.succ.inj hlength)
      rw [topic] at hrest
      rw [topic, List.zipWith_cons_cons, List.map_cons, List.map_cons, hrest, Option.isSome_map]

/-- A topic carries the fresh readings exactly if a failed first read finds the register settled
and the first reading does not have the key that the register starts with. -/
theorem Register.topic_fresh_iff (r : Register α κ) (readings : List (Option α))
    (make : τ → α → μ) (stamps : List τ) (hlength : stamps.length = readings.length) :
    topic make stamps (r.outputs key readings) =
        topic make stamps (freshReadings key none readings) ↔
      (readings.head? = some none → r.Settled key) ∧
        ∀ a, readings.reduceOption.head? = some a → key a ≠ r.last := by
  constructor
  · intro h
    have hsome := congrArg (List.map Option.isSome) h
    rw [isSome_topic make (hlength.trans (r.outputs_length key readings).symm),
      isSome_topic make (hlength.trans (freshReadings_length key none readings).symm)]
      at hsome
    exact primed_of_outputs_isSome key hsome
  · rintro ⟨hprimed, hne⟩
    rw [outputs_eq_freshReadings key hprimed, freshReadings_some_of_ne key hne]

end Fresh

end Slamkit.Library
