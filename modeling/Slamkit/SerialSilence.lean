import Mathlib.Data.List.Range
import Slamkit.SerialWait

/-!
# Waiting while the device falls silent

`waitfordata` on a port that only the device writes to, with `::select` as it is on Linux: it
returns at once, and leaves its timeout alone, while there are bytes in the queue; otherwise it
blocks, and takes the time it has blocked off its timeout.
-/

namespace Slamkit

open Library

namespace RawSerial

/-- What happens during a wait: the bytes that arrive in each microsecond, and the time the code
takes from its start to its first look at the queue and from each return of `::select` to the
next look, and from each look to the next call of `::select`. -/
structure Schedule where
  arriving : ℕ → List SlU8
  toLook : ℕ → ℕ
  toSelect : ℕ → ℕ
  toSelect_pos : ∀ k, 0 < toSelect k

namespace Schedule

variable (a : Schedule)

/-- The bytes that arrive from one moment to another. -/
def between (start stop : ℕ) : List SlU8 := (List.range' start (stop - start)).flatMap a.arriving

/-- The queue at some moment, if it was `tty` at the start. -/
def queueAt (tty : Tty) (now : ℕ) : Tty := tty.arrive (a.between 0 now)

/-- `::select` on Linux, called at the moment `now`: what it answers, and when. -/
def select (tty : Tty) (now timeout : ℕ) : SelectResult × ℕ :=
  if (a.queueAt tty now).queue ≠ [] then (.ready ⟨true, false⟩ timeout, now)
  else match (List.range timeout).find? fun blocked => a.arriving (now + blocked) ≠ [] with
    | some blocked => (.ready ⟨true, false⟩ (timeout - (blocked + 1)), now + (blocked + 1))
    | none => (.timeout, now + timeout)

/-- The answers of the first `n` rounds from round `k` on, if the last look at the queue was at
the moment `now`. -/
def rounds (tty : Tty) : ℕ → ℕ → ℕ → ℕ → List WaitRound
  | 0, _, _, _ => []
  | n + 1, k, now, timeout =>
    let r := a.select tty (now + a.toSelect k) timeout
    let look := r.2 + a.toLook (k + 1)
    let left := match r.1 with
      | .ready _ remaining => remaining
      | _ => 0
    ⟨r.1, a.between now look, true⟩ :: rounds tty n (k + 1) look left

/-- The answers of the first `n` rounds of a wait. -/
def waitRounds (tty : Tty) (timeout : SlU32) (n : ℕ) : List WaitRound :=
  a.rounds tty n 0 (a.toLook 0) (timeout.toNat * 1000)

/-- How far a wait has come after at most `n` rounds. -/
def wait (s : RawSerial) (dataCount : ℕ) (timeout : SlU32) (tty : Tty) (n : ℕ) : WaitRun :=
  (s.waitfordata dataCount timeout (a.between 0 (a.toLook 0)) true (a.waitRounds tty timeout n)
    tty).2

/-- What arrives in two intervals that follow each other. -/
theorem between_append {start middle stop : ℕ} (h₁ : start ≤ middle) (h₂ : middle ≤ stop) :
    a.between start middle ++ a.between middle stop = a.between start stop := by
  obtain ⟨first, rfl⟩ := Nat.exists_eq_add_of_le h₁
  obtain ⟨second, rfl⟩ := Nat.exists_eq_add_of_le h₂
  have hwidth : start + first + second - start = first + second := by omega
  rw [between, between, between, ← List.flatMap_append, hwidth, Nat.add_sub_cancel_left,
    Nat.add_sub_cancel_left, List.range'_append_1]

/-- The queue at a later moment. -/
theorem queueAt_arrive (tty : Tty) {now later : ℕ} (h : now ≤ later) :
    (a.queueAt tty now).arrive (a.between now later) = a.queueAt tty later := by
  rw [queueAt, Fifo.arrive_arrive, a.between_append (Nat.zero_le _) h, queueAt]

/-- The queue only grows while nobody reads. -/
theorem queueAt_mono (tty : Tty) {now later : ℕ} (h : now ≤ later) :
    (a.queueAt tty now).queue.length ≤ (a.queueAt tty later).queue.length := by
  rw [← a.queueAt_arrive tty h, Fifo.arrive_queue, List.length_append]
  exact Nat.le_add_right _ _

/-- Once the device is silent, the queue does not grow any more. -/
theorem queueAt_of_silent (tty : Tty) {last : ℕ} (h : ∀ t, last ≤ t → a.arriving t = []) (now : ℕ) :
    (a.queueAt tty now).queue.length ≤ (a.queueAt tty last).queue.length := by
  obtain hle | hlt := le_total now last
  · exact a.queueAt_mono tty hle
  · have hnothing : a.between last now = [] :=
      List.flatMap_eq_nil_iff.mpr fun t ht => h t (List.mem_range'_1.mp ht).1
    rw [← a.queueAt_arrive tty hlt, hnothing, Fifo.arrive_queue, List.append_nil]

/-- The queue is empty as long as nothing has arrived. -/
theorem queueAt_eq_nil_iff (tty : Tty) (now : ℕ) :
    (a.queueAt tty now).queue = [] ↔ tty.queue = [] ∧ ∀ t < now, a.arriving t = [] := by
  rw [queueAt, Fifo.arrive_queue, List.append_eq_nil_iff, between, List.flatMap_eq_nil_iff]
  simp

/-- `::select` times out if the queue stays empty, and otherwise returns while there are bytes in
it. -/
theorem select_cases (tty : Tty) (now timeout : ℕ) :
    (a.select tty now timeout).1 = .timeout ∧ (a.queueAt tty (now + timeout)).queue = [] ∨
      ∃ remaining stop, a.select tty now timeout = (.ready ⟨true, false⟩ remaining, stop) ∧
        now ≤ stop ∧ stop ≤ now + timeout ∧ (a.queueAt tty stop).queue ≠ [] := by
  unfold select
  split
  · next hqueued => exact .inr ⟨timeout, now, rfl, le_rfl, Nat.le_add_right _ _, hqueued⟩
  next hempty =>
  rw [ne_eq, not_not] at hempty
  split
  · next blocked hfound =>
    refine .inr ⟨_, _, rfl, Nat.le_add_right _ _, ?_, ?_⟩
    · have hlt := List.mem_range.mp (List.mem_of_find?_eq_some hfound)
      omega
    · rw [ne_eq, queueAt_eq_nil_iff]
      intro hquiet
      have harrives := List.find?_some hfound
      simp [hquiet.2 (now + blocked) (by omega)] at harrives
  · next hnone =>
    rw [queueAt_eq_nil_iff] at hempty
    refine .inl ⟨rfl, (a.queueAt_eq_nil_iff tty _).mpr ⟨hempty.1, fun t ht => ?_⟩⟩
    obtain hbefore | hwhile := lt_or_ge t now
    · exact hempty.2 t hbefore
    · have hnothing := List.find?_eq_none.mp hnone (t - now) (List.mem_range.mpr (by omega))
      simpa [Nat.add_sub_cancel' hwhile] using hnothing

/-- `::select` does not return before it is called. -/
theorem le_select (tty : Tty) (now timeout : ℕ) : now ≤ (a.select tty now timeout).2 := by
  unfold select
  split
  · exact le_rfl
  · split <;> exact Nat.le_add_right _ _

/-- Bytes in the queue stay there. -/
theorem queued_mono {tty : Tty} {now later : ℕ} (h : (a.queueAt tty now).queue ≠ [])
    (hle : now ≤ later) : (a.queueAt tty later).queue ≠ [] := by
  have hpos := List.length_pos_iff.mpr h
  exact List.length_pos_iff.mp (hpos.trans_le (a.queueAt_mono tty hle))

/-- With bytes in the queue `::select` returns at once and takes nothing off the timeout. -/
theorem select_of_queued {tty : Tty} {now : ℕ} (h : (a.queueAt tty now).queue ≠ [])
    (k timeout : ℕ) : a.select tty (now + a.toSelect k) timeout =
      (.ready ⟨true, false⟩ timeout, now + a.toSelect k) :=
  if_pos (a.queued_mono h (Nat.le_add_right _ _))

variable {a} {s : RawSerial} {dataCount : ℕ} {tty : Tty}

/-- A round in which `::select` reports data, at the moment `stop`: the look behind it decides. -/
theorem waitLoop_round (hopen : s.isSerialOpened = true) {k now timeout remaining stop : ℕ}
    (hselect : a.select tty (now + a.toSelect k) timeout = (.ready ⟨true, false⟩ remaining, stop))
    (hstop : now + a.toSelect k ≤ stop) (n : ℕ) (inputSet : FdSet) (returnedSize : ℕ) :
    (s.waitLoop dataCount (a.rounds tty (n + 1) k now timeout) inputSet timeout returnedSize
      (a.queueAt tty now)).2 =
      if dataCount ≤ (a.queueAt tty (stop + a.toLook (k + 1))).queue.length then
        .returned ansOk (a.queueAt tty (stop + a.toLook (k + 1))).queue.length
          (a.queueAt tty (stop + a.toLook (k + 1)))
      else if s.baudrate = 0 then .crashed
      else (s.waitLoop dataCount (a.rounds tty n (k + 1) (stop + a.toLook (k + 1)) remaining)
        (inputSet.inter ⟨true, false⟩) remaining
        (a.queueAt tty (stop + a.toLook (k + 1))).queue.length
        (a.queueAt tty (stop + a.toLook (k + 1)))).2 := by
  have hlook : now ≤ stop + a.toLook (k + 1) := by omega
  have hpipe : (inputSet.inter ⟨true, false⟩).selfpipe = false := Bool.and_false _
  rw [rounds, waitLoop]
  simp only [hopen, Bool.not_true, if_neg Bool.false_ne_true, hselect, hpipe,
    a.queueAt_arrive tty hlook, ge_iff_le, apply_ite Prod.snd]

/-- With bytes in the queue and enough of them to come, the loop ends with `ANS_OK`: every round
takes time, so that the time they have come is reached. -/
theorem waitLoop_ends (hopen : s.isSerialOpened = true) (hbaud : s.baudrate ≠ 0) {t m : ℕ}
    (henough : dataCount ≤ (a.queueAt tty t).queue.length) {now : ℕ} (hreach : t ≤ now + m)
    (hqueued : (a.queueAt tty now).queue ≠ []) (k timeout : ℕ) (inputSet : FdSet)
    (returnedSize : ℕ) :
    ∃ n tty', (s.waitLoop dataCount (a.rounds tty n k now timeout) inputSet timeout returnedSize
      (a.queueAt tty now)).2 = .returned ansOk tty'.queue.length tty' ∧
        dataCount ≤ tty'.queue.length := by
  induction m generalizing now k inputSet returnedSize with
  | zero =>
    have hlook : t ≤ now + a.toSelect k + a.toLook (k + 1) := by omega
    have hfound := henough.trans (a.queueAt_mono tty hlook)
    refine ⟨1, _, ?_, hfound⟩
    rw [waitLoop_round hopen (a.select_of_queued hqueued k timeout) le_rfl, if_pos hfound]
  | succ m ih =>
    have hpos := a.toSelect_pos k
    by_cases hfound : dataCount ≤
        (a.queueAt tty (now + a.toSelect k + a.toLook (k + 1))).queue.length
    · refine ⟨1, _, ?_, hfound⟩
      rw [waitLoop_round hopen (a.select_of_queued hqueued k timeout) le_rfl, if_pos hfound]
    · have hreach' : t ≤ now + a.toSelect k + a.toLook (k + 1) + m := by omega
      obtain ⟨n, tty', hended, hall⟩ := ih hreach' (a.queued_mono hqueued (by omega)) (k + 1)
        (inputSet.inter ⟨true, false⟩) _
      refine ⟨n + 1, tty', ?_, hall⟩
      rw [waitLoop_round hopen (a.select_of_queued hqueued k timeout) le_rfl, if_neg hfound,
        if_neg hbaud]
      exact hended

/-- With bytes in the queue but never enough of them, the loop goes on for ever. -/
theorem waitLoop_runs (hopen : s.isSerialOpened = true) (hbaud : s.baudrate ≠ 0)
    (hnever : ∀ t, ¬ dataCount ≤ (a.queueAt tty t).queue.length) (n k : ℕ) {now : ℕ}
    (hqueued : (a.queueAt tty now).queue ≠ []) (timeout : ℕ) (inputSet : FdSet)
    (returnedSize : ℕ) :
    (s.waitLoop dataCount (a.rounds tty n k now timeout) inputSet timeout returnedSize
      (a.queueAt tty now)).2 = .running := by
  induction n generalizing k now inputSet returnedSize with
  | zero => rw [rounds, waitLoop_nil hopen]
  | succ n ih =>
    rw [waitLoop_round hopen (a.select_of_queued hqueued k timeout) le_rfl, if_neg (hnever _),
      if_neg hbaud]
    exact ih _ (a.queued_mono hqueued (by omega)) _ _

variable (a s dataCount tty)

/-- After finitely many rounds a wait returns `ANS_OK` with as many bytes in the queue as it waits
for, or `ANS_TIMEOUT` with fewer. -/
def Returns (timeout : SlU32) : Prop :=
  ∃ n tty',
    a.wait s dataCount timeout tty n = .returned ansOk tty'.queue.length tty' ∧
        dataCount ≤ tty'.queue.length ∨
      a.wait s dataCount timeout tty n = .returned ansTimeout 0 tty' ∧
        tty'.queue.length < dataCount

/-- A wait that ends as it should: it returns, and it is not still running when a look has found
enough. -/
structure EndsInTime (timeout : SlU32) : Prop where
  returns : a.Returns s dataCount tty timeout
  prompt : ∀ n, a.wait s dataCount timeout tty n = .running →
    ((tty.arrive (a.between 0 (a.toLook 0))).arrive
      ((a.waitRounds tty timeout n).flatMap WaitRound.arriving)).queue.length < dataCount

/-- Nothing is in the queue before the first call of `::select` has used up its timeout. -/
def Quiet (timeout : SlU32) : Prop :=
  (a.queueAt tty (a.toLook 0 + a.toSelect 0 + timeout.toNat * 1000)).queue = []

/-- The moment of the look behind the first call of `::select`. -/
def secondLook (timeout : SlU32) : ℕ :=
  (a.select tty (a.toLook 0 + a.toSelect 0) (timeout.toNat * 1000)).2 + a.toLook 1

/-- All bytes that ever arrive are enough, or, at baud rate 0, those until the second look. -/
def Enough (timeout : SlU32) : Prop :=
  ∃ t, dataCount ≤ (a.queueAt tty t).queue.length ∧
    (s.baudrate = 0 → t ≤ a.secondLook tty timeout)

variable {s dataCount}

/-- A loop that goes on has not found enough. -/
theorem waitLoop_prompt (hopen : s.isSerialOpened = true) {tty : Tty} {rounds : List WaitRound}
    {inputSet : FdSet} {timeoutVal returnedSize : ℕ} (hshort : tty.queue.length < dataCount)
    (h : (s.waitLoop dataCount rounds inputSet timeoutVal returnedSize tty).2 = .running) :
    (tty.arrive (rounds.flatMap WaitRound.arriving)).queue.length < dataCount := by
  induction rounds generalizing tty inputSet timeoutVal returnedSize with
  | nil => simpa using hshort
  | cons round rounds ih =>
    by_cases htoofew : s.baudrate ≠ 0 ∧ round.Short dataCount inputSet tty
    · obtain ⟨hbaud, ⟨set, remaining, hselect, hpipe⟩, hioctl, hless⟩ := htoofew
      rw [waitLoop_short hopen hbaud hselect hpipe hioctl hless] at h
      rw [List.flatMap_cons, ← Fifo.arrive_arrive]
      exact ih hless h
    · exact absurd h (waitLoop_of_not_short hopen htoofew rounds _ _).2.1

/-- A wait that goes on has not found enough. -/
theorem wait_prompt (hopen : s.isSerialOpened = true) (timeout : SlU32) (n : ℕ)
    (h : a.wait s dataCount timeout tty n = .running) :
    ((tty.arrive (a.between 0 (a.toLook 0))).arrive
      ((a.waitRounds tty timeout n).flatMap WaitRound.arriving)).queue.length < dataCount := by
  unfold wait at h
  by_cases hshort : (tty.arrive (a.between 0 (a.toLook 0))).queue.length < dataCount
  · rw [waitfordata_loop hopen timeout hshort] at h
    exact waitLoop_prompt hopen hshort h
  · exact absurd h (waitfordata_returns hopen timeout (fun hloop => hshort hloop.2) _).2.1

/-- A wait that does not find enough at its first look is its loop. -/
theorem wait_loop (hopen : s.isSerialOpened = true) (timeout : SlU32)
    (hshort : (a.queueAt tty (a.toLook 0)).queue.length < dataCount) (n : ℕ) :
    a.wait s dataCount timeout tty n =
      (s.waitLoop dataCount (a.rounds tty n 0 (a.toLook 0) (timeout.toNat * 1000))
        ⟨true, s.selfpipe⟩ (timeout.toNat * 1000) (a.queueAt tty (a.toLook 0)).queue.length
        (a.queueAt tty (a.toLook 0))).2 := by
  unfold wait waitRounds queueAt
  exact congrArg Prod.snd (waitfordata_loop hopen timeout hshort _)

/-- A wait that finds enough at its first look returns `ANS_OK`. -/
theorem wait_enough (hopen : s.isSerialOpened = true) (timeout : SlU32)
    (henough : dataCount ≤ (a.queueAt tty (a.toLook 0)).queue.length) (n : ℕ) :
    a.wait s dataCount timeout tty n =
      .returned ansOk (a.queueAt tty (a.toLook 0)).queue.length (a.queueAt tty (a.toLook 0)) := by
  unfold queueAt at henough ⊢
  simp only [wait, waitfordata, hopen, Bool.not_true, if_neg Bool.false_ne_true, ge_iff_le,
    if_pos henough]

/-- A wait that only runs or crashes does not return. -/
theorem not_returns {timeout : SlU32}
    (h : ∀ n, a.wait s dataCount timeout tty n = .running ∨
      a.wait s dataCount timeout tty n = .crashed) : ¬ a.Returns s dataCount tty timeout := by
  rintro ⟨n, tty', ⟨hended, -⟩ | ⟨hended, -⟩⟩ <;>
    rcases h n with hn | hn <;> rw [hn] at hended <;> cases hended

/-- If `::select` has reported data and the look behind it has not found enough, the wait goes on
with its loop, or divides by zero. -/
theorem wait_succ (hopen : s.isSerialOpened = true) (timeout : SlU32)
    (hshort : (a.queueAt tty (a.toLook 0)).queue.length < dataCount) {remaining stop : ℕ}
    (hselect : a.select tty (a.toLook 0 + a.toSelect 0) (timeout.toNat * 1000) =
      (.ready ⟨true, false⟩ remaining, stop)) (hstop : a.toLook 0 + a.toSelect 0 ≤ stop)
    (hless : (a.queueAt tty (stop + a.toLook 1)).queue.length < dataCount) (n : ℕ) :
    a.wait s dataCount timeout tty (n + 1) =
      if s.baudrate = 0 then .crashed
      else (s.waitLoop dataCount (a.rounds tty n 1 (stop + a.toLook 1) remaining)
        (FdSet.inter ⟨true, s.selfpipe⟩ ⟨true, false⟩) remaining
        (a.queueAt tty (stop + a.toLook 1)).queue.length
        (a.queueAt tty (stop + a.toLook 1))).2 := by
  rw [a.wait_loop tty hopen timeout hshort, waitLoop_round hopen hselect hstop,
    if_neg (Nat.not_le.mpr hless)]

/-- If `::select` has reported data and the look behind it has not found enough, then all that
comes decides, unless the wait has divided by zero. -/
theorem returns_iff_of_short (hopen : s.isSerialOpened = true) (timeout : SlU32)
    (hshort : (a.queueAt tty (a.toLook 0)).queue.length < dataCount) {remaining stop : ℕ}
    (hselect : a.select tty (a.toLook 0 + a.toSelect 0) (timeout.toNat * 1000) =
      (.ready ⟨true, false⟩ remaining, stop)) (hstop : a.toLook 0 + a.toSelect 0 ≤ stop)
    (hqueued : (a.queueAt tty stop).queue ≠ [])
    (hless : (a.queueAt tty (stop + a.toLook 1)).queue.length < dataCount) :
    a.Returns s dataCount tty timeout ↔ a.Enough s dataCount tty timeout := by
  have hlook : (a.queueAt tty (stop + a.toLook 1)).queue ≠ [] :=
    a.queued_mono hqueued (Nat.le_add_right _ _)
  have hstart : a.wait s dataCount timeout tty 0 = .running := by
    rw [a.wait_loop tty hopen timeout hshort, rounds, waitLoop_nil hopen]
  have hround := a.wait_succ tty hopen timeout hshort hselect hstop hless
  by_cases hbaud : s.baudrate = 0
  · refine iff_of_false (a.not_returns tty fun n => ?_) ?_
    · cases n with
      | zero => exact .inl hstart
      | succ n => exact .inr ((hround n).trans (if_pos hbaud))
    · rintro ⟨t, henough, htime⟩
      have htime := htime hbaud
      rw [secondLook, hselect] at htime
      exact absurd (henough.trans (a.queueAt_mono tty htime)) (Nat.not_le.mpr hless)
  simp only [if_neg hbaud] at hround
  constructor
  · intro hreturns
    by_contra hnot
    have hnever : ∀ t, ¬ dataCount ≤ (a.queueAt tty t).queue.length :=
      fun t henough => hnot ⟨t, henough, fun hzero => absurd hzero hbaud⟩
    refine a.not_returns tty (fun n => .inl ?_) hreturns
    cases n with
    | zero => exact hstart
    | succ n => exact (hround n).trans (waitLoop_runs hopen hbaud hnever n 1 hlook _ _ _)
  · rintro ⟨t, henough, -⟩
    obtain ⟨n, tty', hended, hall⟩ := waitLoop_ends hopen hbaud henough
      (Nat.le_add_left t (stop + a.toLook 1)) hlook 1 remaining
      (FdSet.inter ⟨true, s.selfpipe⟩ ⟨true, false⟩)
      (a.queueAt tty (stop + a.toLook 1)).queue.length
    exact ⟨n + 1, tty', .inl ⟨(hround n).trans hended, hall⟩⟩

/-- The wait returns exactly if nothing at all comes before its timeout is over, or enough
comes. -/
theorem returns_iff (hopen : s.isSerialOpened = true) (timeout : SlU32) :
    a.Returns s dataCount tty timeout ↔
      a.Quiet tty timeout ∨ a.Enough s dataCount tty timeout := by
  by_cases hshort : (a.queueAt tty (a.toLook 0)).queue.length < dataCount
  swap
  · -- Enough at the first look.
    have henough := Nat.not_lt.mp hshort
    have htime : a.toLook 0 ≤ a.secondLook tty timeout := by
      have hselect := a.le_select tty (a.toLook 0 + a.toSelect 0) (timeout.toNat * 1000)
      unfold secondLook
      omega
    exact iff_of_true ⟨0, _, .inl ⟨a.wait_enough tty hopen timeout henough 0, henough⟩⟩
      (.inr ⟨_, henough, fun _ => htime⟩)
  obtain ⟨htimeout, hquiet⟩ | ⟨remaining, stop, hselect, hstart, hstop, hqueued⟩ :=
    a.select_cases tty (a.toLook 0 + a.toSelect 0) (timeout.toNat * 1000)
  · -- Nothing comes.
    refine iff_of_true ⟨1, _, .inr ⟨?_, hshort⟩⟩ (.inl hquiet)
    rw [a.wait_loop tty hopen timeout hshort, rounds, waitLoop_timeout hopen htimeout]
  · -- Something comes.
    have hloud : ¬ a.Quiet tty timeout := a.queued_mono hqueued hstop
    rw [or_iff_right hloud]
    by_cases hless : (a.queueAt tty (stop + a.toLook 1)).queue.length < dataCount
    · exact a.returns_iff_of_short tty hopen timeout hshort hselect hstart hqueued hless
    · have henough := Nat.not_lt.mp hless
      have htime : stop + a.toLook 1 = a.secondLook tty timeout := by rw [secondLook, hselect]
      refine iff_of_true ⟨1, _, .inl ⟨?_, henough⟩⟩ ⟨_, henough, fun _ => htime.le⟩
      rw [a.wait_loop tty hopen timeout hshort, waitLoop_round hopen hselect hstart,
        if_pos henough]

/-- **When a serial wait ends.** On an open port, for every number of bytes, timeout and schedule,
with nobody but the device using the port: the wait ends with the answer that is due exactly if
nothing at all comes before its timeout is over, or enough comes. -/
theorem endsInTime_iff (hopen : s.isSerialOpened = true) (timeout : SlU32) :
    a.EndsInTime s dataCount tty timeout ↔
      a.Quiet tty timeout ∨ a.Enough s dataCount tty timeout := by
  rw [← a.returns_iff tty hopen timeout]
  exact ⟨EndsInTime.returns, fun hreturns => ⟨hreturns, a.wait_prompt tty hopen timeout⟩⟩

/-- One byte in the third microsecond, and no more. -/
def oneByte : Schedule where
  arriving := fun t => if t = 2 then [7] else []
  toLook := fun _ => 1
  toSelect := fun _ => 1
  toSelect_pos := fun _ => Nat.one_pos

/-- A wait for one byte ends. -/
theorem endsInTime_one_byte : oneByte.EndsInTime ⟨true, 115200, true, 0, 0⟩ 1 ⟨[], []⟩ 50 := by
  apply (endsInTime_iff oneByte ⟨[], []⟩ rfl 50).mpr
  have henough : 1 ≤ (oneByte.queueAt ⟨[], []⟩ 3).queue.length := by decide
  exact .inr ⟨3, henough, fun hzero => absurd hzero (by decide)⟩

/-- A wait for four bytes on a port where one byte comes and then nothing does not end. -/
theorem one_byte_then_silence :
    ¬ ∀ (a : Schedule) (s : RawSerial), s.isSerialOpened = true →
      (∃ last, ∀ t, last ≤ t → a.arriving t = []) →
        ∀ dataCount tty timeout, a.EndsInTime s dataCount tty timeout := by
  intro h
  have hsilent : ∀ t, 3 ≤ t → oneByte.arriving t = [] := fun t ht => if_neg (by omega)
  have hreturns := (h oneByte ⟨true, 115200, true, 0, 0⟩ rfl ⟨3, hsilent⟩ 4 ⟨[], []⟩ 50).returns
  rcases (oneByte.returns_iff ⟨[], []⟩ rfl 50).mp hreturns with hquiet | ⟨t, henough, -⟩
  · cases ((oneByte.queueAt_eq_nil_iff _ _).mp hquiet).2 2 (by decide)
  · exact absurd (henough.trans (oneByte.queueAt_of_silent ⟨[], []⟩ hsilent t)) (by decide)

end Schedule

end RawSerial

end Slamkit
