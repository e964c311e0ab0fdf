import Slamkit.Serial

/-!
# Waiting on a serial port

What one round of the loop of `waitfordata` does, and how long a wait can be cancelled.
`::select` overwrites the set of descriptors it is given, and the loop passes the same set to
the next call.
-/

namespace Slamkit

open Library

namespace RawSerial

/-- A round that finds some data but not enough: `::select` does not report the pipe, and the
queue then holds fewer than `dataCount` bytes. -/
def WaitRound.Short (dataCount : ℕ) (inputSet : FdSet) (tty : Tty) (round : WaitRound) : Prop :=
  (∃ set remaining, round.select = .ready set remaining ∧
    (inputSet.inter set).selfpipe = false) ∧
  round.ioctlOk = true ∧ (tty.arrive round.arriving).queue.length < dataCount

/-- The calls of such a round: `::select`, and a pause that depends on what is missing. -/
def shortCalls (baudrate : SlU32) (inputSet : FdSet) (timeoutVal remaining missing : ℕ) :
    List WaitCall :=
  .select inputSet timeoutVal :: ((pause baudrate remaining missing).map .usleep).toList

variable {s : RawSerial} {dataCount : ℕ}

/-- Without further answers the loop is in its call of `::select`. -/
theorem waitLoop_nil (hopen : s.isSerialOpened = true) (inputSet : FdSet)
    (timeoutVal returnedSize : ℕ) (tty : Tty) :
    s.waitLoop dataCount [] inputSet timeoutVal returnedSize tty =
      ([.select inputSet timeoutVal], .running) := by
  simp [waitLoop, hopen]

/-- A timeout of `::select` ends the loop. -/
theorem waitLoop_timeout (hopen : s.isSerialOpened = true) {round : WaitRound}
    (hselect : round.select = .timeout) (rounds : List WaitRound) (inputSet : FdSet)
    (timeoutVal returnedSize : ℕ) (tty : Tty) :
    s.waitLoop dataCount (round :: rounds) inputSet timeoutVal returnedSize tty =
      ([.select inputSet timeoutVal], .returned ansTimeout 0 tty) := by
  unfold waitLoop
  simp [hopen, hselect]

/-- The loop ends with `ANS_TIMEOUT` when `::select` reports the pipe. -/
theorem waitLoop_cancelled (hopen : s.isSerialOpened = true) {round : WaitRound}
    {set inputSet : FdSet} {remaining : ℕ} (hselect : round.select = .ready set remaining)
    (hpipe : (inputSet.inter set).selfpipe = true) (rounds : List WaitRound)
    (timeoutVal returnedSize : ℕ) (tty : Tty) :
    s.waitLoop dataCount (round :: rounds) inputSet timeoutVal returnedSize tty =
      ([.select inputSet timeoutVal], .returned ansTimeout 0 tty) := by
  unfold waitLoop
  simp [hopen, hselect, hpipe]

/-- A round that does not find enough pauses and goes on with the set and the timeout that
`::select` has left. -/
theorem waitLoop_short (hopen : s.isSerialOpened = true) (hbaud : s.baudrate ≠ 0)
    {round : WaitRound} {set inputSet : FdSet} {remaining : ℕ}
    (hselect : round.select = .ready set remaining)
    (hpipe : (inputSet.inter set).selfpipe = false) (hioctl : round.ioctlOk = true) {tty : Tty}
    (hshort : (tty.arrive round.arriving).queue.length < dataCount) (rounds : List WaitRound)
    (timeoutVal returnedSize : ℕ) :
    s.waitLoop dataCount (round :: rounds) inputSet timeoutVal returnedSize tty =
      (shortCalls s.baudrate inputSet timeoutVal remaining
          (dataCount - (tty.arrive round.arriving).queue.length) ++
        (s.waitLoop dataCount rounds (inputSet.inter set) remaining
          (tty.arrive round.arriving).queue.length (tty.arrive round.arriving)).1,
        (s.waitLoop dataCount rounds (inputSet.inter set) remaining
          (tty.arrive round.arriving).queue.length (tty.arrive round.arriving)).2) := by
  rw [waitLoop]
  simp only [hopen, Bool.not_true, if_neg Bool.false_ne_true, hselect, hpipe, hioctl,
    ge_iff_le, if_neg (Nat.not_le.mpr hshort), if_neg hbaud, shortCalls]

/-- Every other round ends the wait, and one that finds too little crashes at baud rate 0. -/
theorem waitLoop_of_not_short (hopen : s.isSerialOpened = true) {round : WaitRound}
    {inputSet : FdSet} {tty : Tty}
    (hnot : ¬ (s.baudrate ≠ 0 ∧ round.Short dataCount inputSet tty)) (rounds : List WaitRound)
    (timeoutVal returnedSize : ℕ) :
    (s.waitLoop dataCount (round :: rounds) inputSet timeoutVal returnedSize tty).1 =
        [.select inputSet timeoutVal] ∧
      (s.waitLoop dataCount (round :: rounds) inputSet timeoutVal returnedSize tty).2 ≠
        .running ∧
      ((s.waitLoop dataCount (round :: rounds) inputSet timeoutVal returnedSize tty).2 =
        .crashed → s.baudrate = 0) := by
  rw [waitLoop]
  simp only [hopen, Bool.not_true, if_neg Bool.false_ne_true]
  cases hselect : round.select with
  | error => exact ⟨rfl, by simp, by simp⟩
  | timeout => exact ⟨rfl, by simp, by simp⟩
  | ready set remaining =>
    dsimp only
    split
    · exact ⟨rfl, by simp, by simp⟩
    · next hpipe =>
      split
      · exact ⟨rfl, by simp, by simp⟩
      · next hioctl =>
        split
        · exact ⟨rfl, by simp, by simp⟩
        · next hshort =>
          split
          · next hbaud => exact ⟨rfl, by simp, fun _ => hbaud⟩
          · next hbaud =>
            refine absurd ⟨hbaud, ⟨set, remaining, hselect, ?_⟩, ?_, ?_⟩ hnot
            · exact Bool.not_eq_true _ ▸ hpipe
            · simpa using hioctl
            · exact Nat.not_le.mp hshort

/-- The first call of the loop is `::select`, with the set and the timeout it is given. -/
theorem mem_waitLoop (hopen : s.isSerialOpened = true) (rounds : List WaitRound) (inputSet : FdSet)
    (timeoutVal returnedSize : ℕ) (tty : Tty) :
    WaitCall.select inputSet timeoutVal ∈
      (s.waitLoop dataCount rounds inputSet timeoutVal returnedSize tty).1 := by
  cases rounds with
  | nil => simp [waitLoop_nil hopen]
  | cons round rounds =>
    by_cases htoofew : s.baudrate ≠ 0 ∧ round.Short dataCount inputSet tty
    · obtain ⟨hbaud, ⟨set, remaining, hselect, hpipe⟩, hioctl, hshort⟩ := htoofew
      rw [waitLoop_short hopen hbaud hselect hpipe hioctl hshort]
      exact List.mem_append_left _ List.mem_cons_self
    · rw [(waitLoop_of_not_short hopen htoofew rounds timeoutVal returnedSize).1]
      exact List.mem_singleton_self _

/-- A loop that is still running goes on with the set and the timeout of its last call. -/
theorem waitLoop_append (hopen : s.isSerialOpened = true) {before : List WaitRound}
    {inputSet : FdSet} {timeoutVal returnedSize : ℕ} {tty : Tty}
    (h : (s.waitLoop dataCount before inputSet timeoutVal returnedSize tty).2 = .running) :
    ∃ calls inputSet' timeoutVal' returnedSize',
      (s.waitLoop dataCount before inputSet timeoutVal returnedSize tty).1 =
        calls ++ [.select inputSet' timeoutVal'] ∧
      ∀ more, s.waitLoop dataCount (before ++ more) inputSet timeoutVal returnedSize tty =
        (calls ++ (s.waitLoop dataCount more inputSet' timeoutVal' returnedSize'
            (tty.arrive (before.flatMap WaitRound.arriving))).1,
          (s.waitLoop dataCount more inputSet' timeoutVal' returnedSize'
            (tty.arrive (before.flatMap WaitRound.arriving))).2) := by
  induction before generalizing inputSet timeoutVal returnedSize tty with
  | nil =>
    refine ⟨[], inputSet, timeoutVal, returnedSize, by rw [waitLoop_nil hopen]; rfl, fun more => ?_⟩
    rw [List.flatMap_nil, Fifo.arrive_nil, List.nil_append, List.nil_append]
  | cons round before ih =>
    by_cases htoofew : s.baudrate ≠ 0 ∧ round.Short dataCount inputSet tty
    · obtain ⟨hbaud, ⟨set, remaining, hselect, hpipe⟩, hioctl, hshort⟩ := htoofew
      have hround := waitLoop_short hopen hbaud hselect hpipe hioctl hshort
      rw [hround] at h
      obtain ⟨calls, inputSet', timeoutVal', returnedSize', hcalls, hmore⟩ := ih h
      refine ⟨shortCalls s.baudrate inputSet timeoutVal remaining
        (dataCount - (tty.arrive round.arriving).queue.length) ++ calls,
        inputSet', timeoutVal', returnedSize', ?_, fun more => ?_⟩
      · rw [hround, hcalls, List.append_assoc]
      · rw [List.cons_append, hround, hmore more, List.flatMap_cons, ← Fifo.arrive_arrive,
          List.append_assoc]
    · exact absurd h (waitLoop_of_not_short hopen htoofew before _ _).2.1

/-- `waitfordata` enters its loop if the queue does not hold enough, with a timeout of as many
microseconds as the caller's milliseconds are. -/
theorem waitfordata_loop (hopen : s.isSerialOpened = true) (timeout : SlU32)
    {arriving : List SlU8} {tty : Tty} (hshort : (tty.arrive arriving).queue.length < dataCount)
    (rounds : List WaitRound) :
    s.waitfordata dataCount timeout arriving true rounds tty =
      s.waitLoop dataCount rounds ⟨true, s.selfpipe⟩ (timeout.toNat * 1000)
        (tty.arrive arriving).queue.length (tty.arrive arriving) := by
  have hmicros : timeout.toNat / 1000 * 1000000 + timeout.toNat % 1000 * 1000 =
      timeout.toNat * 1000 := by omega
  simp only [waitfordata, hopen, Bool.not_true, if_neg Bool.false_ne_true, ge_iff_le,
    if_neg (Nat.not_le.mpr hshort), hmicros]

/-- Otherwise it returns at once. -/
theorem waitfordata_returns (hopen : s.isSerialOpened = true) (timeout : SlU32)
    {arriving : List SlU8} {ioctlOk : Bool} {tty : Tty}
    (hnot : ¬ (ioctlOk = true ∧ (tty.arrive arriving).queue.length < dataCount))
    (rounds : List WaitRound) :
    (s.waitfordata dataCount timeout arriving ioctlOk rounds tty).1 = [] ∧
      (s.waitfordata dataCount timeout arriving ioctlOk rounds tty).2 ≠ .running ∧
      (s.waitfordata dataCount timeout arriving ioctlOk rounds tty).2 ≠ .crashed := by
  simp only [waitfordata, hopen, Bool.not_true, if_neg Bool.false_ne_true, ge_iff_le]
  cases ioctlOk with
  | false => simp
  | true =>
    have henough : dataCount ≤ (tty.arrive arriving).queue.length :=
      Nat.not_lt.mp fun hshort => hnot ⟨rfl, hshort⟩
    simp only [Bool.not_true, if_neg Bool.false_ne_true, if_pos henough]
    exact ⟨trivial, by simp, by simp⟩

/-- Only at baud rate 0 does the loop divide by zero. -/
theorem baudrate_of_waitLoop (hopen : s.isSerialOpened = true) {rounds : List WaitRound}
    {inputSet : FdSet} {timeoutVal returnedSize : ℕ} {tty : Tty}
    (h : (s.waitLoop dataCount rounds inputSet timeoutVal returnedSize tty).2 = .crashed) :
    s.baudrate = 0 := by
  induction rounds generalizing inputSet timeoutVal returnedSize tty with
  | nil =>
    rw [waitLoop_nil hopen] at h
    cases h
  | cons round rounds ih =>
    by_cases htoofew : s.baudrate ≠ 0 ∧ round.Short dataCount inputSet tty
    · obtain ⟨hbaud, ⟨set, remaining, hselect, hpipe⟩, hioctl, hshort⟩ := htoofew
      rw [waitLoop_short hopen hbaud hselect hpipe hioctl hshort] at h
      exact ih h
    · exact (waitLoop_of_not_short hopen htoofew rounds _ _).2.2 h

/-- Only at baud rate 0 does `waitfordata` divide by zero. -/
theorem baudrate_of_waitfordata (hopen : s.isSerialOpened = true) {timeout : SlU32}
    {arriving : List SlU8} {ioctlOk : Bool} {rounds : List WaitRound} {tty : Tty}
    (h : (s.waitfordata dataCount timeout arriving ioctlOk rounds tty).2 = .crashed) :
    s.baudrate = 0 := by
  by_cases hloop : ioctlOk = true ∧ (tty.arrive arriving).queue.length < dataCount
  · obtain ⟨rfl, hshort⟩ := hloop
    rw [waitfordata_loop hopen timeout hshort] at h
    exact baudrate_of_waitLoop hopen h
  · exact absurd h (waitfordata_returns hopen timeout hloop rounds).2.2

/-- `cancelOperation`: whether the read end of the self-pipe is ready afterwards. It writes into
the pipe if there is one. -/
def cancelOperation (s : RawSerial) (pipeReady : Bool) : Bool := pipeReady || s.selfpipe

/-- A wait that can be cancelled, as far as it has come with some answers: every call of
`::select` has watched the port and the pipe, and if it is still in such a call, then
`cancelOperation` lets it return `ANS_TIMEOUT` and no bytes, whether data has come as well or
not. -/
def Cancellable (s : RawSerial) (dataCount : ℕ) (timeout : SlU32) (arriving : List SlU8)
    (ioctlOk : Bool) (rounds : List WaitRound) (tty : Tty) : Prop :=
  (∀ set timeoutVal,
    .select set timeoutVal ∈ (s.waitfordata dataCount timeout arriving ioctlOk rounds tty).1 →
      set = ⟨true, true⟩) ∧
  ((s.waitfordata dataCount timeout arriving ioctlOk rounds tty).2 = .running →
    ∀ readable remaining more lookOk, ∃ tty',
      (s.waitfordata dataCount timeout arriving ioctlOk
        (rounds ++ [⟨.ready ⟨readable, s.cancelOperation false⟩ remaining, more, lookOk⟩])
        tty).2 = .returned ansTimeout 0 tty')

/-- The wait enters its loop, at a baud rate other than 0, and the first call of `::select`
comes back with too little data. -/
def ShortFirst (s : RawSerial) (dataCount : ℕ) (arriving : List SlU8) (ioctlOk : Bool)
    (rounds : List WaitRound) (tty : Tty) : Prop :=
  s.baudrate ≠ 0 ∧ ioctlOk = true ∧ (tty.arrive arriving).queue.length < dataCount ∧
    ∃ first, rounds.head? = some first ∧
      first.Short dataCount ⟨true, true⟩ (tty.arrive arriving)

/-- A wait that has ended, and called `::select` with the full set only, can be cancelled. -/
theorem Cancellable.of_ended {timeout : SlU32} {arriving : List SlU8} {ioctlOk : Bool}
    {rounds : List WaitRound} {tty : Tty}
    (hcalls : ∀ call ∈ (s.waitfordata dataCount timeout arriving ioctlOk rounds tty).1,
      ∃ timeoutVal, call = .select ⟨true, true⟩ timeoutVal)
    (hended : (s.waitfordata dataCount timeout arriving ioctlOk rounds tty).2 ≠ .running) :
    s.Cancellable dataCount timeout arriving ioctlOk rounds tty := by
  constructor
  · intro set timeoutVal hmem
    obtain ⟨timeoutVal', heq⟩ := hcalls _ hmem
    exact (WaitCall.select.inj heq).1
  · intro hrunning
    exact absurd hrunning hended

/-- A wait in its first call of `::select` can be cancelled. -/
theorem cancellable_first (hopen : s.isSerialOpened = true) (hpipe : s.selfpipe = true)
    (timeout : SlU32) {arriving : List SlU8} {tty : Tty}
    (hshort : (tty.arrive arriving).queue.length < dataCount) :
    s.Cancellable dataCount timeout arriving true [] tty := by
  have hloop := waitfordata_loop hopen timeout hshort
  constructor
  · rw [hloop, hpipe, waitLoop_nil hopen]
    intro set timeoutVal hmem
    exact (WaitCall.select.inj (List.mem_singleton.mp hmem)).1
  · intro _ readable remaining more lookOk
    have hwatched : (FdSet.inter ⟨true, s.selfpipe⟩
        ⟨readable, s.cancelOperation false⟩).selfpipe = true := by
      simp [FdSet.inter, cancelOperation, hpipe]
    rw [hloop, List.nil_append, waitLoop_cancelled hopen rfl hwatched]
    exact ⟨_, rfl⟩

/-- The call of `::select` behind a round that has found too little does not watch the pipe. -/
theorem not_cancellable_of_short (hopen : s.isSerialOpened = true) (timeout : SlU32)
    {arriving : List SlU8} {tty : Tty} (hshort : (tty.arrive arriving).queue.length < dataCount)
    {round : WaitRound} (hbaud : s.baudrate ≠ 0)
    (htoofew : round.Short dataCount ⟨true, s.selfpipe⟩ (tty.arrive arriving))
    (rest : List WaitRound) :
    ¬ s.Cancellable dataCount timeout arriving true (round :: rest) tty := by
  rintro ⟨hwatched, -⟩
  obtain ⟨⟨set, remaining, hselect, hunwatched⟩, hioctl, hless⟩ := htoofew
  rw [waitfordata_loop hopen timeout hshort,
    waitLoop_short hopen hbaud hselect hunwatched hioctl hless] at hwatched
  have hfull := hwatched (FdSet.inter ⟨true, s.selfpipe⟩ set) remaining
    (List.mem_append_right _ (mem_waitLoop hopen rest _ _ _ _))
  rw [hfull] at hunwatched
  cases hunwatched

/-- **When a serial wait can be cancelled.** On an open port with its self-pipe, for every number
of bytes, timeout and answers: every call of `::select` watches the port and the pipe, and a
cancellation ends the wait with `ANS_TIMEOUT`, exactly if the first call of `::select` did not come
back with too little data. -/
theorem cancellable_iff (hopen : s.isSerialOpened = true) (hpipe : s.selfpipe = true)
    (dataCount : ℕ) (timeout : SlU32) (arriving : List SlU8) (ioctlOk : Bool)
    (rounds : List WaitRound) (tty : Tty) :
    s.Cancellable dataCount timeout arriving ioctlOk rounds tty ↔
      ¬ s.ShortFirst dataCount arriving ioctlOk rounds tty := by
  by_cases hloop : ioctlOk = true ∧ (tty.arrive arriving).queue.length < dataCount
  swap
  · -- The wait returns before its loop.
    obtain ⟨hcalls, hended, -⟩ := waitfordata_returns hopen timeout hloop rounds
    refine iff_of_true (.of_ended ?_ hended) fun hfirst => hloop ⟨hfirst.2.1, hfirst.2.2.1⟩
    rw [hcalls]
    exact fun _ hmem => absurd hmem List.not_mem_nil
  obtain ⟨rfl, hshort⟩ := hloop
  cases rounds with
  | nil =>
    exact iff_of_true (cancellable_first hopen hpipe timeout hshort)
      fun ⟨_, _, _, _, hhead, _⟩ => nomatch hhead
  | cons round rest =>
    by_cases htoofew :
        s.baudrate ≠ 0 ∧ round.Short dataCount ⟨true, true⟩ (tty.arrive arriving)
    · exact iff_of_false
        (not_cancellable_of_short hopen timeout hshort htoofew.1 (hpipe ▸ htoofew.2) rest)
        (not_not_intro ⟨htoofew.1, rfl, hshort, round, rfl, htoofew.2⟩)
    · obtain ⟨hcalls, hended, -⟩ := waitLoop_of_not_short hopen htoofew rest
        (timeout.toNat * 1000) (tty.arrive arriving).queue.length
      have hrun := waitfordata_loop hopen timeout hshort (round :: rest)
      rw [hpipe] at hrun
      rw [← hrun] at hcalls hended
      refine iff_of_true (.of_ended ?_ hended) ?_
      · rw [hcalls]
        exact fun _ hmem => ⟨_, List.mem_singleton.mp hmem⟩
      · rintro ⟨hbaud, _, _, first, hhead, hfirst⟩
        cases hhead
        exact htoofew ⟨hbaud, hfirst⟩

/-- A wait for four bytes is cancelled before anything has come. -/
theorem cancellable_before_data :
    (⟨true, 115200, true, 0, 0⟩ : RawSerial).Cancellable 4 100 [] true [] ⟨[], []⟩ :=
  (cancellable_iff rfl rfl 4 100 [] true [] ⟨[], []⟩).mpr (by simp [ShortFirst])

/-- One of four bytes has come: the next call of `::select` does not watch the pipe. -/
theorem partial_delivery_unwatches_pipe :
    ¬ ∀ (s : RawSerial), s.isSerialOpened = true → s.selfpipe = true →
      ∀ dataCount timeout arriving ioctlOk rounds tty,
        s.Cancellable dataCount timeout arriving ioctlOk rounds tty := by
  intro h
  have hset := (h ⟨true, 115200, true, 0, 0⟩ rfl rfl 4 100 [] true
    [⟨.ready ⟨true, false⟩ 90000, [7], true⟩] ⟨[], []⟩).1 ⟨true, false⟩ 90000 (by decide)
  cases hset

end RawSerial

end Slamkit
