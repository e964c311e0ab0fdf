import Slamkit.Serial

/-!
# Sending over a serial port

`senddata` calls `::write` until everything is written or a call fails, and keeps the number
of bytes written so far in `required_tx_cnt` as well. The invariant of the loop ties what the
kernel has taken to both counts.
-/

namespace Slamkit

namespace RawSerial

/-- The number of bytes that calls of `::write` would take before one fails. -/
def granted : List (SysResult ℕ) → ℕ
  | .ok room :: answers => room + granted answers
  | _ => 0

/-- Answers behind a failure do not count. -/
theorem granted_concat_error (answers : List (SysResult ℕ)) (wouldBlock : Bool) :
    granted (answers ++ [.error wouldBlock]) = granted answers := by
  induction answers with
  | nil => rfl
  | cons answer answers ih =>
    cases answer with
    | error _ => rfl
    | ok room => rw [List.cons_append, granted, granted, ih]

/-- The loop of `senddata` ends with as many bytes as `::write` would take, or with all. -/
theorem sendLoop_granted {data : List SlU8} {answers : List (SysResult ℕ)} {s s' : RawSerial}
    {txLen n : ℕ} {taken taken' : List SlU8} (htx : txLen ≤ data.length)
    (h : sendLoop data answers s txLen taken = some (n, taken', s')) :
    n = min data.length (txLen + granted answers) := by
  induction answers generalizing s txLen taken with
  | nil => cases h
  | cons answer answers ih =>
    cases answer with
    | error wouldBlock =>
      obtain ⟨rfl, -, -⟩ : txLen = n ∧ taken = taken' ∧ s = s' := by simpa [sendLoop] using h
      exact (Nat.min_eq_right htx).symm
    | ok room =>
      rw [sendLoop] at h
      simp only [List.length_drop] at h
      rw [granted]
      split at h
      · next hlt =>
        rw [ih (Nat.le_of_lt hlt) h]
        omega
      · next hdone =>
        simp only [Option.some.injEq, Prod.mk.injEq] at h
        rw [← h.1]
        omega

/-- A call of `::write` that fails ends the loop. -/
theorem sendLoop_isSome_of_error (data : List SlU8) (answers : List (SysResult ℕ))
    (wouldBlock : Bool) (s : RawSerial) (txLen : ℕ) (taken : List SlU8) :
    (sendLoop data (answers ++ [.error wouldBlock]) s txLen taken).isSome = true := by
  induction answers generalizing s txLen taken with
  | nil => rfl
  | cons answer answers ih =>
    cases answer with
    | error _ => rfl
    | ok room =>
      rw [List.cons_append, sendLoop]
      split
      · exact ih _ _ _
      · rfl

/-- What the loop of `senddata` has done when it ends with `n`: the kernel has taken the first
`n` bytes, and they are counted in `required_tx_cnt`. Short of everything, the loop ends only
with a failed call of `::write`. -/
theorem sendLoop_spec {data : List SlU8} {answers : List (SysResult ℕ)} {s s' : RawSerial}
    {txLen n : ℕ} {taken : List SlU8} (htx : txLen ≤ data.length) (hcount : s.requiredTxCnt = txLen)
    (h : sendLoop data answers s txLen (data.take txLen) = some (n, taken, s')) :
    n ≤ data.length ∧ taken = data.take n ∧ s'.requiredTxCnt = n ∧
      (n < data.length → ∃ before wouldBlock after,
        answers = before ++ .error wouldBlock :: after ∧
          sendLoop data before s txLen (data.take txLen) = none) := by
  induction answers generalizing s txLen with
  | nil => cases h
  | cons answer answers ih =>
    cases answer with
    | error wouldBlock =>
      obtain ⟨rfl, rfl, rfl⟩ : txLen = n ∧ data.take txLen = taken ∧ s = s' := by
        simpa [sendLoop] using h
      exact ⟨htx, rfl, hcount, fun _ => ⟨[], wouldBlock, answers, rfl, rfl⟩⟩
    | ok room =>
      have hgrow : data.take txLen ++ (data.drop txLen).take (min room (data.drop txLen).length) =
          data.take (txLen + min room (data.drop txLen).length) := List.take_add.symm
      have hle : txLen + min room (data.drop txLen).length ≤ data.length := by
        rw [List.length_drop]
        omega
      rw [sendLoop] at h
      simp only [hgrow] at h
      split at h
      · next hlt =>
        obtain ⟨hn, htaken, hcount', hfailed⟩ := ih hle rfl h
        refine ⟨hn, htaken, hcount', fun hshort => ?_⟩
        obtain ⟨before, wouldBlock, after, rfl, hrunning⟩ := hfailed hshort
        refine ⟨.ok room :: before, wouldBlock, after, rfl, ?_⟩
        rw [sendLoop]
        simp only [hgrow, if_pos hlt]
        exact hrunning
      · next hdone =>
        obtain ⟨rfl, rfl, rfl⟩ :
            txLen + min room (data.drop txLen).length = n ∧ data.take n = taken ∧
              { s with requiredTxCnt := n } = s' := by
          simp only [Option.some.injEq, Prod.mk.injEq] at h
          obtain ⟨rfl, htaken, hs⟩ := h
          exact ⟨rfl, htaken, hs⟩
        exact ⟨hle, rfl, rfl, fun hshort => absurd hshort hdone⟩

/-- A kernel that takes something of every request lets the loop end. -/
theorem sendLoop_isSome {data : List SlU8} {answers : List (SysResult ℕ)} (s : RawSerial)
    {txLen : ℕ} (taken : List SlU8) (hprogress : SysResult.ok 0 ∉ answers)
    (htx : txLen < data.length) (hlength : data.length ≤ txLen + answers.length) :
    (sendLoop data answers s txLen taken).isSome = true := by
  induction answers generalizing s txLen taken with
  | nil => simp at hlength; omega
  | cons answer answers ih =>
    cases answer with
    | error wouldBlock => rfl
    | ok room =>
      have hroom : 0 < room := Nat.pos_of_ne_zero fun hzero => hprogress (by simp [hzero])
      simp only [sendLoop]
      split
      · next hlt =>
        refine ih _ _ (fun hmem => hprogress (List.mem_cons_of_mem _ hmem)) hlt ?_
        rw [List.length_drop, List.length_cons] at *
        omega
      · rfl

/-- `senddata` of something on an open port is its loop. -/
theorem senddata_of_open {s : RawSerial} (hopen : s.isSerialOpened = true) {data : List SlU8}
    (hpos : 1 ≤ data.length) (answers : List (SysResult ℕ)) :
    s.senddata data answers =
      (sendLoop data answers { s with requiredTxCnt := 0 } 0 []).map fun r =>
        ⟨(r.1 : ℤ).bmod (2 ^ 32), r.2.1, r.2.2⟩ := by
  rw [senddata, hopen, Bool.not_true, if_neg Bool.false_ne_true, if_neg (by omega)]

/-- **The send loop.** Whatever `::write` takes of each request: if `senddata` on an open port
returns, it returns the number `n` of bytes the kernel has taken, as many as its answers grant.
These are the first `n` bytes of the data, `waitforsent` then reports `n`, and if this is not
everything, then the loop was still running when a call of `::write` failed. -/
theorem senddata_spec {s : RawSerial} (hopen : s.isSerialOpened = true) {data : List SlU8}
    (hpos : 1 ≤ data.length) (hlt : data.length < 2 ^ 31) {answers : List (SysResult ℕ)}
    {r : Sending} (h : s.senddata data answers = some r) :
    ∃ n : ℕ, r.returned = n ∧ n = min data.length (granted answers) ∧ n ≤ data.length ∧
      r.taken = data.take n ∧ r.serial.waitforsent = (0, n) ∧
      (n < data.length → ∃ before wouldBlock after,
        answers = before ++ .error wouldBlock :: after ∧ s.senddata data before = none) := by
  rw [senddata_of_open hopen hpos, Option.map_eq_some_iff] at h
  obtain ⟨⟨n, taken, s'⟩, hloop, rfl⟩ := h
  obtain ⟨hn, htaken, hcount, hfailed⟩ := sendLoop_spec (Nat.zero_le _) rfl hloop
  have hgranted := sendLoop_granted (Nat.zero_le _) hloop
  rw [Nat.zero_add] at hgranted
  refine ⟨n, ?_, hgranted, hn, htaken, ?_, fun hshort => ?_⟩
  · simp only
    exact Int.bmod_eq_of_le (by omega) (by omega)
  · rw [waitforsent, hcount]
  · obtain ⟨before, wouldBlock, after, hsplit, hrunning⟩ := hfailed hshort
    refine ⟨before, wouldBlock, after, hsplit, ?_⟩
    rw [List.take_zero] at hrunning
    rw [senddata_of_open hopen hpos, hrunning, Option.map_none]

/-- Two of three bytes are taken, in two calls, before a third call fails. -/
theorem senddata_spec_short :
    let s : RawSerial := ⟨true, 115200#32, true, 9, 0⟩
    let answers : List (SysResult ℕ) := [.ok 1, .ok 1, .error true]
    ∃ (r : Sending) (n : ℕ), s.senddata [1#8, 2#8, 3#8] answers = some r ∧ r.returned = n ∧
      n = min 3 (granted answers) ∧ n ≤ 3 ∧ r.taken = [1#8, 2#8, 3#8].take n ∧
      r.serial.waitforsent = (0, n) ∧
      (n < 3 → ∃ before wouldBlock after, answers = before ++ .error wouldBlock :: after ∧
        s.senddata [1#8, 2#8, 3#8] before = none) := by
  intro s answers
  have hsend : s.senddata [1#8, 2#8, 3#8] answers =
      some ⟨2, [1#8, 2#8], ⟨true, 115200#32, true, 2, 0⟩⟩ := by decide
  obtain ⟨n, hspec⟩ := senddata_spec rfl (by decide) (by decide) hsend
  exact ⟨_, n, hsend, hspec⟩

end RawSerial

end Slamkit
