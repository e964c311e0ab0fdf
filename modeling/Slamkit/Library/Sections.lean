import Mathlib.Data.List.Induction
import Mathlib.Logic.Function.Basic
import Slamkit.Library.Program
import Slamkit.Library.Run

/-!
# Critical sections

Threads run programs over one handler, an operation at a time and in any order. Two kinds of
operations take a lock and give it back. If the programs call nothing without the lock, such an
interleaving does what the threads do when they run their critical sections one after the other,
in the order in which they have taken the lock.
-/

namespace Slamkit.Library

variable {Op : Type} {Res : Op → Type} {σ β γ κ : Type} {α : κ → Type}

/-- Which operations take the lock, and which ones give it back. -/
structure LockOps (Op : Type) where
  isLock : Op → Bool
  isUnlock : Op → Bool
  isUnlock_of_isLock : ∀ op, isLock op = true → isUnlock op = false

namespace Program

variable {locks : LockOps Op}

/-- A program that calls nothing without the lock and always gives it back. The argument says
whether it has the lock now. -/
inductive Locked (locks : LockOps Op) : Bool → Program Op Res β → Prop
  | done (b : β) : Locked locks false (.done b)
  | lock {op : Op} {next : Res op → Program Op Res β} (hlock : locks.isLock op = true)
      (hrest : ∀ r, Locked locks true (next r)) : Locked locks false (.call op next)
  | unlock {op : Op} {next : Res op → Program Op Res β} (hunlock : locks.isUnlock op = true)
      (hrest : ∀ r, Locked locks false (next r)) : Locked locks true (.call op next)
  | inside {op : Op} {next : Res op → Program Op Res β} (hlock : locks.isLock op = false)
      (hunlock : locks.isUnlock op = false) (hrest : ∀ r, Locked locks true (next r)) :
      Locked locks true (.call op next)

/-- A program that does not touch the lock. -/
inductive Plain (locks : LockOps Op) : Program Op Res β → Prop
  | done (b : β) : Plain locks (.done b)
  | call {op : Op} {next : Res op → Program Op Res β} (hlock : locks.isLock op = false)
      (hunlock : locks.isUnlock op = false) (hrest : ∀ r, Plain locks (next r)) :
      Plain locks (.call op next)

/-- A program that respects the lock, continued by others that do. -/
theorem Locked.bind {p : Program Op Res β} {held : Bool} (hp : p.Locked locks held)
    {f : β → Program Op Res γ} (hf : ∀ b, (f b).Locked locks false) :
    (p >>= f).Locked locks held := by
  induction hp with
  | done b => exact hf b
  | lock hlock _ ih => exact .lock hlock fun r => ih r
  | unlock hunlock _ ih => exact .unlock hunlock fun r => ih r
  | inside hlock hunlock _ ih => exact .inside hlock hunlock fun r => ih r

/-- Up to the end of its critical section, a program that respects the lock runs as it does without
what follows it. -/
theorem Locked.runUntil_bind {p : Program Op Res β} {held : Bool} (hp : p.Locked locks held)
    (hbegun : held = true ∨ ∀ b, p ≠ .done b) (h : Handler Op Res σ) (f : β → Program Op Res γ)
    (s : σ) :
    (p >>= f).runUntil h locks.isUnlock s =
      ((p.runUntil h locks.isUnlock s).1 >>= f, (p.runUntil h locks.isUnlock s).2) := by
  induction hp generalizing s with
  | done b =>
    rcases hbegun with hheld | hnot
    · cases hheld
    · exact absurd rfl (hnot b)
  | lock hlock _ ih =>
    have hunlock := locks.isUnlock_of_isLock _ hlock
    rw [call_bind, runUntil_call, runUntil_call, if_neg (by rw [hunlock]; decide),
      if_neg (by rw [hunlock]; decide)]
    exact ih _ (.inl rfl) _
  | unlock hunlock =>
    rw [call_bind, runUntil_call, runUntil_call, if_pos hunlock, if_pos hunlock]
  | inside _ hunlock _ ih =>
    rw [call_bind, runUntil_call, runUntil_call, if_neg (by rw [hunlock]; decide),
      if_neg (by rw [hunlock]; decide)]
    exact ih _ (.inl rfl) _

/-- A program that does not touch the lock, inside a critical section. -/
theorem Plain.bind {p : Program Op Res β} (hp : p.Plain locks) {f : β → Program Op Res γ}
    (hf : ∀ b, (f b).Locked locks true) : (p >>= f).Locked locks true := by
  induction hp with
  | done b => exact hf b
  | call hlock hunlock _ ih => exact .inside hlock hunlock fun r => ih r

end Program

/-- What the threads `κ` share, and what is left of their programs. -/
structure Threads (Op : Type) (Res : Op → Type) (σ : Type) {κ : Type} (α : κ → Type) where
  env : σ
  progs : (k : κ) → Program Op Res (α k)

/-- Threads in the middle of an interleaving: who holds the lock, and who has taken it so far,
oldest first. -/
structure Interleaving (Op : Type) (Res : Op → Type) (σ : Type) {κ : Type} (α : κ → Type)
    extends Threads Op Res σ α where
  holder : Option κ
  order : List κ

variable [DecidableEq κ]

/-- A thread runs up to the end of its critical section. -/
def Threads.section (locks : LockOps Op) (h : Handler Op Res σ) (t : Threads Op Res σ α) (k : κ) :
    Threads Op Res σ α :=
  let r := (t.progs k).runUntil h locks.isUnlock t.env
  ⟨r.2, Function.update t.progs k r.1⟩

/-- A section, by what its thread does up to the end of it. -/
theorem Threads.section_eq {locks : LockOps Op} {h : Handler Op Res σ}
    {t : Threads Op Res σ α} {k : κ} {p rest : Program Op Res (α k)} {env : σ}
    (hprog : t.progs k = p) (hrun : p.runUntil h locks.isUnlock t.env = (rest, env)) :
    t.section locks h k = ⟨env, Function.update t.progs k rest⟩ := by
  unfold Threads.section
  rw [hprog, hrun]

/-- The program of a thread is not done. -/
def Threads.Active (t : Threads Op Res σ α) (k : κ) : Prop := ∀ a, t.progs k ≠ .done a

namespace Interleaving

/-- Threads before the first step. -/
def start (t : Threads Op Res σ α) : Interleaving Op Res σ α := ⟨t, none, []⟩

/-- The next operation of a thread. One that takes the lock waits until it is free. -/
def step (locks : LockOps Op) (h : Handler Op Res σ) (s : Interleaving Op Res σ α) (k : κ) :
    Interleaving Op Res σ α :=
  match s.progs k with
  | .done _ => s
  | .call op next =>
    if locks.isLock op && s.holder.isSome then s
    else
      { env := (h op s.env).2
        progs := Function.update s.progs k (next (h op s.env).1)
        holder := if locks.isLock op then some k
          else if locks.isUnlock op then none else s.holder
        order := if locks.isLock op then s.order ++ [k] else s.order }

/-- The threads once the critical section under way, if there is one, has ended. -/
def complete (locks : LockOps Op) (h : Handler Op Res σ) (s : Interleaving Op Res σ α) :
    Threads Op Res σ α :=
  match s.holder with
  | none => s.toThreads
  | some k => s.toThreads.section locks h k

/-- What an interleaving preserves: a thread is in a critical section exactly if it holds the lock,
and the threads are on the way to where whole sections lead, none of which is empty. -/
structure Inv (locks : LockOps Op) (h : Handler Op Res σ) (t : Threads Op Res σ α)
    (s : Interleaving Op Res σ α) : Prop where
  locked : ∀ k, (s.progs k).Locked locks (decide (s.holder = some k))
  complete : s.complete locks h = s.order.foldl (Threads.section locks h) t
  active : StepsMeet (Threads.section locks h) Threads.Active t s.order

variable {locks : LockOps Op} {h : Handler Op Res σ} {t : Threads Op Res σ α}
  {s : Interleaving Op Res σ α}

/-- The programs after one of them has moved, by whether they are in a critical section. -/
theorem locked_update {k : κ} {holder holder' : Option κ} {p : Program Op Res (α k)}
    (hlocked : ∀ j, (s.progs j).Locked locks (decide (holder = some j)))
    (hp : p.Locked locks (decide (holder' = some k)))
    (hothers : ∀ j, j ≠ k → (holder' = some j ↔ holder = some j)) (j : κ) :
    (Function.update s.progs k p j).Locked locks (decide (holder' = some j)) := by
  by_cases hj : j = k
  · subst hj
    rw [Function.update_self]
    exact hp
  · rw [Function.update_of_ne hj, decide_eq_decide.mpr (hothers j hj)]
    exact hlocked j

/-- A thread takes the lock: its whole section is the next one. -/
theorem Inv.take (hinv : s.Inv locks h t) {k : κ} {op : Op} {next : Res op → Program Op Res (α k)}
    (hprog : s.progs k = .call op next) (hlock : locks.isLock op = true)
    (hrest : ∀ r, (next r).Locked locks true) (hfree : s.holder = none) :
    (s.step locks h k).Inv locks h t := by
  have hunlock := locks.isUnlock_of_isLock op hlock
  have hstep : s.step locks h k =
      ⟨⟨(h op s.env).2, Function.update s.progs k (next (h op s.env).1)⟩, some k,
        s.order ++ [k]⟩ := by
    unfold Interleaving.step
    rw [hprog]
    simp [hlock, hfree]
  rw [hstep]
  constructor
  · apply locked_update hinv.locked
    · simpa using hrest _
    · intro j hj
      rw [hfree]
      simp [Ne.symm hj]
  · have hdone := hinv.complete
    unfold Interleaving.complete at hdone
    rw [hfree] at hdone
    dsimp only at hdone
    rw [List.foldl_concat, ← hdone]
    unfold Interleaving.complete Threads.section
    dsimp only
    rw [Function.update_self, Function.update_idem, hprog, Program.runUntil_call, hunlock,
      if_neg Bool.false_ne_true]
  · have hdone := hinv.complete
    unfold Interleaving.complete at hdone
    rw [hfree] at hdone
    refine (stepsMeet_append _ _ _).mpr ⟨hinv.active, ?_, trivial⟩
    rw [← hdone]
    intro a
    change s.progs k ≠ .done a
    rw [hprog]
    nofun

/-- A thread goes on in its section. -/
theorem Inv.inside (hinv : s.Inv locks h t) {k : κ} {op : Op}
    {next : Res op → Program Op Res (α k)} (hprog : s.progs k = .call op next)
    (hlock : locks.isLock op = false) (hunlock : locks.isUnlock op = false)
    (hrest : ∀ r, (next r).Locked locks true) (hholder : s.holder = some k) :
    (s.step locks h k).Inv locks h t := by
  have hstep : s.step locks h k =
      ⟨⟨(h op s.env).2, Function.update s.progs k (next (h op s.env).1)⟩, some k, s.order⟩ := by
    unfold Interleaving.step
    rw [hprog]
    simp [hlock, hunlock, hholder]
  rw [hstep]
  constructor
  · apply locked_update hinv.locked
    · simpa using hrest _
    · intro j _
      rw [hholder]
  · rw [← hinv.complete]
    unfold Interleaving.complete Threads.section
    rw [hholder]
    dsimp only
    rw [Function.update_self, Function.update_idem, hprog, Program.runUntil_call, hunlock,
      if_neg Bool.false_ne_true]
  · exact hinv.active

/-- A thread ends its section. -/
theorem Inv.release (hinv : s.Inv locks h t) {k : κ} {op : Op}
    {next : Res op → Program Op Res (α k)} (hprog : s.progs k = .call op next)
    (hunlock : locks.isUnlock op = true) (hrest : ∀ r, (next r).Locked locks false)
    (hholder : s.holder = some k) : (s.step locks h k).Inv locks h t := by
  have hlock : locks.isLock op = false := by
    by_contra hlock
    have hnot := locks.isUnlock_of_isLock op (by simpa using hlock)
    rw [hunlock] at hnot
    cases hnot
  have hstep : s.step locks h k =
      ⟨⟨(h op s.env).2, Function.update s.progs k (next (h op s.env).1)⟩, none, s.order⟩ := by
    unfold Interleaving.step
    rw [hprog]
    simp [hlock, hunlock]
  rw [hstep]
  constructor
  · apply locked_update hinv.locked
    · simpa using hrest _
    · intro j hj
      rw [hholder]
      simp [Ne.symm hj]
  · rw [← hinv.complete]
    unfold Interleaving.complete Threads.section
    rw [hholder]
    dsimp only
    rw [hprog, Program.runUntil_call, if_pos hunlock]
  · exact hinv.active

/-- Every step preserves the invariant. -/
theorem Inv.step (hinv : s.Inv locks h t) (k : κ) : (s.step locks h k).Inv locks h t := by
  have hk := hinv.locked k
  cases hprog : s.progs k with
  | done =>
    have hstep : s.step locks h k = s := by
      unfold Interleaving.step
      rw [hprog]
    rw [hstep]
    exact hinv
  | call op next =>
    rw [hprog] at hk
    by_cases hholder : s.holder = some k
    · rw [decide_eq_true hholder] at hk
      cases hk with
      | unlock hunlock hrest => exact hinv.release hprog hunlock hrest hholder
      | inside hlock hunlock hrest => exact hinv.inside hprog hlock hunlock hrest hholder
    · rw [decide_eq_false hholder] at hk
      cases hk with
      | lock hlock hrest =>
        cases hfree : s.holder with
        | none => exact hinv.take hprog hlock hrest hfree
        | some j =>
          have hstep : s.step locks h k = s := by
            unfold Interleaving.step
            rw [hprog]
            simp [hlock, hfree]
          rw [hstep]
          exact hinv

/-- **Critical sections are atomic.** If the programs of the threads respect the lock, every
interleaving of their operations has done what whole critical sections do, one after the other in
the order in which the lock was taken, except for what is left of the last one. -/
theorem sections_atomic (locks : LockOps Op) (h : Handler Op Res σ) {t : Threads Op Res σ α}
    (hlocked : ∀ k, (t.progs k).Locked locks false) (steps : List κ) :
    (steps.foldl (step locks h) (start t)).Inv locks h t := by
  have hstart : (start t).Inv locks h t := ⟨hlocked, rfl, trivial⟩
  induction steps using List.reverseRecOn with
  | nil => exact hstart
  | append_singleton steps k ih =>
    rw [List.foldl_concat]
    exact ih.step k

/-- As long as a program is not done, some thread can take a step. -/
theorem Inv.progress (hinv : s.Inv locks h t) {k : κ} (hk : s.toThreads.Active k) :
    ∃ j op next, s.progs j = .call op next ∧ (locks.isLock op = true → s.holder = none) := by
  cases hholder : s.holder with
  | none =>
    cases hprog : s.progs k with
    | done a => exact absurd hprog (hk a)
    | call op next => exact ⟨k, op, next, hprog, fun _ => rfl⟩
  | some j =>
    have hj := hinv.locked j
    rw [decide_eq_true hholder] at hj
    cases hprog : s.progs j with
    | done a =>
      rw [hprog] at hj
      cases hj
    | call op next =>
      rw [hprog] at hj
      refine ⟨j, op, next, hprog, fun hlock => ?_⟩
      cases hj with
      | unlock hunlock =>
        rw [locks.isUnlock_of_isLock op hlock] at hunlock
        cases hunlock
      | inside hnot =>
        rw [hlock] at hnot
        cases hnot

/-- When all programs are done the lock is free. -/
theorem Inv.free_of_done (hinv : s.Inv locks h t) (hdone : ∀ k, ∃ a, s.progs k = .done a) :
    s.holder = none := by
  by_contra hheld
  obtain ⟨k, hk⟩ := Option.ne_none_iff_exists'.mp hheld
  obtain ⟨a, ha⟩ := hdone k
  have hlocked := hinv.locked k
  rw [ha, decide_eq_true hk] at hlocked
  cases hlocked

end Interleaving

end Slamkit.Library
