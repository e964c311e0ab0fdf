import Mathlib.Data.DFinsupp.WellFounded
import Mathlib.SetTheory.Cardinal.Order
import Slamkit.Library.Sections

/-!
# Fair schedules

Finitely many threads whose programs respect a lock come to an end under every schedule that lets
each of them take steps again and again. There is no bound on the number of steps that holds for all
answers of the handler, but every step that is not spent waiting shortens a program.
-/

namespace Slamkit.Library

variable {Op : Type} {Res : Op → Type} {σ β κ : Type} {α : κ → Type}

/-- What is left of a program after its next operation. -/
def Program.Shorter (p q : Program Op Res β) : Prop :=
  ∃ op next, ∃ r : Res op, q = .call op next ∧ p = next r

/-- A program cannot become shorter forever. -/
theorem Program.wellFounded_shorter :
    WellFounded (Program.Shorter : Program Op Res β → Program Op Res β → Prop) := by
  constructor
  intro q
  induction q with
  | done b =>
    constructor
    rintro p ⟨op, next, r, hcall, -⟩
    cases hcall
  | call op next ih =>
    constructor
    rintro p ⟨op', next', r, hcall, rfl⟩
    cases hcall
    exact ih r

/-- One of the programs has become shorter, and the others are the same. -/
def Program.OneShorter (p q : (k : κ) → Program Op Res (α k)) : Prop :=
  ∃ k, (p k).Shorter (q k) ∧ ∀ j, j ≠ k → p j = q j

/-- Finitely many programs cannot become shorter forever. -/
theorem Program.wellFounded_oneShorter [Finite κ] :
    WellFounded (Program.OneShorter : ((k : κ) → Program Op Res (α k)) → _ → Prop) := by
  apply Subrelation.wf (r := Pi.Lex WellOrderingRel fun {_} => Program.Shorter)
  · rintro p q ⟨k, hshorter, hothers⟩
    refine ⟨k, fun j hj => hothers j ?_, hshorter⟩
    rintro rfl
    exact irrefl _ hj
  · exact Pi.Lex.wellFounded WellOrderingRel fun _ => wellFounded_shorter

/-- A schedule that lets each thread take steps again and again. -/
def Fair (schedule : ℕ → κ) : Prop := ∀ k n, ∃ m, n ≤ m ∧ schedule m = k

namespace Interleaving

variable [DecidableEq κ] {locks : LockOps Op} {h : Handler Op Res σ} {t : Threads Op Res σ α}
  {s : Interleaving Op Res σ α} {schedule : ℕ → κ}

/-- The threads after the first `n` steps of a schedule. -/
def after (locks : LockOps Op) (h : Handler Op Res σ) (t : Threads Op Res σ α)
    (schedule : ℕ → κ) (n : ℕ) : Interleaving Op Res σ α :=
  ((List.range n).map schedule).foldl (step locks h) (start t)

/-- One more step. -/
theorem after_succ (n : ℕ) :
    after locks h t schedule (n + 1) = (after locks h t schedule n).step locks h (schedule n) := by
  unfold after
  rw [List.range_succ, List.map_append, List.foldl_append]
  rfl

/-- A thread that need not wait for the lock makes its program shorter. -/
theorem step_shorter {k : κ} {op : Op} {next : Res op → Program Op Res (α k)}
    (hprog : s.progs k = .call op next) (hfree : locks.isLock op = true → s.holder = none) :
    Program.OneShorter (s.step locks h k).progs s.progs := by
  have hgoes : (locks.isLock op && s.holder.isSome) = false := by
    cases hlock : locks.isLock op with
    | false => rfl
    | true => rw [hfree hlock]; rfl
  have hprogs : (s.step locks h k).progs = Function.update s.progs k (next (h op s.env).1) := by
    unfold step
    rw [hprog]
    simp [hgoes]
  rw [hprogs]
  refine ⟨k, ⟨op, next, (h op s.env).1, hprog, Function.update_self ..⟩, fun j hj => ?_⟩
  exact Function.update_of_ne hj _ _

/-- A step is spent waiting, or makes a program shorter. -/
theorem step_cases (locks : LockOps Op) (h : Handler Op Res σ) (s : Interleaving Op Res σ α)
    (k : κ) : s.step locks h k = s ∨ Program.OneShorter (s.step locks h k).progs s.progs := by
  cases hprog : s.progs k with
  | done a =>
    left
    unfold step
    rw [hprog]
  | call op next =>
    by_cases hfree : locks.isLock op = true → s.holder = none
    · exact .inr (step_shorter hprog hfree)
    · left
      push Not at hfree
      have hwaits : (locks.isLock op && s.holder.isSome) = true := by
        rw [hfree.1, Option.isSome_iff_ne_none.mpr hfree.2]
        rfl
      unfold step
      rw [hprog]
      exact if_pos hwaits

/-- **Under a fair schedule all threads come to an end**: from some step on nothing changes any
more, all programs are done and the lock is free, and whole sections have led there. -/
theorem ends_of_fair [Finite κ] (locks : LockOps Op) (h : Handler Op Res σ)
    {t : Threads Op Res σ α} (hlocked : ∀ k, (t.progs k).Locked locks false)
    (hfair : Fair schedule) :
    ∃ n, (∀ m, n ≤ m → after locks h t schedule m = after locks h t schedule n) ∧
      (∀ k, ∃ a, (after locks h t schedule n).progs k = .done a) ∧
      (after locks h t schedule n).holder = none ∧
      (after locks h t schedule n).toThreads =
        (after locks h t schedule n).order.foldl (Threads.section locks h) t := by
  -- the step at which the programs are as short as they will ever be
  obtain ⟨_, ⟨n, rfl⟩, hshortest⟩ := Program.wellFounded_oneShorter.has_min
    (Set.range fun n => (after locks h t schedule n).progs) ⟨_, 0, rfl⟩
  have hstays : ∀ m, n ≤ m → after locks h t schedule m = after locks h t schedule n := by
    intro m hm
    induction m, hm using Nat.le_induction with
    | base => rfl
    | succ m _ ih =>
      rw [after_succ]
      rcases step_cases locks h (after locks h t schedule m) (schedule m) with hsame | hshorter
      · rw [hsame, ih]
      · rw [← after_succ, ih] at hshorter
        exact absurd hshorter (hshortest _ ⟨m + 1, rfl⟩)
  have hinv : (after locks h t schedule n).Inv locks h t := sections_atomic locks h hlocked _
  have hdone : ∀ k, ∃ a, (after locks h t schedule n).progs k = .done a := by
    by_contra hactive
    push Not at hactive
    obtain ⟨k, hk⟩ := hactive
    -- some thread can go on, and its turn comes while nothing has changed
    obtain ⟨j, op, next, hprog, hfree⟩ := hinv.progress hk
    obtain ⟨m, hm, hj⟩ := hfair j n
    have hshorter := step_shorter (h := h) hprog hfree
    rw [← hstays m hm, ← hj, ← after_succ, hstays m hm] at hshorter
    exact hshortest _ ⟨m + 1, rfl⟩ hshorter
  have hfree := hinv.free_of_done hdone
  refine ⟨n, hstays, hdone, hfree, ?_⟩
  rw [← hinv.complete]
  unfold complete
  rw [hfree]

end Interleaving

end Slamkit.Library
