import Mathlib.Control.Basic

/-!
# Programs over an interface

A stateful function that calls the methods of objects it does not own is a
tree: it either returns a value or names the method it calls and continues
with the result. A handler gives the methods a meaning on a state. Running a
program to its end and running it only up to a chosen kind of call share one
handler, so that sequential and interleaved executions speak of one program.
-/

namespace Slamkit.Library

/-- A program over the operations `Op`, where the operation `op` answers with a
value of type `Res op`. -/
inductive Program (Op : Type) (Res : Op → Type) (α : Type) where
  /-- The program has returned. -/
  | done (a : α)
  /-- The program calls `op` and continues with its answer. -/
  | call (op : Op) (next : Res op → Program Op Res α)

/-- The meaning of the operations on a state: an answer and the state after the call. -/
abbrev Handler (Op : Type) (Res : Op → Type) (σ : Type) := (op : Op) → σ → Res op × σ

namespace Program

variable {Op : Type} {Res : Op → Type} {σ α β : Type}

/-- Sequential composition: the second program continues with the value of the first. -/
def bind : Program Op Res α → (α → Program Op Res β) → Program Op Res β
  | .done a, f => f a
  | .call op next, f => .call op fun r => (next r).bind f

instance : Monad (Program Op Res) where
  pure := .done
  bind := Program.bind

/-- The program that makes one call and returns its answer. -/
def perform (op : Op) : Program Op Res (Res op) := .call op .done

@[simp] theorem pure_eq_done (a : α) : (pure a : Program Op Res α) = .done a := rfl

@[simp] theorem done_bind (a : α) (f : α → Program Op Res β) : (Program.done a >>= f) = f a := rfl

@[simp] theorem call_bind (op : Op) (next : Res op → Program Op Res α)
    (f : α → Program Op Res β) :
    (Program.call op next >>= f) = .call op fun r => next r >>= f := rfl

@[simp] theorem perform_bind (op : Op) (f : Res op → Program Op Res β) :
    (perform op >>= f) = .call op f := rfl

/-- Run a program to its end: its value and the final state. -/
def run (h : Handler Op Res σ) : Program Op Res α → σ → α × σ
  | .done a, s => (a, s)
  | .call op next, s => (next (h op s).1).run h (h op s).2

@[simp] theorem run_done (h : Handler Op Res σ) (a : α) (s : σ) :
    (Program.done a : Program Op Res α).run h s = (a, s) := rfl

@[simp] theorem run_call (h : Handler Op Res σ) (op : Op) (next : Res op → Program Op Res α)
    (s : σ) : (Program.call op next).run h s = (next (h op s).1).run h (h op s).2 := rfl

@[simp] theorem run_perform (h : Handler Op Res σ) (op : Op) (s : σ) :
    (perform op).run h s = h op s := rfl

/-- A composed program runs its first part and continues from the state that part leaves. -/
theorem run_bind (h : Handler Op Res σ) (p : Program Op Res α) (f : α → Program Op Res β)
    (s : σ) : (p >>= f).run h s = (f (p.run h s).1).run h (p.run h s).2 := by
  induction p generalizing s with
  | done a => rfl
  | call op next ih => exact ih (h op s).1 (h op s).2

/-- Run a program up to and including its first call of a stopping operation:
the rest of the program and the state. This is one atomic step of a client
whose critical sections end with such a call. -/
def runUntil (h : Handler Op Res σ) (stop : Op → Bool) :
    Program Op Res α → σ → Program Op Res α × σ
  | .done a, s => (.done a, s)
  | .call op next, s =>
    if stop op then (next (h op s).1, (h op s).2)
    else (next (h op s).1).runUntil h stop (h op s).2

@[simp] theorem runUntil_done (h : Handler Op Res σ) (stop : Op → Bool) (a : α) (s : σ) :
    (Program.done a : Program Op Res α).runUntil h stop s = (.done a, s) := rfl

@[simp] theorem runUntil_call (h : Handler Op Res σ) (stop : Op → Bool) (op : Op)
    (next : Res op → Program Op Res α) (s : σ) :
    (Program.call op next).runUntil h stop s =
      if stop op then (next (h op s).1, (h op s).2)
      else (next (h op s).1).runUntil h stop (h op s).2 := rfl

/-- The operation a program stops at, if it comes to one. -/
def nextOp (h : Handler Op Res σ) (stop : Op → Bool) : Program Op Res α → σ → Option Op
  | .done _, _ => none
  | .call op next, s =>
    if stop op then some op else (next (h op s).1).nextOp h stop (h op s).2

/-- Stopping in between does not change where a program arrives: running the
rest from the stopping point is running the whole program. -/
theorem run_runUntil (h : Handler Op Res σ) (stop : Op → Bool) (p : Program Op Res α) (s : σ) :
    (p.runUntil h stop s).1.run h (p.runUntil h stop s).2 = p.run h s := by
  induction p generalizing s with
  | done a => rfl
  | call op next ih =>
    by_cases hop : stop op = true
    · simp only [runUntil_call, if_pos hop, run_call]
    · simp only [runUntil_call, if_neg hop, run_call]
      exact ih _ _

/-- Two handlers that answer alike on related states, and keep them related, run every program to
the same value. -/
theorem run_related {τ : Type} {h : Handler Op Res σ} {k : Handler Op Res τ} {R : σ → τ → Prop}
    (hstep : ∀ op s t, R s t → (h op s).1 = (k op t).1 ∧ R (h op s).2 (k op t).2)
    (p : Program Op Res α) {s : σ} {t : τ} (hst : R s t) :
    (p.run h s).1 = (p.run k t).1 ∧ R (p.run h s).2 (p.run k t).2 := by
  induction p generalizing s t with
  | done a => exact ⟨rfl, hst⟩
  | call op next ih =>
    obtain ⟨hanswer, hnext⟩ := hstep op s t hst
    rw [run_call, run_call, ← hanswer]
    exact ih (h op s).1 hnext

end Program

end Slamkit.Library
