import Slamkit.Library.Program

/-!
# Traces and phases of an object

A client calls the methods of an object, and each call is recorded together with its answer.
The protocol of the object is an automaton over these records. If the calls of a trace follow the
automaton, an invariant that names the phase needs to be checked for single calls only.
-/

namespace Slamkit.Library

variable {Op : Type} {Res : Op → Type} {σ ε φ : Type}

/-- The object was in the first state, answered the recorded calls one after the other, and is
now in the second. -/
inductive Trace (h : Handler Op Res σ) (event : (op : Op) → Res op → ε) : σ → List ε → σ → Prop
  | nil (s : σ) : Trace h event s [] s
  | cons (op : Op) {s s' : σ} {log : List ε} (rest : Trace h event (h op s).2 log s') :
      Trace h event s (event op (h op s).1 :: log) s'

variable {h : Handler Op Res σ} {event : (op : Op) → Res op → ε}

/-- One trace goes on where another ends. -/
theorem Trace.append {s s' s'' : σ} {first second : List ε} (hfirst : Trace h event s first s')
    (hsecond : Trace h event s' second s'') : Trace h event s (first ++ second) s'' := by
  induction hfirst with
  | nil s => exact hsecond
  | cons op rest ih => exact .cons op (ih hsecond)

/-- The invariant of a phase is kept by the calls that the automaton `next` allows in the phase:
it holds in the phase in which a trace ends. -/
theorem Trace.keeps {next : φ → ε → Option φ} {I : φ → σ → Prop}
    (hstep : ∀ p p' op s, I p s → next p (event op (h op s).1) = some p' → I p' (h op s).2)
    {s s' : σ} {log : List ε} (htrace : Trace h event s log s') {p p' : φ}
    (hfollows : log.foldlM next p = some p') (hs : I p s) : I p' s' := by
  induction htrace generalizing p with
  | nil s =>
    obtain rfl : p = p' := by simpa using hfollows
    exact hs
  | cons op rest ih =>
    rw [List.foldlM_cons, Option.bind_eq_bind, Option.bind_eq_some_iff] at hfollows
    obtain ⟨middle, hnext, hrest⟩ := hfollows
    exact ih hrest (hstep p middle op _ hs hnext)

end Slamkit.Library
