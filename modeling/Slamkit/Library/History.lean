import Mathlib.Data.List.Basic

/-!
# Predicates of a history

A safety property of a run often says of every event that its past allows it.
`EachAfter` states this for a list of events that continues a given past.
-/

namespace Slamkit.Library

variable {α : Type}

/-- Every event of a list satisfies `P` together with everything before it; the
list continues `past`. -/
def EachAfter (P : List α → α → Prop) : List α → List α → Prop
  | _, [] => True
  | past, e :: rest => P past e ∧ EachAfter P (past ++ [e]) rest

variable {P Q : List α → α → Prop}

@[simp] theorem eachAfter_nil (past : List α) : EachAfter P past [] := trivial

@[simp] theorem eachAfter_cons (past rest : List α) (e : α) :
    EachAfter P past (e :: rest) ↔ P past e ∧ EachAfter P (past ++ [e]) rest := Iff.rfl

/-- A list in two parts: the second part has the first in its past. -/
theorem eachAfter_append (past first second : List α) :
    EachAfter P past (first ++ second) ↔
      EachAfter P past first ∧ EachAfter P (past ++ first) second := by
  induction first generalizing past with
  | nil => simp
  | cons e first ih =>
    rw [List.cons_append, eachAfter_cons, eachAfter_cons, ih, and_assoc, List.append_assoc]
    rfl

/-- The same property by splitting the list at the event. -/
theorem eachAfter_iff (past events : List α) :
    EachAfter P past events ↔
      ∀ before e after, events = before ++ e :: after → P (past ++ before) e := by
  constructor
  · rintro h before e after rfl
    exact (((eachAfter_append past before (e :: after)).mp h).2).1
  · intro h
    induction events generalizing past with
    | nil => trivial
    | cons e events ih =>
      refine ⟨by simpa using h [] e events rfl, ih (past ++ [e]) ?_⟩
      rintro before e' after rfl
      simpa using h (e :: before) e' after rfl

/-- Events occur in an order in a history with one more event if they did before, or if the
last of them is the new one and the others have occurred. -/
theorem concat_sublist_concat (order past : List α) (last e : α) :
    (order ++ [last]).Sublist (past ++ [e]) ↔
      (order ++ [last]).Sublist past ∨ last = e ∧ order.Sublist past := by
  rw [← List.reverse_sublist, List.reverse_concat, List.reverse_concat, List.cons_sublist_cons',
    ← List.reverse_concat, List.reverse_sublist, List.reverse_sublist]

end Slamkit.Library
