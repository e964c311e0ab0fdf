import Mathlib.Data.List.Basic

/-!
# Runs whose steps meet a condition

A run folds a step function over a list of actions. Many a property holds of a run
exactly as long as each of its steps meets a condition in the state before it. This
file has the two halves of such a statement: an invariant of the steps that meet the
condition, and a property that a step against the condition spoils, at once or later.
-/

namespace Slamkit.Library

variable {σ α : Type}

/-- Every step of a run from `s` meets `C` in the state before it. -/
def StepsMeet (step : σ → α → σ) (C : σ → α → Prop) : σ → List α → Prop
  | _, [] => True
  | s, a :: rest => C s a ∧ StepsMeet step C (step s a) rest

variable {step : σ → α → σ} {C : σ → α → Prop} {P : σ → Prop}

@[simp] theorem stepsMeet_nil (s : σ) : StepsMeet step C s [] := trivial

@[simp] theorem stepsMeet_cons (s : σ) (a : α) (rest : List α) :
    StepsMeet step C s (a :: rest) ↔ C s a ∧ StepsMeet step C (step s a) rest := Iff.rfl

/-- A run in two parts. -/
theorem stepsMeet_append (s : σ) (first second : List α) :
    StepsMeet step C s (first ++ second) ↔
      StepsMeet step C s first ∧ StepsMeet step C (first.foldl step s) second := by
  induction first generalizing s with
  | nil => simp
  | cons a first ih => rw [List.cons_append, stepsMeet_cons, ih, stepsMeet_cons, and_assoc]; rfl

/-- What the steps that meet the condition preserve holds after the run. -/
theorem StepsMeet.invariant (hstep : ∀ s a, P s → C s a → P (step s a)) {s : σ}
    {actions : List α} (hmeet : StepsMeet step C s actions) (hs : P s) :
    P (actions.foldl step s) := by
  induction actions generalizing s with
  | nil => exact hs
  | cons a rest ih => exact ih hmeet.2 (hstep s a hs hmeet.1)

/-- And in every state on the way. -/
theorem StepsMeet.invariant_at (hstep : ∀ s a, P s → C s a → P (step s a)) {s : σ}
    {before after : List α} (hmeet : StepsMeet step C s (before ++ after)) (hs : P s) :
    P (before.foldl step s) :=
  ((stepsMeet_append s before after).mp hmeet).1.invariant hstep hs

/-- Nothing is asked of the steps. -/
theorem stepsMeet_true (s : σ) (actions : List α) :
    StepsMeet step (fun _ _ => True) s actions := by
  induction actions generalizing s with
  | nil => trivial
  | cons a rest ih => exact ⟨trivial, ih _⟩

/-- What every step preserves holds after every run. -/
theorem invariant_of_foldl (hstep : ∀ s a, P s → P (step s a)) {s : σ} (hs : P s)
    (actions : List α) : P (actions.foldl step s) :=
  (stepsMeet_true s actions).invariant (fun s a h _ => hstep s a h) hs

/-- A run whose steps may fail to return: what a step preserves if it returns holds after the run,
if that returns. -/
theorem invariant_of_foldlM {step : σ → α → Option σ}
    (hstep : ∀ s a s', P s → step s a = some s' → P s') {s s' : σ} {actions : List α}
    (hrun : actions.foldlM step s = some s') (hs : P s) : P s' := by
  induction actions generalizing s with
  | nil =>
    obtain rfl : s = s' := by simpa using hrun
    exact hs
  | cons a rest ih =>
    rw [List.foldlM_cons, Option.bind_eq_bind, Option.bind_eq_some_iff] at hrun
    obtain ⟨middle, ha, hrest⟩ := hrun
    exact ih hrest (hstep s a middle hs ha)

/-- Where an invariant of the steps that meet the condition turns it into another condition, the
run meets that one as well. -/
theorem StepsMeet.imp {D : σ → α → Prop} (hstep : ∀ s a, P s → C s a → P (step s a))
    (himp : ∀ s a, P s → C s a → D s a) {s : σ} {actions : List α}
    (hmeet : StepsMeet step C s actions) (hs : P s) : StepsMeet step D s actions := by
  induction actions generalizing s with
  | nil => trivial
  | cons a rest ih => exact ⟨himp s a hs hmeet.1, ih hmeet.2 (hstep s a hs hmeet.1)⟩

/-- If no step repairs `P` and a step against the condition spoils it, then `P` at the end
means that every step has met the condition. -/
theorem stepsMeet_of_last (hkeep : ∀ s a, P (step s a) → P s)
    (hspoil : ∀ s a, P (step s a) → C s a) {s : σ} {actions : List α}
    (hlast : P (actions.foldl step s)) : StepsMeet step C s actions := by
  have hback : ∀ (rest : List α) (s : σ), P (rest.foldl step s) → P s := by
    intro rest
    induction rest with
    | nil => exact fun s h => h
    | cons a rest ih => exact fun s h => hkeep s a (ih (step s a) h)
  induction actions generalizing s with
  | nil => trivial
  | cons a rest ih => exact ⟨hspoil s a (hback rest _ hlast), ih hlast⟩

/-- A run and one more action `last`: if the steps that meet the condition preserve `I`, and `I`
gives `P` here and after `last`, then `P` holds throughout. -/
theorem StepsMeet.throughout {I : σ → Prop} {last : α}
    (hinv : ∀ s a, I s → C s a → I (step s a)) (hhere : ∀ s, I s → P s)
    (hlast : ∀ s, I s → P (step s last)) {s : σ} {actions : List α}
    (hmeet : StepsMeet step C s actions) (hs : I s) {before after : List α}
    (hsplit : actions ++ [last] = before ++ after) : P (before.foldl step s) := by
  rcases List.append_eq_append_iff.mp hsplit with ⟨rest, rfl, hafter⟩ | ⟨rest, rfl, hafter⟩
  · have hend := hmeet.invariant hinv hs
    rcases List.append_eq_singleton_iff.mp hafter.symm with ⟨rfl, -⟩ | ⟨rfl, -⟩
    · rw [List.append_nil]
      exact hhere _ hend
    · rw [List.foldl_concat]
      exact hlast _ hend
  · exact hhere _ (hmeet.invariant_at hinv hs)

/-- The converse: a step against the condition dooms the run. A doomed run stays so until `P`
fails, which happens with `last` at the latest. -/
theorem stepsMeet_of_throughout {I D : σ → Prop} {last : α}
    (hinv : ∀ s a, I s → C s a → I (step s a)) (hdoom : ∀ s a, I s → ¬ C s a → D (step s a))
    (hdoomed : ∀ s a, D s → D (step s a) ∨ ¬ P (step s a)) (hlast : ∀ s, D s → ¬ P (step s last))
    {s : σ} {actions : List α} (hs : I s)
    (hthroughout : ∀ before after, actions ++ [last] = before ++ after → P (before.foldl step s)) :
    StepsMeet step C s actions := by
  have hfail : ∀ (rest : List α) (s : σ), D s →
      ∃ before after, rest ++ [last] = before ++ after ∧ ¬ P (before.foldl step s) := by
    intro rest
    induction rest with
    | nil => exact fun s hd => ⟨[last], [], rfl, hlast s hd⟩
    | cons a rest ih =>
      intro s hd
      rcases hdoomed s a hd with hd' | hnot
      · obtain ⟨before, after, hsplit, hnot⟩ := ih (step s a) hd'
        exact ⟨a :: before, after, by rw [List.cons_append, hsplit, List.cons_append], hnot⟩
      · exact ⟨[a], rest ++ [last], rfl, hnot⟩
  induction actions generalizing s with
  | nil => trivial
  | cons a rest ih =>
    have hrest : ∀ before after, rest ++ [last] = before ++ after →
        P (before.foldl step (step s a)) := by
      intro before after hsplit
      refine hthroughout (a :: before) after ?_
      rw [List.cons_append, hsplit, List.cons_append]
    have hmeet : C s a := by
      by_contra hnot
      obtain ⟨before, after, hsplit, hfails⟩ := hfail rest _ (hdoom s a hs hnot)
      exact hfails (hrest before after hsplit)
    exact ⟨hmeet, ih (hinv s a hs hmeet) hrest⟩

/-- The converse for a property that a step against the condition breaks at once, in a run whose
steps all meet an assumption `A`. -/
theorem stepsMeet_of_each {A : σ → α → Prop} {I : σ → Prop}
    (hinv : ∀ s a, I s → A s a → C s a → I (step s a))
    (hbreak : ∀ s a, I s → A s a → ¬ C s a → ¬ P (step s a)) {s : σ} {actions : List α}
    (hassume : StepsMeet step A s actions) (hs : I s)
    (heach : ∀ before after, actions = before ++ after → P (before.foldl step s)) :
    StepsMeet step C s actions := by
  induction actions generalizing s with
  | nil => trivial
  | cons a rest ih =>
    have hmeet : C s a := by
      by_contra hnot
      exact hbreak s a hs hassume.1 hnot (heach [a] rest rfl)
    refine ⟨hmeet, ih hassume.2 (hinv s a hs hassume.1 hmeet) ?_⟩
    rintro before after rfl
    exact heach (a :: before) after rfl

end Slamkit.Library
