import Mathlib.Data.List.Basic

/-!
# Last writes

Each action of a run overwrites a component of the state or leaves it alone. After the
run the component has the value of the last write, or still its first value if there was
none.
-/

namespace Slamkit.Library

variable {α β γ σ : Type}

/-- The value of the last write of a list of actions. -/
def lastWrite (write : α → Option β) : List α → Option β
  | [] => none
  | a :: rest => (lastWrite write rest).or (write a)

/-- The last action of a kind. -/
def lastAction (kind : α → Bool) (actions : List α) : Option α :=
  lastWrite (Option.guard kind) actions

variable {write : α → Option β} {kind : α → Bool}

@[simp] theorem lastWrite_nil : lastWrite write [] = none := rfl

@[simp] theorem lastWrite_cons (a : α) (rest : List α) :
    lastWrite write (a :: rest) = (lastWrite write rest).or (write a) := rfl

/-- The last write of two runs in a row is one of the second run, if it writes at all. -/
theorem lastWrite_append (first second : List α) :
    lastWrite write (first ++ second) = (lastWrite write second).or (lastWrite write first) := by
  induction first with
  | nil => simp
  | cons a first ih => rw [List.cons_append, lastWrite_cons, ih, lastWrite_cons, Option.or_assoc]

/-- Only the values are changed by changing the values that are written. -/
theorem lastWrite_map (f : β → γ) (actions : List α) :
    lastWrite (fun a => (write a).map f) actions = (lastWrite write actions).map f := by
  induction actions with
  | nil => rfl
  | cons a rest ih => rw [lastWrite_cons, ih, lastWrite_cons, Option.map_or]

/-- **After a run a component has the value of the last write.** -/
theorem foldl_eq_lastWrite {step : σ → α → σ} (get : σ → β) {actions : List α}
    (hstep : ∀ a ∈ actions, ∀ s, get (step s a) = (write a).getD (get s)) (s : σ) :
    get (actions.foldl step s) = (lastWrite write actions).getD (get s) := by
  induction actions generalizing s with
  | nil => rfl
  | cons a rest ih =>
    have hrest := ih (fun b hb => hstep b (List.mem_cons_of_mem a hb)) (step s a)
    rw [List.foldl_cons, hrest, hstep a List.mem_cons_self, lastWrite_cons]
    cases lastWrite write rest with
    | none => rfl
    | some b => rfl

/-- There is no last write exactly if no action writes. -/
theorem lastWrite_eq_none_iff {actions : List α} :
    lastWrite write actions = none ↔ ∀ a ∈ actions, write a = none := by
  induction actions with
  | nil => simp
  | cons a rest ih => rw [lastWrite_cons, Option.or_eq_none_iff, ih, List.forall_mem_cons, and_comm]

/-- The last write is one that no other follows. -/
theorem exists_of_lastWrite_eq_some {actions : List α} {b : β}
    (h : lastWrite write actions = some b) :
    ∃ before a after, actions = before ++ a :: after ∧ write a = some b ∧
      ∀ c ∈ after, write c = none := by
  induction actions with
  | nil => cases h
  | cons a rest ih =>
    rw [lastWrite_cons] at h
    cases hrest : lastWrite write rest with
    | some c =>
      rw [hrest, Option.some_or] at h
      obtain ⟨before, d, after, rfl, hd, hafter⟩ := ih (hrest.trans h)
      exact ⟨a :: before, d, after, rfl, hd, hafter⟩
    | none =>
      rw [hrest, Option.none_or] at h
      exact ⟨[], a, rest, rfl, h, lastWrite_eq_none_iff.mp hrest⟩

/-- Only actions of the kind write. -/
def WritesOnly (kind : α → Bool) (write : α → Option β) : Prop :=
  ∀ a, kind a = false → write a = none

/-- Without an action of the kind nothing is written. -/
theorem WritesOnly.lastWrite_of_none (hkind : WritesOnly kind write) {actions : List α}
    (h : lastAction kind actions = none) : lastWrite write actions = none := by
  rw [lastWrite_eq_none_iff]
  intro a ha
  apply hkind
  have hguard := lastWrite_eq_none_iff.mp h a ha
  simpa [Option.guard_eq_none_iff] using hguard

/-- The last action of the kind makes the last write, provided that it writes. -/
theorem WritesOnly.lastWrite_of_some (hkind : WritesOnly kind write) {actions : List α} {a : α}
    (h : lastAction kind actions = some a) {b : β} (hwrite : write a = some b) :
    lastWrite write actions = some b := by
  obtain ⟨before, c, after, rfl, hc, hafter⟩ := exists_of_lastWrite_eq_some h
  obtain ⟨rfl, -⟩ : c = a ∧ kind c = true := by simpa using hc
  have hnone : lastWrite write after = none := by
    rw [lastWrite_eq_none_iff]
    intro d hd
    apply hkind
    simpa [Option.guard_eq_none_iff] using hafter d hd
  rw [lastWrite_append, lastWrite_cons, hnone, Option.none_or, hwrite, Option.some_or]

/-- The last action of a kind is of that kind. -/
theorem kind_of_lastAction {actions : List α} {a : α} (h : lastAction kind actions = some a) :
    a ∈ actions ∧ kind a = true := by
  obtain ⟨before, c, after, rfl, hc, -⟩ := exists_of_lastWrite_eq_some h
  obtain ⟨rfl, hkind⟩ := Option.guard_eq_some_iff.mp hc
  exact ⟨by simp, hkind⟩

/-- If exactly the actions of the kind write, the last write is that of the last of them. -/
theorem lastWrite_eq_bind {actions : List α} (hkind : WritesOnly kind write)
    (hwrites : ∀ a ∈ actions, kind a = true → (write a).isSome) :
    lastWrite write actions = (lastAction kind actions).bind write := by
  cases h : lastAction kind actions with
  | none => exact hkind.lastWrite_of_none h
  | some a =>
    obtain ⟨hmem, ha⟩ := kind_of_lastAction h
    obtain ⟨b, hb⟩ := Option.isSome_iff_exists.mp (hwrites a hmem ha)
    rw [Option.bind_some, hb]
    exact hkind.lastWrite_of_some h hb

/-- The last write of at most one action. -/
theorem lastWrite_toList (action : Option α) :
    lastWrite write action.toList = action.bind write := by
  cases action with
  | none => rfl
  | some a => exact Option.none_or

end Slamkit.Library
