import Mathlib.Data.List.Basic
import Slamkit.Library.History

/-!
# Ledgers of resources

A log of calls obtains resources, uses them and releases them; some resources
live inside others. The log is disciplined if everything obtained is released
exactly once, nothing is used after its release, and what lives inside a
resource is released before it.
-/

namespace Slamkit.Library

/-- What the calls of an interface do with resources. -/
structure Ledger (α ρ : Type) where
  /-- The resource a call obtains. -/
  obtained : α → Option ρ
  /-- The resource a call releases. -/
  released : α → Option ρ
  /-- The resources a call is given. -/
  used : α → List ρ
  /-- The resource around the one a call obtains, and that one. -/
  nested : α → Option (ρ × ρ)

namespace Ledger

variable {α ρ : Type} [DecidableEq ρ] (L : Ledger α ρ)

/-- The number of calls that release a resource. -/
def releaseCount (log : List α) (r : ρ) : ℕ := log.countP fun e => L.released e = some r

/-- What a call may do after the calls `past`: it uses nothing that was released, and
releases nothing around a resource that was not. -/
def Allowed (past : List α) (e : α) : Prop :=
  (∀ r ∈ L.used e, ∀ e' ∈ past, L.released e' ≠ some r) ∧
  ∀ outer inner, L.released e = some outer → ∀ e' ∈ past, L.nested e' = some (outer, inner) →
    ∃ e'' ∈ past, L.released e'' = some inner

/-- The calls of a log respect its resources, and nothing is left behind. -/
structure Disciplined (log : List α) : Prop where
  allowed : EachAfter L.Allowed [] log
  released : ∀ e ∈ log, ∀ r, L.obtained e = some r → L.releaseCount log r = 1

/-- The resources a call has to do with. -/
def mentioned (e : α) : List ρ :=
  (L.obtained e).toList ++ (L.released e).toList ++ L.used e ++
    (L.nested e).toList.flatMap fun p => [p.1, p.2]

/-- A log has obtained a resource and not released it. -/
def Live (log : List α) (r : ρ) : Prop :=
  (∃ e ∈ log, L.obtained e = some r) ∧ ∀ e ∈ log, L.released e ≠ some r

/-- Two logs have no resource in common. -/
def Separate (first second : List α) : Prop :=
  ∀ e ∈ first, ∀ e' ∈ second, ∀ r ∈ L.mentioned e, r ∉ L.mentioned e'

variable {L}

omit [DecidableEq ρ] in
/-- A call mentions what it obtains. -/
theorem mem_mentioned_of_obtained {e : α} {r : ρ} (h : L.obtained e = some r) :
    r ∈ L.mentioned e := by
  simp [mentioned, h]

omit [DecidableEq ρ] in
/-- A call mentions what it releases. -/
theorem mem_mentioned_of_released {e : α} {r : ρ} (h : L.released e = some r) :
    r ∈ L.mentioned e := by
  simp [mentioned, h]

omit [DecidableEq ρ] in
/-- A call mentions what it is given. -/
theorem mem_mentioned_of_used {e : α} {r : ρ} (h : r ∈ L.used e) : r ∈ L.mentioned e := by
  simp [mentioned, h]

omit [DecidableEq ρ] in
/-- A call mentions what is around the resource it obtains. -/
theorem mem_mentioned_of_nested {e : α} {outer inner : ρ} (h : L.nested e = some (outer, inner)) :
    outer ∈ L.mentioned e := by
  simp [mentioned, h]

/-- The empty log is disciplined. -/
theorem disciplined_nil : L.Disciplined [] := ⟨trivial, by simp⟩

/-- The releases in two logs add up. -/
theorem releaseCount_append (first second : List α) (r : ρ) :
    L.releaseCount (first ++ second) r = L.releaseCount first r + L.releaseCount second r :=
  List.countP_append

/-- A resource that no call of a log mentions is not released in it. -/
theorem releaseCount_eq_zero {log : List α} {r : ρ} (h : ∀ e ∈ log, r ∉ L.mentioned e) :
    L.releaseCount log r = 0 := by
  rw [releaseCount, List.countP_eq_zero]
  intro e he hrel
  exact h e he (mem_mentioned_of_released (by simpa using hrel))

omit [DecidableEq ρ] in
/-- A resource is live if a log goes on with the call that obtains it and nothing releases it. -/
theorem live_append {first second : List α} {r : ρ} {e : α} (he : e ∈ second)
    (hobtained : L.obtained e = some r) (hfirst : ∀ e ∈ first, L.released e ≠ some r)
    (hsecond : ∀ e ∈ second, L.released e ≠ some r) : L.Live (first ++ second) r := by
  refine ⟨⟨e, List.mem_append_right _ he, hobtained⟩, fun e' he' => ?_⟩
  rcases List.mem_append.mp he' with hold | hnew
  · exact hfirst e' hold
  · exact hsecond e' hnew

omit [DecidableEq ρ] in
/-- Calls on other resources do not change what a log may do. -/
theorem eachAfter_of_separate {first past second : List α} (hsep : L.Separate first second)
    (h : EachAfter L.Allowed past second) : EachAfter L.Allowed (first ++ past) second := by
  induction second generalizing past with
  | nil => trivial
  | cons e second ih =>
    obtain ⟨hallowed, hrest⟩ := h
    refine ⟨⟨?_, ?_⟩, ?_⟩
    · intro r hr e' he'
      rcases List.mem_append.mp he' with he' | he'
      · intro hrel
        exact hsep e' he' e (by simp) r (mem_mentioned_of_released hrel)
          (mem_mentioned_of_used hr)
      · exact hallowed.1 r hr e' he'
    · intro outer inner hrel e' he' hnest
      rcases List.mem_append.mp he' with he' | he'
      · exact absurd (mem_mentioned_of_released hrel)
          (hsep e' he' e (by simp) outer (mem_mentioned_of_nested hnest))
      · obtain ⟨e'', he'', hrel''⟩ := hallowed.2 outer inner hrel e' he' hnest
        exact ⟨e'', List.mem_append_right _ he'', hrel''⟩
    · rw [List.append_assoc]
      exact ih (fun e' he' e'' he'' => hsep e' he' e'' (by simp [he''])) hrest

/-- **Disciplined logs on separate resources compose.** -/
theorem Disciplined.append {first second : List α} (hfirst : L.Disciplined first)
    (hsecond : L.Disciplined second) (hsep : L.Separate first second) :
    L.Disciplined (first ++ second) := by
  constructor
  · rw [eachAfter_append]
    refine ⟨hfirst.allowed, ?_⟩
    have h := eachAfter_of_separate hsep hsecond.allowed
    simpa using h
  · intro e he r hr
    rw [releaseCount_append]
    rcases List.mem_append.mp he with he | he
    · rw [hfirst.released e he r hr, releaseCount_eq_zero]
      exact fun e' he' => hsep e he e' he' r (mem_mentioned_of_obtained hr)
    · rw [hsecond.released e he r hr, releaseCount_eq_zero]
      exact fun e' he' hr' => hsep e' he' e he r hr' (mem_mentioned_of_obtained hr)

/-- A call that was not allowed stays so, whatever follows. -/
theorem not_disciplined_of_not_allowed {past rest : List α} {e : α} (h : ¬ L.Allowed past e) :
    ¬ L.Disciplined (past ++ e :: rest) := by
  intro hdisciplined
  exact h ((eachAfter_append [] past (e :: rest)).mp hdisciplined.allowed).2.1

/-- A resource that is obtained and never released. -/
theorem not_disciplined_of_leak {log : List α} {e : α} {r : ρ} (he : e ∈ log)
    (hobtained : L.obtained e = some r) (h : ∀ e' ∈ log, L.released e' ≠ some r) :
    ¬ L.Disciplined log := by
  intro hdisciplined
  have hone := hdisciplined.released e he r hobtained
  have hzero : L.releaseCount log r = 0 := by
    rw [releaseCount, List.countP_eq_zero]
    intro e' he'
    simpa using h e' he'
  omega

end Ledger

end Slamkit.Library
