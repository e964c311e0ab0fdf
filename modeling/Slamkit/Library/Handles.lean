import Mathlib.Data.List.Induction
import Mathlib.Data.List.Nodup
import Slamkit.Library.History

/-!
# Handles whose names are reused

A log of calls obtains handles and releases them. The name of a released handle may be given
out again, so that the handles of a name are counted: a call may release a handle if more of
its name have been obtained than released.
-/

namespace Slamkit.Library

/-- What the calls of an interface do with handles. -/
structure Handles (α κ : Type) where
  /-- The handles a call obtains. -/
  obtained : α → List κ
  /-- The handle a call releases. -/
  released : α → Option κ

namespace Handles

variable {α κ : Type} [DecidableEq κ] (H : Handles α κ)

/-- How often a handle of this name was obtained. -/
def obtainedCount (log : List α) (k : κ) : ℕ := (log.flatMap H.obtained).count k

/-- How often a handle of this name was released. -/
def releasedCount (log : List α) (k : κ) : ℕ := (log.filterMap H.released).count k

/-- After the calls `past`, a call releases nothing that is not owned. -/
def Allowed (past : List α) (e : α) : Prop :=
  ∀ k, H.released e = some k → H.releasedCount past k < H.obtainedCount past k

/-- More handles of this name have been obtained than released. -/
def Live (log : List α) (k : κ) : Prop := H.releasedCount log k < H.obtainedCount log k

/-- After the calls `past`, a call obtains only handles with names that are not in use. -/
def Fresh (past : List α) (e : α) : Prop :=
  (∀ k ∈ H.obtained e, ¬ H.Live past k) ∧ (H.obtained e).Nodup

/-- The calls of a log release what is owned, and `held` is owned after them. -/
structure Custody (log : List α) (held : List κ) : Prop where
  allowed : EachAfter H.Allowed [] log
  balance : ∀ k, H.obtainedCount log k = H.releasedCount log k + held.count k

variable {H}

/-- Obtained handles add up. -/
theorem obtainedCount_concat (log : List α) (e : α) (k : κ) :
    H.obtainedCount (log ++ [e]) k = H.obtainedCount log k + (H.obtained e).count k := by
  unfold obtainedCount
  rw [List.flatMap_append, List.count_append, List.flatMap_singleton]

/-- Released handles add up. -/
theorem releasedCount_concat (log : List α) (e : α) (k : κ) :
    H.releasedCount (log ++ [e]) k =
      H.releasedCount log k + (H.released e).toList.count k := by
  unfold releasedCount
  rw [List.filterMap_append, List.count_append]
  cases h : H.released e <;> simp [h]

/-- At first nothing is owned. -/
theorem custody_nil : H.Custody [] [] := ⟨trivial, fun _ => rfl⟩

/-- A log goes on with a call that is allowed. -/
theorem Custody.allowed_concat {log : List α} {held : List κ} (h : H.Custody log held) {e : α}
    (he : H.Allowed log e) : EachAfter H.Allowed [] (log ++ [e]) :=
  (eachAfter_append [] log [e]).mpr ⟨h.allowed, he, trivial⟩

/-- What a call obtains is owned afterwards. -/
theorem Custody.obtains {log : List α} {held : List κ} (h : H.Custody log held) {e : α}
    (he : H.released e = none) : H.Custody (log ++ [e]) (held ++ H.obtained e) := by
  constructor
  · apply h.allowed_concat
    intro k hk
    rw [he] at hk
    cases hk
  · intro k
    have hbalance := h.balance k
    rw [obtainedCount_concat, releasedCount_concat, he, List.count_append]
    simp only [Option.toList_none, List.count_nil]
    omega

/-- What is owned may be released. -/
theorem Custody.releases {log : List α} {held : List κ} {k : κ} (h : H.Custody log (k :: held))
    {e : α} (he : H.released e = some k) (hnone : H.obtained e = []) :
    H.Custody (log ++ [e]) held := by
  constructor
  · apply h.allowed_concat
    intro k' hk'
    obtain rfl : k = k' := Option.some.inj (he.symm.trans hk')
    have hbalance := h.balance k
    rw [List.count_cons_self] at hbalance
    omega
  · intro k'
    have hbalance := h.balance k'
    rw [List.count_cons] at hbalance
    rw [obtainedCount_concat, releasedCount_concat, he, hnone]
    simp only [Option.toList_some, List.count_cons, List.count_nil]
    omega

/-- What is live is just what is owned. -/
theorem Custody.live_iff {log : List α} {held : List κ} (h : H.Custody log held) (k : κ) :
    H.Live log k ↔ k ∈ held := by
  have hbalance := h.balance k
  unfold Live
  rw [← List.count_pos_iff]
  omega

/-- What is owned is live. -/
theorem Custody.live {log : List α} {held : List κ} (h : H.Custody log held) {k : κ}
    (hk : k ∈ held) : H.Live log k := (h.live_iff k).mpr hk

/-- If all names are fresh when they are given out, then at most one handle of a name is in
use. -/
theorem obtainedCount_le_of_fresh {log : List α} (hfresh : EachAfter H.Fresh [] log) (k : κ) :
    H.obtainedCount log k ≤ H.releasedCount log k + 1 := by
  induction log using List.reverseRecOn with
  | nil => exact Nat.zero_le _
  | append_singleton log e ih =>
    obtain ⟨hlog, ⟨hunused, hnodup⟩, -⟩ := (eachAfter_append [] log [e]).mp hfresh
    have hbefore := ih hlog
    rw [obtainedCount_concat, releasedCount_concat]
    by_cases hk : k ∈ H.obtained e
    · have hnotLive : ¬ H.releasedCount log k < H.obtainedCount log k := hunused k hk
      have hone := List.nodup_iff_count_le_one.mp hnodup k
      omega
    · rw [List.count_eq_zero.mpr hk]
      omega

/-- So the handles that are owned have different names. -/
theorem Custody.nodup {log : List α} {held : List κ} (h : H.Custody log held)
    (hfresh : EachAfter H.Fresh [] log) : held.Nodup := by
  rw [List.nodup_iff_count_le_one]
  intro k
  have hbalance := h.balance k
  have hbound := obtainedCount_le_of_fresh hfresh k
  omega

/-- If nothing is owned any more, everything that was obtained has been released. -/
theorem Custody.settled {log : List α} (h : H.Custody log []) (k : κ) :
    H.releasedCount log k = H.obtainedCount log k := by
  have hbalance := h.balance k
  rw [List.count_nil] at hbalance
  omega

/-- A log that starts with a release releases what is not owned. -/
theorem not_eachAfter_of_released {e : α} {k : κ} (he : H.released e = some k) (rest : List α) :
    ¬ EachAfter H.Allowed [] (e :: rest) := by
  rintro ⟨hallowed, -⟩
  exact Nat.not_lt_zero _ (hallowed k he)

end Handles

end Slamkit.Library
