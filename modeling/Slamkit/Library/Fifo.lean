import Mathlib.Data.List.Basic

/-!
# Queues that grow by arrivals

A first-in first-out queue together with everything that has ever arrived. Whatever is
taken from its front is, in order, a beginning of what has arrived.
-/

namespace Slamkit.Library

/-- A queue, and all elements that have ever arrived, oldest first. -/
structure Fifo (α : Type) where
  queue : List α
  arrived : List α
  deriving DecidableEq

namespace Fifo

variable {α : Type}

/-- Elements arrive at the end of the queue. -/
def arrive (q : Fifo α) (elements : List α) : Fifo α :=
  ⟨q.queue ++ elements, q.arrived ++ elements⟩

/-- Take `n` elements from the front of the queue, or as many as there are. -/
def take (q : Fifo α) (n : ℕ) : List α × Fifo α :=
  (q.queue.take n, { q with queue := q.queue.drop n })

/-- The elements taken so far and those in the queue are, in this order, what has arrived. -/
def Carries (q : Fifo α) (taken : List α) : Prop := taken ++ q.queue = q.arrived

@[simp] theorem arrive_queue (q : Fifo α) (elements : List α) :
    (q.arrive elements).queue = q.queue ++ elements := rfl

/-- Nothing arrives. -/
theorem arrive_nil (q : Fifo α) : q.arrive [] = q := by
  simp only [arrive, List.append_nil]

/-- Elements that arrive one behind the other arrive together. -/
theorem arrive_arrive (q : Fifo α) (first second : List α) :
    (q.arrive first).arrive second = q.arrive (first ++ second) := by
  simp only [arrive, List.append_assoc]

/-- Arrivals do not disturb what was taken. -/
theorem Carries.arrive {q : Fifo α} {taken : List α} (h : q.Carries taken) (elements : List α) :
    (q.arrive elements).Carries taken := by
  rw [Carries] at h
  rw [Carries, Fifo.arrive, ← h, List.append_assoc]

/-- What is taken next continues what was taken before. -/
theorem Carries.take {q : Fifo α} {taken : List α} (h : q.Carries taken) (n : ℕ) :
    (q.take n).2.Carries (taken ++ (q.take n).1) := by
  rw [Carries] at h
  rw [Carries, Fifo.take, List.append_assoc, List.take_append_drop, h]

/-- What was taken is a beginning of what has arrived. -/
theorem Carries.isPrefix {q : Fifo α} {taken : List α} (h : q.Carries taken) :
    taken <+: q.arrived := ⟨q.queue, h⟩

/-- A queue that is long enough gives what is asked for. -/
theorem take_length {q : Fifo α} {n : ℕ} (h : n ≤ q.queue.length) : (q.take n).1.length = n :=
  List.length_take_of_le h

end Fifo

end Slamkit.Library
