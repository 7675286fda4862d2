/-!
This module contains bounded first-in first-out channels, as bounded `mpsc` queues are.
-/

structure Channel (α : Type) (capacity : Nat) where
  queue : List α
  fits : queue.length ≤ capacity

namespace Channel

variable {α : Type} {capacity : Nat}

def empty : Channel α capacity := ⟨[], Nat.zero_le _⟩

def isFull (c : Channel α capacity) : Bool :=
  c.queue.length == capacity

def trySend (c : Channel α capacity) (a : α) : Option (Channel α capacity) :=
  if h : c.queue.length < capacity then
    some ⟨c.queue ++ [a], by rw [List.length_append]; exact h⟩
  else
    none

def recv (c : Channel α capacity) : Option (α × Channel α capacity) :=
  match h : c.queue with
  | [] => none
  | a :: rest => some (a, ⟨rest, by have := c.fits; rw [h] at this; exact Nat.le_of_succ_le this⟩)

@[simp]
theorem queue_empty : (empty : Channel α capacity).queue = [] := rfl

theorem queue_of_trySend_eq_some {c c' : Channel α capacity} {a : α} (h : c.trySend a = some c')
    : c'.queue = c.queue ++ [a] := by
  unfold trySend at h
  split at h
  . injection h with h
    rw [← h]
  . contradiction

theorem trySend_eq_none_iff (c : Channel α capacity) (a : α)
    : c.trySend a = none ↔ c.queue.length = capacity := by
  have := c.fits
  unfold trySend
  split
  . simp
    omega
  . simp
    omega

theorem queue_of_recv_eq_some {c c' : Channel α capacity} {a : α} (h : c.recv = some (a, c'))
    : c.queue = a :: c'.queue := by
  unfold recv at h
  split at h
  . contradiction
  . next hq =>
    injection h with h
    injection h with ha hc
    rw [hq, ← ha, ← hc]

theorem recv_eq_some_of_queue_eq_cons {c : Channel α capacity} {a : α} {rest : List α}
    (h : c.queue = a :: rest)
    : ∃ c', c.recv = some (a, c') ∧ c'.queue = rest := by
  cases hRecv : c.recv with
  | none =>
    unfold recv at hRecv
    split at hRecv
    . next hNil =>
      rw [hNil] at h
      contradiction
    . contradiction
  | some received =>
    have hQueue := queue_of_recv_eq_some hRecv
    rw [h] at hQueue
    injection hQueue with hFirst hRest
    rw [hFirst]
    exact ⟨received.2, rfl, hRest.symm⟩

end Channel
