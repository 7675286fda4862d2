import Mathlib.Data.List.Basic

/-!
This module contains half-open spans of numbers that follow each other without a gap, none longer than a
bound: they are disjoint and cover what lies between their ends.
-/

namespace Span

/--
The spans begin at `start`, each next one where the one before it ends, and the last one ends at `stop`.
-/
inductive Consecutive (size : Nat) : Nat → Nat → List (Nat × Nat) → Prop where
  | nil {start : Nat} : Consecutive size start start []
  | cons {start mid stop : Nat} {spans : List (Nat × Nat)} :
      start < mid → mid ≤ start + size → Consecutive size mid stop spans →
      Consecutive size start stop ((start, mid) :: spans)

namespace Consecutive

variable {size start mid stop : Nat} {spans : List (Nat × Nat)}

theorem le (hSpans : Consecutive size start stop spans) : start ≤ stop := by
  induction hSpans with
  | nil => exact Nat.le_refl _
  | cons hLt _ _ ih => omega

theorem snoc (hSpans : Consecutive size start mid spans) (hLt : mid < stop) (hSize : stop ≤ mid + size)
    : Consecutive size start stop (spans ++ [(mid, stop)]) := by
  induction hSpans with
  | nil => exact .cons hLt hSize .nil
  | cons hFirst hFirstSize _ ih => exact .cons hFirst hFirstSize (ih hLt hSize)

theorem bounds (hSpans : Consecutive size start stop spans)
    : ∀ span ∈ spans, start ≤ span.1 ∧ span.1 < span.2 ∧ span.2 ≤ span.1 + size ∧ span.2 ≤ stop := by
  induction hSpans with
  | nil =>
    intro span hMem
    contradiction
  | cons hLt hSize hRest ih =>
    have hLe := hRest.le
    intro span hMem
    rcases List.mem_cons.mp hMem with hFirst | hMem
    . subst hFirst
      exact ⟨Nat.le_refl _, hLt, hSize, hLe⟩
    . have hBounds := ih span hMem
      omega

theorem disjoint (hSpans : Consecutive size start stop spans)
    : spans.Pairwise fun span next => span.2 ≤ next.1 := by
  induction hSpans with
  | nil => exact .nil
  | cons _ _ hRest ih =>
    apply List.Pairwise.cons
    . intro next hMem
      exact (hRest.bounds next hMem).1
    . exact ih

theorem covers (hSpans : Consecutive size start stop spans) (i : Nat)
    : (∃ span ∈ spans, span.1 ≤ i ∧ i < span.2) ↔ start ≤ i ∧ i < stop := by
  induction hSpans with
  | nil => simp
  | cons hLt _ hRest ih =>
    have hLe := hRest.le
    rw [List.exists_mem_cons_iff, ih]
    omega

end Consecutive

/-
The spans of a range that begins at 0 when every span is as long as possible: the first `n` ones.
-/
def split (size stop n : Nat) : List (Nat × Nat) :=
  (List.range n).map fun j => (min stop (j * size), min stop ((j + 1) * size))

theorem split_succ (size stop n : Nat)
    : split size stop (n + 1) = split size stop n ++ [(min stop (n * size), min stop ((n + 1) * size))] := by
  simp [split, List.range_succ]

theorem consecutive_split {size stop n : Nat} (hSize : 0 < size) (hReach : ∀ j < n, j * size < stop)
    : Consecutive size 0 (min stop (n * size)) (split size stop n) := by
  induction n with
  | zero =>
    rw [Nat.zero_mul, Nat.min_zero]
    exact .nil
  | succ n ih =>
    have hBefore : Consecutive size 0 (min stop (n * size)) (split size stop n) := by
      apply ih
      intro j hLt
      exact hReach j (by omega)
    have hLast := hReach n (by omega)
    have hNext : (n + 1) * size = n * size + size := Nat.succ_mul n size
    rw [split_succ]
    apply hBefore.snoc
    . omega
    . omega

end Span
