import Mathlib.Data.List.Perm.Basic

/-!
This module contains lists that have been merged into one, as the senders of a queue merge what they send. Each
element carries the name of the list that it comes from.
-/

namespace Merge

variable {κ α : Type} [DecidableEq κ] {merged other : List (κ × α)} {source k : κ} {a : α}

def part (merged : List (κ × α)) (k : κ) : List α :=
  merged.filterMap fun (source, a) => if source = k then some a else none

@[simp]
theorem part_nil (k : κ) : part ([] : List (κ × α)) k = [] := rfl

theorem part_append (merged other : List (κ × α)) (k : κ)
    : part (merged ++ other) k = part merged k ++ part other k :=
  List.filterMap_append

theorem part_singleton (source k : κ) (a : α)
    : part [(source, a)] k = if source = k then [a] else [] := by
  unfold part
  split <;> simp_all

theorem part_concat_self (merged : List (κ × α)) (k : κ) (a : α)
    : part (merged ++ [(k, a)]) k = part merged k ++ [a] := by
  rw [part_append, part_singleton, if_pos rfl]

theorem part_concat_of_ne (h : source ≠ k) : part (merged ++ [(source, a)]) k = part merged k := by
  rw [part_append, part_singleton, if_neg h, List.append_nil]

theorem count_part [DecidableEq α] (merged : List (κ × α)) (k : κ) (a : α)
    : (part merged k).count a = merged.count (k, a) := by
  unfold part
  induction merged with
  | nil => rfl
  | cons entry merged ih =>
    rcases entry with ⟨source, b⟩
    rw [List.filterMap_cons, List.count_cons]
    by_cases hSource : source = k
    . simp only [hSource, if_true, List.count_cons, ih]
      congr 1
      by_cases hEq : b = a
      . simp [hEq]
      . have hNe : ((k, b) == (k, a)) = false := by simp [hEq]
        rw [hNe, beq_eq_false_iff_ne.mpr hEq]
    . have hNe : ((source, b) == (k, a)) = false := by simp [hSource]
      simp only [hSource, if_false, ih, hNe]
      simp

theorem perm_of_part [DecidableEq α] (h : ∀ k, part merged k = part other k) : merged.Perm other := by
  rw [List.perm_iff_count]
  rintro ⟨k, a⟩
  rw [← count_part, ← count_part, h k]

end Merge
