import Mathlib.Logic.Function.Basic

/-!
This module contains stores behind calls that may fail. A failed read says nothing, and after a failed write nobody
knows whether it has taken effect. What a key may hold is what the last confirmed write has stored, or one of
the unconfirmed writes since then.
-/

namespace Enody
namespace Store

variable {K V : Type} [DecidableEq K]

inductive Access (K V : Type) where
  | read (key : K)
  | write (key : K) (value : V)

inductive Outcome (V : Type) where
  | value (value : V)
  | written
  | failed

inductive Step (m : K → V) : Access K V → Outcome V → (K → V) → Prop where
  | read {key : K} : Step m (.read key) (.value (m key)) m
  | readFailed {key : K} : Step m (.read key) .failed m
  | written {key : K} {value : V} : Step m (.write key value) .written (Function.update m key value)
  | writeFailed {key : K} {value : V} : Step m (.write key value) .failed m
  | writeLost {key : K} {value : V} : Step m (.write key value) .failed (Function.update m key value)

inductive Run (m : K → V) : List (Access K V × Outcome V) → (K → V) → Prop where
  | nil : Run m [] m
  | snoc {accesses : List (Access K V × Outcome V)} {access : Access K V} {outcome : Outcome V}
      {m' m'' : K → V} :
      Run m accesses m' → Step m' access outcome m'' → Run m (accesses ++ [(access, outcome)]) m''

theorem Run.append {m m' m'' : K → V} {accesses more : List (Access K V × Outcome V)} (h : Run m accesses m')
    (hMore : Run m' more m'')
    : Run m (accesses ++ more) m'' := by
  induction hMore with
  | nil =>
    rw [List.append_nil]
    exact h
  | snoc _ hStep ih =>
    rw [← List.append_assoc]
    exact ih.snoc hStep

theorem Run.single {m m' : K → V} {access : Access K V} {outcome : Outcome V}
    (h : Step m access outcome m')
    : Run m [(access, outcome)] m' := Run.nil.snoc h

/-
What a key may hold after one more access.
-/
def candidatesStep (key : K) (candidates : List V) : Access K V × Outcome V → List V
  | (.write key' value, .written) => if key' = key then [value] else candidates
  | (.write key' value, .failed) => if key' = key then value :: candidates else candidates
  | _ => candidates

def candidates (key : K) (initial : V) (accesses : List (Access K V × Outcome V)) : List V :=
  accesses.foldl (candidatesStep key) [initial]

theorem Step.mem_candidates {m m' : K → V} {access : Access K V} {outcome : Outcome V} {key : K}
    {candidates : List V} (h : Step m access outcome m') (hBefore : m key ∈ candidates)
    : m' key ∈ candidatesStep key candidates (access, outcome) := by
  cases h with
  | read => exact hBefore
  | readFailed => exact hBefore
  | @written key' value =>
    unfold candidatesStep
    by_cases hKey : key' = key
    . simp [hKey]
    . simpa [hKey, Function.update_of_ne (Ne.symm hKey)] using hBefore
  | @writeFailed key' value =>
    unfold candidatesStep
    by_cases hKey : key' = key
    . simp [hKey, hBefore]
    . simpa [hKey] using hBefore
  | @writeLost key' value =>
    unfold candidatesStep
    by_cases hKey : key' = key
    . simp [hKey]
    . simpa [hKey, Function.update_of_ne (Ne.symm hKey)] using hBefore

theorem Run.mem_candidates {m m' : K → V} {accesses : List (Access K V × Outcome V)} (h : Run m accesses m')
    (key : K)
    : m' key ∈ candidates key (m key) accesses := by
  induction h with
  | nil => exact List.mem_singleton_self _
  | snoc _ hStep ih =>
    unfold candidates at ih ⊢
    rw [List.foldl_append]
    exact hStep.mem_candidates ih

/--
After a confirmed write there is one candidate, until the key is written again.
-/
theorem candidates_of_written {key : K} {initial value : V} {before after : List (Access K V × Outcome V)}
    (hAfter : ∀ access ∈ after, ∀ other, access.1 ≠ .write key other)
    : candidates key initial (before ++ (.write key value, .written) :: after) = [value] := by
  unfold candidates
  rw [List.foldl_append, List.foldl_cons]
  have hWritten : ∀ cs, candidatesStep key cs (.write key value, .written) = [value] := by
    intro cs
    simp [candidatesStep]
  rw [hWritten]
  induction after with
  | nil => rfl
  | cons access after ih =>
    have hKeeps : candidatesStep key [value] access = [value] := by
      rcases access with ⟨_ | ⟨key', other⟩, outcome⟩
      . rfl
      . have hOther : key' ≠ key := by
          intro hKey
          exact hAfter _ List.mem_cons_self other (by rw [hKey])
        cases outcome <;> simp [candidatesStep, hOther]
    rw [List.foldl_cons, hKeeps]
    exact ih fun access hAccess => hAfter access (List.mem_cons_of_mem _ hAccess)

end Store
end Enody
