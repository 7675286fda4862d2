import Mathlib.Data.List.Basic

/-!
This module contains services that are started and stopped by their owner, and what it means that they
can be: every start and every stop of a sequence succeeds and leads to the state it promises, and
repeating one changes nothing. It also contains services that can be started once only.
-/

namespace Service

variable {σ ε : Type}

inductive Call where
  | start
  | stop
  deriving DecidableEq

theorem sublist_of_other {first other : Call} (hOther : first ≠ other) (rest calls : List Call)
    : (first :: rest).Sublist (other :: calls) ↔ (first :: rest).Sublist calls := by
  constructor
  . exact List.Sublist.of_cons_of_ne hOther
  . exact List.Sublist.cons other

structure Operations (σ ε : Type) where
  start : σ → σ × Except ε Unit
  stop : σ → σ × Except ε Unit

namespace Operations

variable (operations : Operations σ ε) (Running Stopped : σ → Prop)

def perform (s : σ) : Call → σ × Except ε Unit
  | .start => operations.start s
  | .stop => operations.stop s

structure Keeps (s : σ) (call : Call) : Prop where
  succeeds : (operations.perform s call).2 = .ok ()
  running : call = .start → Running (operations.perform s call).1
  stopped : call = .stop → Stopped (operations.perform s call).1
  again : call = .start → Running s → (operations.perform s call).1 = s
  stillStopped : call = .stop → Stopped s → (operations.perform s call).1 = s

def KeepsAll (s : σ) : List Call → Prop
  | [] => True
  | call :: calls =>
    operations.Keeps Running Stopped s call ∧ KeepsAll (operations.perform s call).1 calls

variable {operations Running Stopped}

theorem keepsAll_of_keeps (hKeeps : ∀ s call, operations.Keeps Running Stopped s call) (s : σ)
    (calls : List Call)
    : operations.KeepsAll Running Stopped s calls := by
  induction calls generalizing s with
  | nil => trivial
  | cons call calls ih =>
    constructor
    . apply hKeeps
    . apply ih

/--
A service that is used up by its first stop: `Fresh` before the first start, `Active` until the stop, and
`Spent` from then on, where a start fails.
-/
structure OneShot (operations : Operations σ ε) (Running Stopped Fresh Active Spent : σ → Prop)
    : Prop where
  freshStart : ∀ s, Fresh s →
    operations.Keeps Running Stopped s .start ∧ Active (operations.perform s .start).1
  freshStop : ∀ s, Fresh s →
    operations.Keeps Running Stopped s .stop ∧ Fresh (operations.perform s .stop).1
  activeStart : ∀ s, Active s →
    operations.Keeps Running Stopped s .start ∧ Active (operations.perform s .start).1
  activeStop : ∀ s, Active s →
    operations.Keeps Running Stopped s .stop ∧ Spent (operations.perform s .stop).1
  spentStart : ∀ s, Spent s → (operations.perform s .start).2 ≠ .ok ()
  spentStop : ∀ s, Spent s →
    operations.Keeps Running Stopped s .stop ∧ Spent (operations.perform s .stop).1

namespace OneShot

variable {Fresh Active Spent : σ → Prop} {s : σ}
  (hOneShot : OneShot operations Running Stopped Fresh Active Spent)

include hOneShot

theorem keepsAll_spent (hSpent : Spent s) (calls : List Call)
    : operations.KeepsAll Running Stopped s calls ↔ ¬ [Call.start].Sublist calls := by
  induction calls generalizing s with
  | nil => simp [KeepsAll]
  | cons call calls ih =>
    cases call with
    | start =>
      constructor
      . intro hAll
        exact absurd hAll.left.succeeds (hOneShot.spentStart s hSpent)
      . intro hNot
        simp at hNot
    | stop =>
      rcases hOneShot.spentStop s hSpent with ⟨hKeeps, hNext⟩
      simp only [KeepsAll, hKeeps, true_and]
      rw [ih hNext]
      simp

theorem keepsAll_active (hActive : Active s) (calls : List Call)
    : operations.KeepsAll Running Stopped s calls ↔ ¬ [Call.stop, .start].Sublist calls := by
  induction calls generalizing s with
  | nil => simp [KeepsAll]
  | cons call calls ih =>
    cases call with
    | start =>
      rcases hOneShot.activeStart s hActive with ⟨hKeeps, hNext⟩
      simp only [KeepsAll, hKeeps, true_and]
      rw [ih hNext, sublist_of_other Call.noConfusion]
    | stop =>
      rcases hOneShot.activeStop s hActive with ⟨hKeeps, hNext⟩
      simp only [KeepsAll, hKeeps, true_and]
      rw [hOneShot.keepsAll_spent hNext, List.cons_sublist_cons]

theorem keepsAll_iff (hFresh : Fresh s) (calls : List Call)
    : operations.KeepsAll Running Stopped s calls ↔ ¬ [Call.start, .stop, .start].Sublist calls := by
  induction calls generalizing s with
  | nil => simp [KeepsAll]
  | cons call calls ih =>
    cases call with
    | start =>
      rcases hOneShot.freshStart s hFresh with ⟨hKeeps, hNext⟩
      simp only [KeepsAll, hKeeps, true_and]
      rw [hOneShot.keepsAll_active hNext, List.cons_sublist_cons]
    | stop =>
      rcases hOneShot.freshStop s hFresh with ⟨hKeeps, hNext⟩
      simp only [KeepsAll, hKeeps, true_and]
      rw [ih hNext, sublist_of_other Call.noConfusion]

end OneShot

end Operations

end Service
