import Mathlib.Data.List.Induction

/-!
This module contains labelled transition systems given by an executable step function. All choices of
the environment and of the scheduler are part of the label, `none` says that the step is not enabled.
A run carries a condition that each of its steps meets in the state before the step.
-/

namespace Transition

variable {σ ℓ : Type}

inductive Run (step : σ → ℓ → Option σ) (ok : σ → ℓ → Prop) (init : σ) : List ℓ → σ → Prop where
  | nil : Run step ok init [] init
  | snoc {labels : List ℓ} {s t : σ} {l : ℓ} :
      Run step ok init labels s → ok s l → step s l = some t → Run step ok init (labels ++ [l]) t

/-
No condition on the steps.
-/
def anyStep (_ : σ) (_ : ℓ) : Prop := True

namespace Run

variable {step : σ → ℓ → Option σ} {ok ok' : σ → ℓ → Prop} {init s t u : σ} {labels more : List ℓ}

theorem invariant_of_labels {motive : List ℓ → σ → Prop}
    (hInit : motive [] init)
    (hStep : ∀ labels s l t, motive labels s → ok s l → step s l = some t → motive (labels ++ [l]) t)
    (hRun : Run step ok init labels s)
    : motive labels s := by
  induction hRun with
  | nil => exact hInit
  | snoc _ hok hs ih =>
    apply hStep
    . exact ih
    . exact hok
    . exact hs

theorem invariant {motive : σ → Prop}
    (hInit : motive init)
    (hStep : ∀ s l t, motive s → ok s l → step s l = some t → motive t)
    (hRun : Run step ok init labels s)
    : motive s := by
  apply invariant_of_labels (motive := fun _ s => motive s) hInit _ hRun
  intro _ s l t
  apply hStep

theorem mono (hok : ∀ s l, ok s l → ok' s l) (hRun : Run step ok init labels s)
    : Run step ok' init labels s := by
  induction hRun with
  | nil => exact .nil
  | snoc _ hstep hs ih =>
    apply snoc ih
    . apply hok
      exact hstep
    . exact hs

theorem append (hRun : Run step ok init labels s) (hMore : Run step ok s more t)
    : Run step ok init (labels ++ more) t := by
  induction hMore with
  | nil => simpa using hRun
  | snoc _ hok hs ih =>
    rw [← List.append_assoc]
    apply snoc ih
    . exact hok
    . exact hs

theorem single {l : ℓ} (hok : ok s l) (hs : step s l = some t) : Run step ok s [l] t := by
  have hNil : Run step ok s [] s := .nil
  have h := hNil.snoc hok hs
  simpa using h

theorem eq_of_nil (hRun : Run step ok init labels s) (hNil : labels = []) : s = init := by
  cases hRun with
  | nil => rfl
  | snoc => simp at hNil

theorem exists_of_snoc {l : ℓ} (hRun : Run step ok init more t) (hSnoc : more = labels ++ [l])
    : ∃ s, Run step ok init labels s ∧ ok s l ∧ step s l = some t := by
  cases hRun with
  | nil => simp at hSnoc
  | snoc hBefore hok hs =>
    rw [List.append_eq_append_iff_of_size_eq_right (by simp)] at hSnoc
    rcases hSnoc with ⟨hLabels, hLabel⟩
    injection hLabel with hLabel
    subst hLabels hLabel
    exact ⟨_, hBefore, hok, hs⟩

theorem split (hRun : Run step ok init (labels ++ more) t)
    : ∃ s, Run step ok init labels s ∧ Run step ok s more t := by
  induction more using List.reverseRecOn generalizing t with
  | nil =>
    rw [List.append_nil] at hRun
    exact ⟨t, hRun, .nil⟩
  | append_singleton more l ih =>
    rcases hRun.exists_of_snoc (List.append_assoc labels more [l]).symm with ⟨u, hBefore, hok, hs⟩
    rcases ih hBefore with ⟨s, hFirst, hSecond⟩
    exact ⟨s, hFirst, hSecond.snoc hok hs⟩

theorem uncons {l : ℓ} (hRun : Run step ok init (l :: labels) t)
    : ∃ s, ok init l ∧ step init l = some s ∧ Run step ok s labels t := by
  have hRun : Run step ok init ([l] ++ labels) t := hRun
  rcases hRun.split with ⟨s, hFirst, hRest⟩
  rcases hFirst.exists_of_snoc (List.nil_append _).symm with ⟨u, hNil, hok, hs⟩
  have hEq := hNil.eq_of_nil rfl
  subst hEq
  exact ⟨s, hok, hs, hRest⟩

theorem unique (hRun : Run step ok init labels s) (hOther : Run step ok' init labels t) : t = s := by
  induction hRun generalizing t with
  | nil => exact hOther.eq_of_nil rfl
  | snoc _ _ hs ih =>
    rcases hOther.exists_of_snoc rfl with ⟨u, hBefore, _, ht⟩
    have hEq := ih hBefore
    rw [hEq, hs] at ht
    injection ht with ht
    exact ht.symm

end Run

/-
The state after the labels, `none` when one of them is not enabled or does not meet the condition.
-/
def execIf (step : σ → ℓ → Option σ) (ok : σ → ℓ → Bool) (s : σ) : List ℓ → Option σ
  | [] => some s
  | l :: labels =>
    if ok s l then
      (step s l).bind fun t => execIf step ok t labels
    else
      none

def exec (step : σ → ℓ → Option σ) (s : σ) (labels : List ℓ) : Option σ :=
  execIf step (fun _ _ => true) s labels

theorem Run.of_execIf {step : σ → ℓ → Option σ} {ok : σ → ℓ → Prop} {okDec : σ → ℓ → Bool}
    {s t : σ} {labels : List ℓ}
    (hok : ∀ s l, okDec s l = true → ok s l)
    (h : execIf step okDec s labels = some t)
    : Run step ok s labels t := by
  induction labels generalizing s with
  | nil =>
    injection h with h
    subst h
    exact .nil
  | cons l labels ih =>
    unfold execIf at h
    split at h
    . next hl =>
      rw [Option.bind_eq_some_iff] at h
      rcases h with ⟨r, hr, hRest⟩
      have hFirst : Run step ok s [l] r := Run.single (hok _ _ hl) hr
      have hAll := hFirst.append (ih hRest)
      simpa using hAll
    . contradiction

theorem Run.of_exec {step : σ → ℓ → Option σ} {s t : σ} {labels : List ℓ}
    (h : exec step s labels = some t)
    : Run step anyStep s labels t := by
  apply Run.of_execIf _ h
  intros
  exact trivial

theorem Run.exists_of_execIf {α : Type} {step : σ → ℓ → Option σ} {okDec : σ → ℓ → Bool}
    {s : σ} {labels : List ℓ} {f : σ → α} {a : α}
    (h : (execIf step okDec s labels).map f = some a)
    : ∃ t, Run step (fun s l => okDec s l = true) s labels t ∧ f t = a := by
  rw [Option.map_eq_some_iff] at h
  rcases h with ⟨t, hExec, hValue⟩
  exists t
  constructor
  . apply Run.of_execIf _ hExec
    intro s l hok
    exact hok
  . exact hValue

theorem Run.exists_of_exec {α : Type} {step : σ → ℓ → Option σ} {s : σ} {labels : List ℓ}
    {f : σ → α} {a : α}
    (h : (exec step s labels).map f = some a)
    : ∃ t, Run step anyStep s labels t ∧ f t = a := by
  rcases Run.exists_of_execIf h with ⟨t, hRun, hValue⟩
  exists t
  constructor
  . apply hRun.mono
    intros
    exact trivial
  . exact hValue

end Transition
