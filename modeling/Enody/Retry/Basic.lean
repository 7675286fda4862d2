import Mathlib.Order.Basic

/-!
This module contains loops that go on until a round yields a result. A loop may go on forever: it is run for a
number of rounds, and it returns when some number is enough.
-/

namespace Enody
namespace Retry

abbrev Round (S R : Type) := S → Option R × S

variable {S R A B : Type}

def run (round : Round S R) : Nat → S → Option (R × S)
  | 0, _ => none
  | fuel + 1, s =>
    match round s with
    | (some result, s) => some (result, s)
    | (none, s) => run round fuel s

def after (round : Round S R) (s : S) : Nat → S
  | 0 => s
  | n + 1 => (round (after round s n)).2

def Stable (program : Nat → Option A) : Prop :=
  ∀ fuel more a, fuel ≤ more → program fuel = some a → program more = some a

def Settles (program : Nat → Option A) (a : A) : Prop := ∃ fuel, program fuel = some a

section Program

variable {program : Nat → Option A}

theorem settles_bind_iff {next : A → Nat → Option B} (hStable : Stable program) (hNext : ∀ a, Stable (next a))
    {b : B}
    : Settles (fun fuel => (program fuel).bind fun a => next a fuel) b
        ↔
      ∃ a, Settles program a ∧ Settles (next a) b := by
  constructor
  . rintro ⟨fuel, hBoth⟩
    rcases Option.bind_eq_some_iff.mp hBoth with ⟨a, hFirst, hSecond⟩
    exact ⟨a, ⟨fuel, hFirst⟩, fuel, hSecond⟩
  . rintro ⟨a, ⟨fuel, hFirst⟩, fuel', hSecond⟩
    exists max fuel fuel'
    rw [Option.bind_eq_some_iff]
    exact ⟨a, hStable _ _ a (Nat.le_max_left _ _) hFirst, hNext a _ _ b (Nat.le_max_right _ _) hSecond⟩

theorem settles_const_iff {a b : A} : Settles (fun _ => some a) b ↔ a = b := by
  simp [Settles]

theorem stable_const (a : A) : Stable fun _ => some a := by
  intro _ _ _ _ hSome
  exact hSome

end Program

section Loop

variable {round : Round S R} {s t : S} {result : R}

theorem run_of_result (hRound : round s = (some result, t)) (fuel : Nat)
    : run round (fuel + 1) s = some (result, t) := by
  simp [run, hRound]

theorem run_of_retry (hRound : (round s).1 = none) (fuel : Nat)
    : run round (fuel + 1) s = run round fuel (round s).2 := by
  have hPair : round s = (none, (round s).2) := Prod.ext hRound rfl
  rw [run, hPair]

theorem after_succ (s : S) (n : Nat) : after round s (n + 1) = after round (round s).2 n := by
  induction n with
  | zero => rfl
  | succ n ih =>
    rw [after, ih]
    rfl

theorem stable_run (round : Round S R) (s : S) : Stable fun fuel => run round fuel s := by
  intro fuel more outcome hLe hRun
  induction fuel generalizing s more with
  | zero => contradiction
  | succ fuel ih =>
    cases more with
    | zero => contradiction
    | succ more =>
      cases hRound : (round s).1 with
      | none =>
        simp only [run_of_retry hRound] at hRun ⊢
        exact ih _ _ (Nat.le_of_succ_le_succ hLe) hRun
      | some result =>
        have hPair : round s = (some result, (round s).2) := Prod.ext hRound rfl
        simp only [run_of_result hPair] at hRun ⊢
        exact hRun

theorem settles_run_iff
    : Settles (fun fuel => run round fuel s) (result, t)
        ↔
      ∃ n, (∀ m < n, (round (after round s m)).1 = none) ∧ round (after round s n) = (some result, t) := by
  constructor
  . rintro ⟨fuel, hRun⟩
    induction fuel generalizing s with
    | zero => contradiction
    | succ fuel ih =>
      cases hRound : (round s).1 with
      | none =>
        simp only [run_of_retry hRound] at hRun
        rcases ih hRun with ⟨n, hBefore, hResult⟩
        refine ⟨n + 1, ?_, ?_⟩
        . intro m hLt
          cases m with
          | zero => exact hRound
          | succ m =>
            rw [after_succ]
            exact hBefore m (Nat.lt_of_succ_lt_succ hLt)
        . rw [after_succ]
          exact hResult
      | some other =>
        have hPair : round s = (some other, (round s).2) := Prod.ext hRound rfl
        simp only [run_of_result hPair, Option.some.injEq] at hRun
        refine ⟨0, by simp, ?_⟩
        rw [after, hPair]
        simpa using hRun
  . rintro ⟨n, hBefore, hResult⟩
    exists n + 1
    induction n generalizing s with
    | zero => exact run_of_result hResult 0
    | succ n ih =>
      have hFirst : (round s).1 = none := hBefore 0 (Nat.succ_pos n)
      simp only [run_of_retry hFirst]
      apply ih
      . intro m hLt
        rw [← after_succ]
        exact hBefore (m + 1) (Nat.succ_lt_succ hLt)
      . rw [← after_succ]
        exact hResult

end Loop

end Retry
end Enody
