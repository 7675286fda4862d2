/-!
This module contains facts on computations that may fail: when a sequence of two succeeds, and with which error it
fails.
-/

namespace Enody
namespace Result

variable {ε α β : Type}

theorem bind_eq_ok_iff {result : Except ε α} {next : α → Except ε β} {b : β}
    : (result >>= next) = .ok b ↔ ∃ a, result = .ok a ∧ next a = .ok b := by
  cases result <;> simp [bind, Except.bind]

theorem bind_eq_error_iff {result : Except ε α} {next : α → Except ε β} {error : ε}
    : (result >>= next) = .error error
        ↔
      result = .error error ∨ ∃ a, result = .ok a ∧ next a = .error error := by
  cases result <;> simp [bind, Except.bind]

theorem pure_ne_error {a : α} {error : ε} : (pure a : Except ε α) ≠ .error error := by
  simp [pure, Except.pure]

end Result
end Enody
