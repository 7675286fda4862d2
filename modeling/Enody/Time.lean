import Enody.Message
import Mathlib.Algebra.Group.Int.Defs
import Mathlib.Algebra.Group.Nat.Defs

/-!
This module contains the arithmetic of `Duration` and of `Instant` that deadlines are computed with. A duration
has unsigned, an instant signed 64-bit seconds.
-/

namespace Enody

def nanosPerSec : Nat := 1000000000

namespace Message
namespace Duration

def total (duration : Duration) : Nat := duration.secs.toNat * nanosPerSec + duration.nanos.toNat

def fromSecs (secs : UInt64) : Duration := ⟨secs, 0, by decide⟩

/-
`Duration::MAX`
-/
def max : Duration := ⟨18446744073709551615, 999999999, by decide⟩

def ofTotal (total : Nat) : Duration where
  secs := UInt64.ofNat (total / nanosPerSec)
  nanos := UInt32.ofNat (total % nanosPerSec)
  nanos_lt := by
    have hLt : total % nanosPerSec < nanosPerSec := Nat.mod_lt _ (by decide)
    have hFits : total % nanosPerSec < UInt32.size := Nat.lt_trans hLt (by decide)
    rw [UInt32.toNat_ofNat_of_lt' hFits]
    exact hLt

def checkedAdd (a b : Duration) : Option Duration :=
  if (a.total + b.total) / nanosPerSec < 2 ^ 64 then some (ofTotal (a.total + b.total)) else none

def saturatingAdd (a b : Duration) : Duration := (a.checkedAdd b).getD max

end Duration
end Message

/--
A `std::time::Instant`.
-/
structure Instant where
  secs : Int
  nanos : Nat
  lower : -2 ^ 63 ≤ secs
  upper : secs < 2 ^ 63
  nanos_lt : nanos < nanosPerSec

namespace Instant

def total (instant : Instant) : Int := instant.secs * nanosPerSec + instant.nanos

/-
The addition panics where this is `none`.
-/
def checkedAdd (instant : Instant) (duration : Message.Duration) : Option Instant :=
  let nanos := instant.nanos + duration.nanos.toNat
  let secs := instant.secs + duration.secs.toNat + (nanos / nanosPerSec : Nat)
  if h : secs < 2 ^ 63 then
    some
      { secs := secs
        nanos := nanos % nanosPerSec
        lower := by
          have hLower := instant.lower
          have hCarry := Int.natCast_nonneg (nanos / nanosPerSec)
          omega
        upper := h
        nanos_lt := Nat.mod_lt _ (by decide) }
  else
    none

end Instant

namespace Message
namespace Duration

theorem total_ofTotal {total : Nat} (hFits : total / nanosPerSec < 2 ^ 64) : (ofTotal total).total = total := by
  have hLt : total % nanosPerSec < nanosPerSec := Nat.mod_lt _ (by decide)
  have hSecs : (UInt64.ofNat (total / nanosPerSec)).toNat = total / nanosPerSec :=
    UInt64.toNat_ofNat_of_lt' hFits
  have hFits' : total % nanosPerSec < UInt32.size := Nat.lt_trans hLt (by decide)
  have hNanos : (UInt32.ofNat (total % nanosPerSec)).toNat = total % nanosPerSec :=
    UInt32.toNat_ofNat_of_lt' hFits'
  unfold Duration.total ofTotal
  rw [hSecs, hNanos]
  exact Nat.div_add_mod' total nanosPerSec

theorem total_max : max.total = 18446744073709551615999999999 := by decide +kernel

theorem total_le_max (duration : Duration) : duration.total ≤ max.total := by
  have hSecs := duration.secs.toNat_lt
  have hNanos := duration.nanos_lt
  rw [total_max]
  unfold total nanosPerSec
  omega

theorem total_saturatingAdd (a b : Duration)
    : (a.saturatingAdd b).total = min (a.total + b.total) max.total := by
  rcases Nat.lt_or_ge ((a.total + b.total) / nanosPerSec) (2 ^ 64) with hFits | hTooLarge
  . have hSum : a.checkedAdd b = some (ofTotal (a.total + b.total)) := if_pos hFits
    have hSaturating : a.saturatingAdd b = ofTotal (a.total + b.total) := by
      rw [saturatingAdd, hSum, Option.getD_some]
    have hMax := total_le_max (ofTotal (a.total + b.total))
    rw [total_ofTotal hFits] at hMax
    rw [hSaturating, total_ofTotal hFits, Nat.min_eq_left hMax]
  . have hSum : a.checkedAdd b = none := if_neg (Nat.not_lt.mpr hTooLarge)
    have hSaturating : a.saturatingAdd b = max := by
      rw [saturatingAdd, hSum, Option.getD_none]
    have hMax : max.total ≤ a.total + b.total := by
      rw [total_max]
      unfold nanosPerSec at hTooLarge
      omega
    rw [hSaturating, Nat.min_eq_right hMax]

end Duration
end Message

namespace Instant

theorem checkedAdd_isSome_iff {instant : Instant} {duration : Message.Duration}
    : (instant.checkedAdd duration).isSome = true
        ↔
      instant.total + duration.total < 2 ^ 63 * nanosPerSec := by
  have hInstant := instant.nanos_lt
  have hDuration := duration.nanos_lt
  unfold checkedAdd total Message.Duration.total
  simp only
  split
  . simp only [Option.isSome_some, true_iff]
    unfold nanosPerSec at *
    omega
  . simp only [Option.isSome_none, Bool.false_eq_true, false_iff]
    unfold nanosPerSec at *
    omega

theorem total_checkedAdd {instant sum : Instant} {duration : Message.Duration}
    (hSum : instant.checkedAdd duration = some sum)
    : sum.total = instant.total + duration.total := by
  unfold checkedAdd at hSum
  simp only at hSum
  split at hSum
  . injection hSum with hSum
    rw [← hSum]
    unfold total Message.Duration.total nanosPerSec
    simp only
    omega
  . simp only [reduceCtorEq] at hSum

end Instant

end Enody
