import Enody.Wifi.Impl.Mdns
import Mathlib.Algebra.Group.Nat.Defs
import Mathlib.Order.Basic

/-!
This module contains the traits of `Version` in `message.rs`: the text of a version, the parser of this text,
and the order that is derived from the order of the fields.
-/

namespace Enody
namespace Message
namespace Version

open Wifi

/-
`Display`
-/
def toString (version : Version) : String :=
  version.major.toNat.repr ++ "." ++ version.minor.toNat.repr ++ "." ++ version.patch.toNat.repr

def nextPart (parts : List String) (missing : String) : Except String (String × List String) :=
  match parts with
  | [] => .error missing
  | part :: parts => .ok (part, parts)

def parsePart {α : Type} (parse : String → Option α) (part : String) (invalid : String) : Except String α :=
  match parse part with
  | none => .error invalid
  | some n => .ok n

/-
`FromStr`
-/
def fromStr (s : String) : Except String Version := do
  let parts := (s.toList.splitOn '.').map String.ofList
  let (part, parts) ← nextPart parts "missing major"
  let major ← parsePart parseU8 part "invalid major"
  let (part, parts) ← nextPart parts "missing minor"
  let minor ← parsePart parseU8 part "invalid minor"
  let (part, parts) ← nextPart parts "missing patch"
  let patch ← parsePart parseU16 part "invalid patch"
  if parts.isEmpty then
    .ok ⟨major, minor, patch⟩
  else
    .error "too many version parts"

/-
The derived `Ord`: the fields are compared in the order in which they are declared.
-/
def cmp (left right : Version) : Ordering :=
  (compare left.major right.major).then
    ((compare left.minor right.minor).then (compare left.patch right.patch))

/-
The components as the digits of one number.
-/
def rank (version : Version) : Nat :=
  (version.major.toNat * 2 ^ 8 + version.minor.toNat) * 2 ^ 16 + version.patch.toNat

theorem then_compare {high high' low low' base : Nat} (hLow : low < base) (hLow' : low' < base)
    : (compare high high').then (compare low low') = compare (high * base + low) (high' * base + low') := by
  rcases Nat.lt_trichotomy high high' with hLt | hEq | hGt
  . have hAll : high * base + low < high' * base + low' := by
      have hNext := Nat.mul_le_mul_right base hLt
      rw [Nat.succ_mul] at hNext
      omega
    rw [Nat.compare_eq_lt.mpr hLt, Nat.compare_eq_lt.mpr hAll]
    rfl
  . subst hEq
    simp only [Nat.compare_eq_eq.mpr, Ordering.eq_then]
    simp [compare, compareOfLessAndEq]
  . have hAll : high' * base + low' < high * base + low := by
      have hNext := Nat.mul_le_mul_right base hGt
      rw [Nat.succ_mul] at hNext
      omega
    rw [Nat.compare_eq_gt.mpr hGt, Nat.compare_eq_gt.mpr hAll]
    rfl

theorem compare_u8 (a b : UInt8) : compare a b = compare a.toNat b.toNat := by
  simp only [compare, compareOfLessAndEq, UInt8.lt_iff_toNat_lt, ← UInt8.toNat_inj]

theorem compare_u16 (a b : UInt16) : compare a b = compare a.toNat b.toNat := by
  simp only [compare, compareOfLessAndEq, UInt16.lt_iff_toNat_lt, ← UInt16.toNat_inj]

/--
The derived order compares the numbers whose digits are the components.
-/
theorem cmp_eq_compare_rank (left right : Version) : cmp left right = compare left.rank right.rank := by
  have hMinor (version : Version) : version.minor.toNat < 2 ^ 8 := version.minor.toNat_lt
  have hPatch (version : Version) : version.patch.toNat < 2 ^ 16 := version.patch.toNat_lt
  unfold cmp rank
  rw [compare_u8, compare_u8, compare_u16, ← Ordering.then_assoc, then_compare (hMinor left) (hMinor right),
    then_compare (hPatch left) (hPatch right)]

theorem cmp_eq_gt_iff {left right : Version} : cmp left right = .gt ↔ right.rank < left.rank := by
  rw [cmp_eq_compare_rank, Nat.compare_eq_gt]

theorem isLE_cmp_iff {left right : Version} : (cmp left right).isLE = true ↔ left.rank ≤ right.rank := by
  rw [cmp_eq_compare_rank, Nat.isLE_compare]

end Version
end Message
end Enody
