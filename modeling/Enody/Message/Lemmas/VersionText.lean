import Enody.Message.Version
import Enody.Result.Basic
import Enody.Text
import Mathlib.Algebra.Group.Nat.Defs
import Mathlib.Data.Prod.Lex

/-!
This module contains the facts on the text of a version: which texts are parsed, what they are parsed to, and
how the results are ordered.
-/

namespace Enody
namespace Message
namespace Version

open Wifi

/--
A text with two dots whose three parts are decimal texts. The numbers of the parts are in the ranges of the
components.
-/
structure Reads (s : String) (major minor patch : Nat) : Prop where
  dots : s.toList.count '.' = 2
  parts : ∃ first second third : String,
    s = first ++ "." ++ second ++ "." ++ third
      ∧ IsDecimal first major ∧ IsDecimal second minor ∧ IsDecimal third patch
  major_lt : major < 2 ^ 8
  minor_lt : minor < 2 ^ 8
  patch_lt : patch < 2 ^ 16

def components (version : Version) : Nat ×ₗ Nat ×ₗ Nat :=
  toLex (version.major.toNat, toLex (version.minor.toNat, version.patch.toNat))

section Order

theorem rank_lt_iff {left right : Version} : left.rank < right.rank ↔ left.components < right.components := by
  have hMinor (version : Version) : version.minor.toNat < 2 ^ 8 := version.minor.toNat_lt
  have hPatch (version : Version) : version.patch.toNat < 2 ^ 16 := version.patch.toNat_lt
  have hLeftMinor := hMinor left
  have hRightMinor := hMinor right
  have hLeftPatch := hPatch left
  have hRightPatch := hPatch right
  unfold rank components
  rw [Prod.Lex.toLex_lt_toLex, Prod.Lex.toLex_lt_toLex]
  omega

theorem cmp_eq_lt_iff {left right : Version} : cmp left right = .lt ↔ left.components < right.components := by
  rw [cmp_eq_compare_rank, Nat.compare_eq_lt, rank_lt_iff]

theorem cmp_eq_gt_iff_components {left right : Version}
    : cmp left right = .gt ↔ right.components < left.components := by
  rw [cmp_eq_gt_iff, rank_lt_iff]

theorem cmp_eq_eq_iff {left right : Version} : cmp left right = .eq ↔ left.components = right.components := by
  have hLt : cmp left right = .lt ↔ left.components < right.components := cmp_eq_lt_iff
  have hGt : cmp left right = .gt ↔ right.components < left.components := cmp_eq_gt_iff_components
  rcases lt_trichotomy left.components right.components with hOrder | hOrder | hOrder
  . simp [hLt.mpr hOrder, hOrder.ne]
  . have hNotLt : cmp left right ≠ .lt := by simp [hLt, hOrder]
    have hNotGt : cmp left right ≠ .gt := by simp [hGt, hOrder]
    cases hCmp : cmp left right <;> simp_all
  . simp [hGt.mpr hOrder, hOrder.ne']

end Order

section Split

theorem splitOn_three {cs first second third : List Char} (hSplit : cs.splitOn '.' = [first, second, third])
    : cs = first ++ '.' :: (second ++ '.' :: third) := by
  have hJoin : ['.'].intercalate (cs.splitOn '.') = cs := List.intercalate_splitOn '.'
  rw [hSplit] at hJoin
  simpa using hJoin.symm

theorem splitOn_of_notMem {first second third : List Char} (hFirst : '.' ∉ first) (hSecond : '.' ∉ second)
    (hThird : '.' ∉ third)
    : (first ++ '.' :: (second ++ '.' :: third)).splitOn '.' = [first, second, third] := by
  rw [List.splitOn_append_cons_self_of_not_mem hFirst, List.splitOn_append_cons_self_of_not_mem hSecond,
    List.splitOn_eq_singleton hThird]

theorem nextPart_eq_ok_iff {parts rest : List String} {missing part : String}
    : nextPart parts missing = .ok (part, rest) ↔ parts = part :: rest := by
  cases parts <;> simp [nextPart]

theorem parsePart_eq_ok_iff {α : Type} {parse : String → Option α} {part invalid : String} {n : α}
    : parsePart parse part invalid = .ok n ↔ parse part = some n := by
  unfold parsePart
  cases parse part <;> simp

theorem finish_eq_ok_iff {parts : List String} {result version : Version}
    : (if parts.isEmpty then Except.ok result else Except.error "too many version parts") = .ok version
        ↔
      parts = [] ∧ result = version := by
  cases parts <;> simp

theorem fromStr_eq_ok_iff {s : String} {version : Version}
    : fromStr s = .ok version
        ↔
      ∃ first second third, s.toList.splitOn '.' = [first, second, third]
        ∧ parseU8 (String.ofList first) = some version.major
        ∧ parseU8 (String.ofList second) = some version.minor
        ∧ parseU16 (String.ofList third) = some version.patch := by
  rcases version with ⟨major, minor, patch⟩
  simp only [fromStr, Result.bind_eq_ok_iff, Prod.exists, nextPart_eq_ok_iff, parsePart_eq_ok_iff,
    finish_eq_ok_iff, Version.mk.injEq]
  constructor
  . rintro ⟨first, rest, hFirst, _, hMajor, second, rest', hSecond, _, hMinor, third, rest'', hThird, _,
      hPatch, hEnd, rfl, rfl, rfl⟩
    subst hSecond hThird hEnd
    rcases List.map_eq_cons_iff.mp hFirst with ⟨first, _, hSplit, rfl, hRest⟩
    rcases List.map_eq_cons_iff.mp hRest with ⟨second, _, rfl, rfl, hRest'⟩
    rcases List.map_eq_singleton_iff.mp hRest' with ⟨third, rfl, rfl⟩
    exact ⟨first, second, third, hSplit, hMajor, hMinor, hPatch⟩
  . rintro ⟨first, second, third, hSplit, hMajor, hMinor, hPatch⟩
    have hFirst : (s.toList.splitOn '.').map String.ofList
        = String.ofList first :: [String.ofList second, String.ofList third] := by
      rw [hSplit]
      rfl
    exact ⟨_, _, hFirst, _, hMajor, _, _, rfl, _, hMinor, _, _, rfl, _, hPatch, rfl, rfl, rfl, rfl⟩

end Split

section Text

theorem notMem_dot {s : String} {n : Nat} (hDecimal : IsDecimal s n) : '.' ∉ s.toList :=
  hDecimal.notMem (by decide) (by decide)

/-
The parts of a decimal text have no dots, so the dots of the whole text are the separators.
-/
theorem count_dots {first second third : String} {major minor patch : Nat} (hMajor : IsDecimal first major)
    (hMinor : IsDecimal second minor) (hPatch : IsDecimal third patch)
    : (first ++ "." ++ second ++ "." ++ third).toList.count '.' = 2 := by
  have hFirst := List.count_eq_zero.mpr (notMem_dot hMajor)
  have hSecond := List.count_eq_zero.mpr (notMem_dot hMinor)
  have hThird := List.count_eq_zero.mpr (notMem_dot hPatch)
  simp [String.toList_append, List.count_append, hFirst, hSecond, hThird]

theorem reads_of_fromStr {s : String} {version : Version} (hOk : fromStr s = .ok version)
    : Reads s version.major.toNat version.minor.toNat version.patch.toNat := by
  rcases fromStr_eq_ok_iff.mp hOk with ⟨first, second, third, hSplit, hMajor, hMinor, hPatch⟩
  rw [parseU8_eq_some_iff] at hMajor hMinor
  rw [parseU16_eq_some_iff] at hPatch
  have hText : s = String.ofList first ++ "." ++ String.ofList second ++ "." ++ String.ofList third := by
    rw [← String.toList_inj, splitOn_three hSplit]
    simp
  refine ⟨?_, ⟨_, _, _, hText, hMajor, hMinor, hPatch⟩, version.major.toNat_lt, version.minor.toNat_lt,
    version.patch.toNat_lt⟩
  rw [hText]
  exact count_dots hMajor hMinor hPatch

theorem fromStr_of_reads {s : String} {version : Version}
    (hReads : Reads s version.major.toNat version.minor.toNat version.patch.toNat)
    : fromStr s = .ok version := by
  rcases hReads.parts with ⟨first, second, third, hText, hMajor, hMinor, hPatch⟩
  have hSplit := splitOn_of_notMem (notMem_dot hMajor) (notMem_dot hMinor) (notMem_dot hPatch)
  refine fromStr_eq_ok_iff.mpr ⟨first.toList, second.toList, third.toList, ?_, ?_, ?_, ?_⟩
  . rw [hText]
    simpa using hSplit
  . rwa [String.ofList_toList, parseU8_eq_some_iff]
  . rwa [String.ofList_toList, parseU8_eq_some_iff]
  . rwa [String.ofList_toList, parseU16_eq_some_iff]

theorem reads_toString (version : Version)
    : Reads (toString version) version.major.toNat version.minor.toNat version.patch.toNat where
  dots := count_dots (isDecimal_repr _) (isDecimal_repr _) (isDecimal_repr _)
  parts := ⟨_, _, _, rfl, isDecimal_repr _, isDecimal_repr _, isDecimal_repr _⟩
  major_lt := version.major.toNat_lt
  minor_lt := version.minor.toNat_lt
  patch_lt := version.patch.toNat_lt

theorem reads_iff {s : String} {major minor patch : Nat}
    : Reads s major minor patch
        ↔
      ∃ version, fromStr s = .ok version ∧ version.major.toNat = major ∧ version.minor.toNat = minor
        ∧ version.patch.toNat = patch := by
  constructor
  . intro hReads
    have hMajor : (UInt8.ofNat major).toNat = major := UInt8.toNat_ofNat_of_lt' hReads.major_lt
    have hMinor : (UInt8.ofNat minor).toNat = minor := UInt8.toNat_ofNat_of_lt' hReads.minor_lt
    have hPatch : (UInt16.ofNat patch).toNat = patch := UInt16.toNat_ofNat_of_lt' hReads.patch_lt
    refine ⟨⟨.ofNat major, .ofNat minor, .ofNat patch⟩, fromStr_of_reads ?_, hMajor, hMinor, hPatch⟩
    rwa [hMajor, hMinor, hPatch]
  . rintro ⟨version, hOk, rfl, rfl, rfl⟩
    exact reads_of_fromStr hOk

/--
A version is read back from its text. The texts that are parsed are the texts of three decimal parts in range,
and the result has the numbers of the parts. Results are ordered by these numbers.
-/
theorem fromStr_text
    : (∀ version, fromStr (toString version) = .ok version)
        ∧ (∀ s major minor patch,
            (∃ version, fromStr s = .ok version ∧ version.major.toNat = major
                ∧ version.minor.toNat = minor ∧ version.patch.toNat = patch)
              ↔
            Reads s major minor patch)
        ∧ ∀ s t left right, fromStr s = .ok left → fromStr t = .ok right →
            (cmp left right = .lt ↔ left.components < right.components)
              ∧ (cmp left right = .eq ↔ left.components = right.components)
              ∧ (cmp left right = .gt ↔ right.components < left.components) := by
  refine ⟨?_, ?_, ?_⟩
  . intro version
    exact fromStr_of_reads (reads_toString version)
  . intro s major minor patch
    exact reads_iff.symm
  . intro s t left right _ _
    exact ⟨cmp_eq_lt_iff, cmp_eq_eq_iff, cmp_eq_gt_iff_components⟩

-- The texts of the same versions are in the other order.
example : fromStr "9.0.0" = .ok ⟨9, 0, 0⟩ ∧ fromStr "10.0.0" = .ok ⟨10, 0, 0⟩
    ∧ cmp ⟨9, 0, 0⟩ ⟨10, 0, 0⟩ = .lt ∧ "10.0.0" < "9.0.0" := by
  decide

end Text

end Version
end Message
end Enody
