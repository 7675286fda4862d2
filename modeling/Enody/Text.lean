import Enody.Wifi.Impl.Mdns
import Mathlib.Algebra.Group.Nat.Defs

/-!
This module contains what the command line makes of a text: `str::trim` and `str::parse` of a `usize`.
-/

namespace Enody

/-
The property `White_Space` of Unicode.
-/
def isWhitespace (c : Char) : Bool :=
  (0x9 ≤ c.toNat && c.toNat ≤ 0xD) || c.toNat == 0x20 || c.toNat == 0x85 || c.toNat == 0xA0
    || c.toNat == 0x1680 || (0x2000 ≤ c.toNat && c.toNat ≤ 0x200A) || c.toNat == 0x2028
    || c.toNat == 0x2029 || c.toNat == 0x202F || c.toNat == 0x205F || c.toNat == 0x3000

def trim (s : String) : String :=
  String.ofList ((s.toList.dropWhile isWhitespace).reverse.dropWhile isWhitespace).reverse

@[simp]
theorem trim_empty : trim "" = "" := rfl

/-
A `usize` has 64 bits.
-/
def parseUsize (s : String) : Option Nat :=
  (Wifi.parseUnsigned s).bind fun n => if n < 2 ^ 64 then some n else none

theorem parseUsize_empty : parseUsize "" = none := rfl

section Decimal

theorem isWhitespace_of_isDigit {c : Char} (hDigit : c.isDigit = true) : isWhitespace c = false := by
  simp only [Char.isDigit, Bool.and_eq_true, decide_eq_true_eq, UInt32.le_iff_toNat_le] at hDigit
  have hLow : 48 ≤ c.toNat := hDigit.1
  have hHigh : c.toNat ≤ 57 := hDigit.2
  simp only [isWhitespace, Bool.or_eq_false_iff, Bool.and_eq_false_iff, decide_eq_false_iff_not,
    beq_eq_false_iff_ne]
  omega

theorem dropWhile_digits {cs : List Char} (hDigits : ∀ c ∈ cs, c.isDigit = true)
    : cs.dropWhile isWhitespace = cs := by
  cases cs with
  | nil => rfl
  | cons c cs =>
    rw [List.dropWhile_cons_of_neg]
    simp [isWhitespace_of_isDigit (hDigits c List.mem_cons_self)]

theorem trim_digits {s : String} (hDigits : ∀ c ∈ s.toList, c.isDigit = true) : trim s = s := by
  have hReverse : ∀ c ∈ s.toList.reverse, c.isDigit = true := by
    intro c hMem
    exact hDigits c (List.mem_reverse.mp hMem)
  unfold trim
  rw [dropWhile_digits hDigits, dropWhile_digits hReverse, List.reverse_reverse, String.ofList_toList]

theorem parseDigits_eq {cs : List Char} (hDigits : ∀ c ∈ cs, c.isDigit = true) (n : Nat)
    : Wifi.parseDigits cs n = some (Nat.ofDigitChars 10 cs n) := by
  induction cs generalizing n with
  | nil => rfl
  | cons c cs ih =>
    have hRest : ∀ c ∈ cs, c.isDigit = true := by
      intro c hMem
      exact hDigits c (List.mem_cons_of_mem _ hMem)
    rw [Wifi.parseDigits, if_pos (hDigits c List.mem_cons_self), ih hRest, Nat.ofDigitChars_cons,
      Nat.mul_comm n 10]
    rfl

theorem isDigit_of_mem_repr {n : Nat} : ∀ c ∈ n.repr.toList, c.isDigit = true := by
  intro c hMem
  rw [Nat.toList_repr] at hMem
  exact Nat.isDigit_of_mem_toDigits (by decide) (by decide) hMem

/-
Decimal digits, at least one of them, behind an optional sign `+`. They denote the number.
-/
def IsDecimal (s : String) (n : Nat) : Prop :=
  ∃ digits : List Char, digits ≠ [] ∧ (∀ c ∈ digits, c.isDigit = true)
    ∧ (s.toList = digits ∨ s.toList = '+' :: digits) ∧ n = Nat.ofDigitChars 10 digits 0

theorem parseDigits_eq_some {cs : List Char} {n m : Nat} (hParse : Wifi.parseDigits cs n = some m)
    : (∀ c ∈ cs, c.isDigit = true) ∧ m = Nat.ofDigitChars 10 cs n := by
  have hDigits : ∀ c ∈ cs, c.isDigit = true := by
    induction cs generalizing n with
    | nil => simp
    | cons c cs ih =>
      rw [Wifi.parseDigits] at hParse
      by_cases hDigit : c.isDigit = true
      . rw [if_pos hDigit] at hParse
        simpa [hDigit] using ih hParse
      . rw [if_neg hDigit] at hParse
        contradiction
  rw [parseDigits_eq hDigits] at hParse
  exact ⟨hDigits, (Option.some.inj hParse).symm⟩

theorem parseUnsigned_sign {s : String} {digits : List Char} (hText : s.toList = '+' :: digits)
    : Wifi.parseUnsigned s = if digits.isEmpty then none else Wifi.parseDigits digits 0 := by
  rw [Wifi.parseUnsigned, hText]
  rfl

theorem parseUnsigned_bare {s : String} (hText : ∀ digits, s.toList ≠ '+' :: digits)
    : Wifi.parseUnsigned s = if s.toList.isEmpty then none else Wifi.parseDigits s.toList 0 := by
  rw [Wifi.parseUnsigned]
  cases hChars : s.toList with
  | nil => rfl
  | cons c cs =>
    have hSign : c ≠ '+' := by
      intro hSign
      exact hText cs (hSign ▸ hChars)
    split
    . rename_i hCons
      simp_all
    . rfl

theorem parseUnsigned_eq_some_iff {s : String} {n : Nat} : Wifi.parseUnsigned s = some n ↔ IsDecimal s n := by
  constructor
  . intro hParse
    by_cases hSign : ∃ digits, s.toList = '+' :: digits
    . rcases hSign with ⟨digits, hText⟩
      rw [parseUnsigned_sign hText] at hParse
      by_cases hEmpty : digits = []
      . simp [hEmpty] at hParse
      . simp only [List.isEmpty_iff, hEmpty, if_false] at hParse
        rcases parseDigits_eq_some hParse with ⟨hDigits, hNumber⟩
        exact ⟨digits, hEmpty, hDigits, .inr hText, hNumber⟩
    . simp only [not_exists] at hSign
      rw [parseUnsigned_bare hSign] at hParse
      by_cases hEmpty : s.toList = []
      . simp [hEmpty] at hParse
      . simp only [List.isEmpty_iff, hEmpty, if_false] at hParse
        rcases parseDigits_eq_some hParse with ⟨hDigits, hNumber⟩
        exact ⟨s.toList, hEmpty, hDigits, .inl rfl, hNumber⟩
  . rintro ⟨digits, hNonempty, hDigits, hText | hText, hNumber⟩
    . have hBare : ∀ rest, s.toList ≠ '+' :: rest := by
        intro rest hCons
        have hDigit := hDigits '+' (hText ▸ hCons ▸ List.mem_cons_self)
        contradiction
      rw [parseUnsigned_bare hBare, hText, parseDigits_eq hDigits, hNumber]
      simp [hNonempty]
    . rw [parseUnsigned_sign hText, parseDigits_eq hDigits, hNumber]
      simp [hNonempty]

theorem isDecimal_repr (n : Nat) : IsDecimal n.repr n := by
  refine ⟨n.repr.toList, ?_, isDigit_of_mem_repr, .inl rfl, ?_⟩
  . rw [Nat.toList_repr]
    exact Nat.toDigits_ne_nil
  . rw [Nat.toList_repr, Nat.ofDigitChars_ten_toDigits]

theorem parseUnsigned_repr (n : Nat) : Wifi.parseUnsigned n.repr = some n :=
  parseUnsigned_eq_some_iff.mpr (isDecimal_repr n)

theorem bounded_eq_some_iff {A : Type} {bound : Nat} {ofNat : Nat → A} {toNat : A → Nat}
    (hBound : ∀ a, toNat a < bound) (hOfNat : ∀ n < bound, toNat (ofNat n) = n)
    (hToNat : ∀ a, ofNat (toNat a) = a) {s : String} {a : A}
    : ((Wifi.parseUnsigned s).bind fun n => if n < bound then some (ofNat n) else none) = some a
        ↔
      IsDecimal s (toNat a) := by
  rw [← parseUnsigned_eq_some_iff]
  cases Wifi.parseUnsigned s with
  | none => simp
  | some n =>
    rw [Option.bind_some, Option.some.injEq]
    constructor
    . intro hSome
      split at hSome
      . next hLt => rw [← Option.some.inj hSome, hOfNat n hLt]
      . contradiction
    . rintro rfl
      rw [if_pos (hBound a), hToNat]

theorem parseU8_eq_some_iff {s : String} {n : UInt8} : Wifi.parseU8 s = some n ↔ IsDecimal s n.toNat :=
  bounded_eq_some_iff UInt8.toNat_lt (fun _ hLt => UInt8.toNat_ofNat_of_lt' hLt) (fun _ => UInt8.ofNat_toNat)

theorem parseU16_eq_some_iff {s : String} {n : UInt16} : Wifi.parseU16 s = some n ↔ IsDecimal s n.toNat :=
  bounded_eq_some_iff UInt16.toNat_lt (fun _ hLt => UInt16.toNat_ofNat_of_lt' hLt) (fun _ => UInt16.ofNat_toNat)

theorem IsDecimal.notMem {s : String} {n : Nat} (hDecimal : IsDecimal s n) {c : Char}
    (hDigit : c.isDigit = false) (hSign : c ≠ '+') : c ∉ s.toList := by
  rcases hDecimal with ⟨digits, -, hDigits, hText, -⟩
  have hNot : c ∉ digits := by
    intro hMem
    have hTrue := hDigits c hMem
    simp_all
  rcases hText with hText | hText <;> simp [hText, hNot, hSign]

theorem parseUsize_repr {n : Nat} (hLt : n < 2 ^ 64) : parseUsize n.repr = some n := by
  rw [parseUsize, parseUnsigned_repr, Option.bind_some, if_pos hLt]

theorem trim_repr (n : Nat) : trim n.repr = n.repr := trim_digits isDigit_of_mem_repr

end Decimal
end Enody
