import Enody.Cli.Impl.Prompt
import Enody.Serde.Deserializer
import Mathlib.Data.Nat.Find

/-!
This module contains the answers to the prompts of a loop over `prompt_line`, and when such a loop returns.
Behind the end of the input every answer is the empty line, unless standard output cannot be flushed.
-/

namespace Enody
namespace Cli

open Message Retry

variable {flush : Nat → Except String Unit} {console later : Console} {n m : Nat}

def dropLines (stdin : List UInt8) : Nat → List UInt8
  | 0 => stdin
  | n + 1 => dropLine (dropLines stdin n)

def Console.answer (flush : Nat → Except String Unit) (console : Console) (n : Nat)
    : Except (Error .std) String :=
  match flush (console.prompts + n) with
  | .error detail => .error (.debugText detail)
  | .ok () =>
    match decodeLine (takeLine (dropLines console.stdin n)) with
    | .error detail => .error (.debugText detail)
    | .ok input => .ok (stripLineEnd input)

structure Advanced (console later : Console) (n : Nat) : Prop where
  prompts : later.prompts = console.prompts + n
  stdin : later.stdin = dropLines console.stdin n

theorem dropLines_add (stdin : List UInt8) (n m : Nat)
    : dropLines stdin (n + m) = dropLines (dropLines stdin n) m := by
  induction m with
  | zero => rfl
  | succ m ih => rw [← Nat.add_assoc, dropLines, dropLines, ih]

namespace Advanced

theorem refl (console : Console) : Advanced console console 0 := ⟨rfl, rfl⟩

theorem trans {last : Console} (hLater : Advanced console later n) (hLast : Advanced later last m)
    : Advanced console last (n + m) where
  prompts := by rw [hLast.prompts, hLater.prompts, Nat.add_assoc]
  stdin := by rw [hLast.stdin, hLater.stdin, dropLines_add]

theorem println (hLater : Advanced console later n) (text : String)
    : Advanced console (later.println text) n :=
  ⟨hLater.prompts, hLater.stdin⟩

theorem answer (hLater : Advanced console later n) (flush : Nat → Except String Unit) (m : Nat)
    : later.answer flush m = console.answer flush (n + m) := by
  simp only [Console.answer, hLater.prompts, hLater.stdin, Nat.add_assoc, dropLines_add]

end Advanced

section Ask

variable {A : Type} {prompt : String} {choose : String → Choice A}

def verdict (choose : String → Choice A) (answer : Except (Error .std) String)
    : Option (Except (Error .std) A) :=
  match answer with
  | .error error => some (.error error)
  | .ok input =>
    match choose input with
    | .again _ => none
    | .chosen a => some (.ok a)

/--
The first answer that ends a loop, and with what.
-/
structure First (choose : String → Choice A) (answers : Nat → Except (Error .std) String) (n : Nat)
    (result : Except (Error .std) A)
    : Prop where
  before : ∀ m < n, verdict choose (answers m) = none
  verdict : verdict choose (answers n) = some result

theorem promptLine_fst (prompt : String) : (promptLine flush prompt console).1 = console.answer flush 0 := by
  unfold promptLine Console.answer
  cases flush console.prompts with
  | error detail => rfl
  | ok =>
    simp only [dropLines]
    cases decodeLine (takeLine console.stdin) <;> rfl

theorem promptLine_advanced {input : String} (hInput : console.answer flush 0 = .ok input) (prompt : String)
    : Advanced console (promptLine flush prompt console).2 1 := by
  unfold Console.answer at hInput
  unfold promptLine
  cases hFlush : flush console.prompts with
  | error detail =>
    simp only [Nat.add_zero, hFlush, reduceCtorEq] at hInput
  | ok =>
    cases decodeLine (takeLine console.stdin) <;> exact ⟨rfl, rfl⟩

theorem ask_fst (prompt : String) (choose : String → Choice A)
    : (ask flush prompt choose console).1 = verdict choose (console.answer flush 0) := by
  rw [← promptLine_fst prompt, ask]
  rcases promptLine flush prompt console with ⟨answer | input, later⟩
  . rfl
  . simp only [verdict]
    cases choose input <;> rfl

theorem ask_advanced {input : String} (hInput : console.answer flush 0 = .ok input) (prompt : String)
    (choose : String → Choice A)
    : Advanced console (ask flush prompt choose console).2 1 := by
  have hLine : (promptLine flush prompt console).1 = .ok input := by rw [promptLine_fst, hInput]
  have hAdvanced := promptLine_advanced hInput prompt
  cases hPrompt : promptLine flush prompt console with
  | mk answer next =>
    rw [hPrompt] at hLine hAdvanced
    simp only at hLine hAdvanced
    subst hLine
    cases hChoice : choose input with
    | again message =>
      simp only [ask, hPrompt, hChoice]
      exact hAdvanced.println message
    | chosen a =>
      simp only [ask, hPrompt, hChoice]
      exact hAdvanced

theorem verdict_eq_error_iff {answer : Except (Error .std) String} {error : Error .std}
    : verdict choose answer = some (.error error) ↔ answer = .error error := by
  cases answer with
  | error other => simp [verdict]
  | ok input =>
    cases hChoice : choose input <;> simp [verdict, hChoice]

theorem verdict_eq_ok_iff {answer : Except (Error .std) String} {a : A}
    : verdict choose answer = some (.ok a) ↔ ∃ input, answer = .ok input ∧ choose input = .chosen a := by
  cases answer with
  | error other => simp [verdict]
  | ok input =>
    cases hChoice : choose input <;> simp [verdict, hChoice]

theorem verdict_eq_none_iff {answer : Except (Error .std) String}
    : verdict choose answer = none ↔ ∃ input message, answer = .ok input ∧ choose input = .again message := by
  cases answer with
  | error other => simp [verdict]
  | ok input =>
    cases hChoice : choose input <;> simp [verdict, hChoice]

theorem advanced_after (hRetry : ∀ m < n, verdict choose (console.answer flush m) = none)
    : Advanced console (after (ask flush prompt choose) console n) n := by
  induction n with
  | zero => exact .refl console
  | succ n ih =>
    have hLater := ih fun m hLt => hRetry m (Nat.lt_succ_of_lt hLt)
    rcases verdict_eq_none_iff.mp (hRetry n (Nat.lt_succ_self n)) with ⟨input, _, hInput, _⟩
    have hNext := hLater.answer flush 0
    rw [Nat.add_zero, hInput] at hNext
    exact hLater.trans (ask_advanced hNext prompt choose)

theorem ask_after (prompt : String) (hRetry : ∀ m < n, verdict choose (console.answer flush m) = none)
    : (ask flush prompt choose (after (ask flush prompt choose) console n)).1
        = verdict choose (console.answer flush n) := by
  rw [ask_fst, (advanced_after hRetry).answer, Nat.add_zero]

theorem retries_iff
    : (∀ m < n, (ask flush prompt choose (after (ask flush prompt choose) console m)).1 = none)
        ↔
      ∀ m < n, verdict choose (console.answer flush m) = none := by
  induction n with
  | zero => simp
  | succ n ih =>
    simp only [Nat.forall_lt_succ_right, ih]
    constructor
    . rintro ⟨hBefore, hLast⟩
      rw [ask_after prompt hBefore] at hLast
      exact ⟨hBefore, hLast⟩
    . rintro ⟨hBefore, hLast⟩
      rw [ask_after prompt hBefore]
      exact ⟨hBefore, hLast⟩

theorem advanced_of_first {a : A} (prompt : String) (hFirst : First choose (console.answer flush) n (.ok a))
    : Advanced console (ask flush prompt choose (after (ask flush prompt choose) console n)).2 (n + 1) := by
  rcases verdict_eq_ok_iff.mp hFirst.verdict with ⟨input, hInput, _⟩
  have hLater : Advanced console (after (ask flush prompt choose) console n) n := advanced_after hFirst.before
  have hNext := hLater.answer flush 0
  rw [Nat.add_zero, hInput] at hNext
  exact hLater.trans (ask_advanced hNext prompt choose)

theorem first_of_settles {result : Except (Error .std) A}
    (hSettles : Settles (fun fuel => run (ask flush prompt choose) fuel console) (result, later))
    : ∃ n, First choose (console.answer flush) n result
        ∧ ∀ a, result = .ok a → Advanced console later (n + 1) := by
  rcases settles_run_iff.mp hSettles with ⟨n, hBefore, hResult⟩
  have hRetry := retries_iff.mp hBefore
  have hVerdict := ask_after prompt hRetry
  rw [hResult] at hVerdict
  refine ⟨n, ⟨hRetry, hVerdict.symm⟩, ?_⟩
  intro a hOk
  subst hOk
  have hLater := advanced_of_first prompt ⟨hRetry, hVerdict.symm⟩
  rw [hResult] at hLater
  exact hLater

theorem settles_of_first {result : Except (Error .std) A} (prompt : String)
    (hFirst : First choose (console.answer flush) n result)
    : ∃ later, Settles (fun fuel => run (ask flush prompt choose) fuel console) (result, later)
        ∧ ∀ a, result = .ok a → Advanced console later (n + 1) := by
  have hVerdict := ask_after prompt hFirst.before
  rw [hFirst.verdict] at hVerdict
  refine ⟨_, settles_run_iff.mpr ⟨n, retries_iff.mpr hFirst.before, Prod.ext hVerdict rfl⟩, ?_⟩
  intro a hOk
  subst hOk
  exact advanced_of_first prompt hFirst

theorem exists_first {answers : Nat → Except (Error .std) String}
    (hSome : ∃ n, verdict choose (answers n) ≠ none)
    : ∃ n result, First choose answers n result := by
  rcases Option.ne_none_iff_exists'.mp (Nat.find_spec hSome) with ⟨result, hVerdict⟩
  refine ⟨Nat.find hSome, result, ?_, hVerdict⟩
  intro m hLt
  by_contra hNone
  exact Nat.find_min hSome hLt hNone

theorem exists_settles_iff {A B : Type} {program : Nat → Option (A × B)}
    : (∃ fuel outcome, program fuel = some outcome) ↔ ∃ result later, Settles program (result, later) := by
  constructor
  . rintro ⟨fuel, ⟨result, later⟩, hSome⟩
    exact ⟨result, later, fuel, hSome⟩
  . rintro ⟨result, later, fuel, hSome⟩
    exact ⟨fuel, (result, later), hSome⟩

theorem settles_ask_iff {A : Type} {prompt : String} {choose : String → Choice A}
    : (∃ result later, Settles (fun fuel => run (ask flush prompt choose) fuel console) (result, later))
        ↔
      ∃ n, (∃ error, console.answer flush n = .error error)
        ∨ ∃ line a, console.answer flush n = .ok line ∧ choose line = .chosen a := by
  constructor
  . rintro ⟨result, later, hSettles⟩
    rcases first_of_settles hSettles with ⟨n, hFirst, _⟩
    exists n
    cases result with
    | error error => exact .inl ⟨error, verdict_eq_error_iff.mp hFirst.verdict⟩
    | ok a =>
      rcases verdict_eq_ok_iff.mp hFirst.verdict with ⟨line, hLine, hChosen⟩
      exact .inr ⟨line, a, hLine, hChosen⟩
  . rintro ⟨n, hDecides⟩
    have hVerdict : verdict choose (console.answer flush n) ≠ none := by
      rcases hDecides with ⟨error, hError⟩ | ⟨line, a, hLine, hChosen⟩
      . rw [verdict_eq_error_iff.mpr hError]
        simp
      . rw [verdict_eq_ok_iff.mpr ⟨line, hLine, hChosen⟩]
        simp
    rcases exists_first ⟨n, hVerdict⟩ with ⟨first, result, hFirst⟩
    rcases settles_of_first prompt hFirst with ⟨later, hSettles, _⟩
    exact ⟨result, later, hSettles⟩

end Ask

section EndOfInput

theorem length_dropLine (stdin : List UInt8) : (dropLine stdin).length ≤ stdin.length - 1 := by
  induction stdin with
  | nil => exact Nat.le_refl _
  | cons byte bytes ih =>
    rw [dropLine]
    split
    . simp
    . simp only [List.length_cons]
      omega

theorem length_dropLines (stdin : List UInt8) (n : Nat) : (dropLines stdin n).length ≤ stdin.length - n := by
  induction n with
  | zero => exact Nat.le_refl _
  | succ n ih =>
    have hLine := length_dropLine (dropLines stdin n)
    rw [dropLines]
    omega

theorem decodeLine_nil : decodeLine [] = .ok "" := by
  have hEmpty : String.fromUTF8? ⟨([] : List UInt8).toArray⟩ = some "" := Serde.fromUTF8?_utf8 ""
  rw [decodeLine, hEmpty]

theorem answer_of_end (hEnd : console.stdin.length ≤ n) (hFlush : flush (console.prompts + n) = .ok ())
    : console.answer flush n = .ok "" := by
  have hLength := length_dropLines console.stdin n
  have hNil : dropLines console.stdin n = [] := List.eq_nil_of_length_eq_zero (by omega)
  simp only [Console.answer, hFlush, hNil, takeLine, decodeLine_nil]
  rfl

theorem exists_answer_iff (hFlush : ∀ n, flush n = .ok ()) (decides : Except (Error .std) String → Prop)
    (hEmpty : ¬ decides (.ok ""))
    : (∃ n, decides (console.answer flush n))
        ↔
      ∃ n < console.stdin.length, decides (console.answer flush n) := by
  constructor
  . rintro ⟨n, hDecides⟩
    refine ⟨n, ?_, hDecides⟩
    by_contra hEnd
    rw [answer_of_end (Nat.le_of_not_lt hEnd) (hFlush _)] at hDecides
    exact hEmpty hDecides
  . rintro ⟨n, _, hDecides⟩
    exact ⟨n, hDecides⟩

end EndOfInput

end Cli
end Enody
