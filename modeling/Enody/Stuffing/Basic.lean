import Mathlib.Data.List.Basic

/-!
This module contains the general theory of delimited streams with byte stuffing: an alphabet with a
start, a stop and an escape symbol, the tokens a stuffed stream is made of, and the encoding of a
payload as tokens.
-/

namespace Stuffing

/--
The three control symbols of a stuffed stream. They are pairwise different.
-/
structure Delimiters (α : Type) where
  start : α
  stop : α
  escape : α
  start_ne_stop : start ≠ stop
  start_ne_escape : start ≠ escape
  stop_ne_escape : stop ≠ escape

/--
One unit of a stuffed stream: a symbol that stands for itself, or any symbol behind an escape.
Neither the escape symbol nor the `reserved` delimiter can stand for itself.
-/
inductive Token {α : Type} (d : Delimiters α) (reserved : α) where
  | plain (a : α) (notReserved : a ≠ reserved) (notEscape : a ≠ d.escape)
  | escaped (a : α)

variable {α : Type} {d : Delimiters α} {reserved : α}

namespace Token

def value : Token d reserved → α
  | .plain a _ _ => a
  | .escaped a => a

def symbols : Token d reserved → List α
  | .plain a _ _ => [a]
  | .escaped a => [d.escape, a]

@[simp]
theorem value_plain (a : α) (h1 : a ≠ reserved) (h2 : a ≠ d.escape)
    : (Token.plain a h1 h2).value = a := rfl

@[simp]
theorem value_escaped (a : α) : (Token.escaped a : Token d reserved).value = a := rfl

@[simp]
theorem symbols_plain (a : α) (h1 : a ≠ reserved) (h2 : a ≠ d.escape)
    : (Token.plain a h1 h2).symbols = [a] := rfl

@[simp]
theorem symbols_escaped (a : α) : (Token.escaped a : Token d reserved).symbols = [d.escape, a] := rfl

end Token

def values (tokens : List (Token d reserved)) : List α :=
  tokens.map Token.value

def symbols (tokens : List (Token d reserved)) : List α :=
  tokens.flatMap Token.symbols

@[simp]
theorem values_nil : values ([] : List (Token d reserved)) = [] := rfl

@[simp]
theorem values_cons (t : Token d reserved) (ts : List (Token d reserved))
    : values (t :: ts) = t.value :: values ts := rfl

@[simp]
theorem values_append (ts us : List (Token d reserved))
    : values (ts ++ us) = values ts ++ values us := by
  simp [values]

@[simp]
theorem symbols_nil : symbols ([] : List (Token d reserved)) = [] := rfl

@[simp]
theorem symbols_cons (t : Token d reserved) (ts : List (Token d reserved))
    : symbols (t :: ts) = t.symbols ++ symbols ts := rfl

@[simp]
theorem symbols_append (ts us : List (Token d reserved))
    : symbols (ts ++ us) = symbols ts ++ symbols us := by
  simp [symbols]

section Stuff

variable [DecidableEq α]

/-
The token that carries `a` inside a frame: control symbols go behind an escape.
-/
def stuffOne (d : Delimiters α) (a : α) : Token d d.stop :=
  if h : a = d.start ∨ a = d.stop ∨ a = d.escape then
    .escaped a
  else
    .plain a (fun heq => h (Or.inr (Or.inl heq))) (fun heq => h (Or.inr (Or.inr heq)))

def stuff (d : Delimiters α) (payload : List α) : List (Token d d.stop) :=
  payload.map (stuffOne d)

theorem stuffOne_of_control {a : α} (h : a = d.start ∨ a = d.stop ∨ a = d.escape)
    : stuffOne d a = .escaped a := by
  unfold stuffOne
  simp [h]

theorem stuffOne_of_not_control {a : α} (h : ¬ (a = d.start ∨ a = d.stop ∨ a = d.escape))
    : (stuffOne d a).symbols = [a] := by
  unfold stuffOne
  simp [h]

theorem symbols_stuff_cons (a : α) (payload : List α)
    : symbols (stuff d (a :: payload)) = (stuffOne d a).symbols ++ symbols (stuff d payload) := rfl

theorem symbols_stuff_cons_of_control {a : α} (h : a = d.start ∨ a = d.stop ∨ a = d.escape)
    (payload : List α)
    : symbols (stuff d (a :: payload)) = d.escape :: a :: symbols (stuff d payload) := by
  rw [symbols_stuff_cons, stuffOne_of_control h]
  rfl

theorem symbols_stuff_cons_of_not_control {a : α}
    (h : ¬ (a = d.start ∨ a = d.stop ∨ a = d.escape)) (payload : List α)
    : symbols (stuff d (a :: payload)) = a :: symbols (stuff d payload) := by
  rw [symbols_stuff_cons, stuffOne_of_not_control h]
  rfl

@[simp]
theorem value_stuffOne (a : α) : (stuffOne d a).value = a := by
  unfold stuffOne
  split
  . simp
  . simp

@[simp]
theorem values_stuff (payload : List α) : values (stuff d payload) = payload := by
  induction payload with
  | nil => rfl
  | cons a payload ih =>
    change (stuffOne d a).value :: values (stuff d payload) = a :: payload
    rw [ih]
    simp

/-
Removes every escape symbol that protects another symbol; `pending` says that one has just been
read.
-/
def unstuff (d : Delimiters α) (pending : Bool) : List α → List α
  | [] => []
  | a :: as =>
    if pending then
      a :: unstuff d false as
    else if a = d.escape then
      unstuff d true as
    else
      a :: unstuff d false as

theorem unstuff_symbols_append (ts : List (Token d reserved)) (rest : List α)
    : unstuff d false (symbols ts ++ rest) = values ts ++ unstuff d false rest := by
  induction ts with
  | nil => simp
  | cons t ts ih =>
    cases t with
    | plain a h1 h2 =>
      simp only [symbols_cons, Token.symbols_plain, List.cons_append, values_cons,
        Token.value_plain]
      rw [unstuff]
      simp [h2, ih]
    | escaped a =>
      simp only [symbols_cons, Token.symbols_escaped, List.cons_append, List.nil_append,
        values_cons, Token.value_escaped]
      rw [unstuff]
      simp only [Bool.false_eq_true, ↓reduceIte]
      rw [unstuff]
      simp [ih]

@[simp]
theorem unstuff_symbols (ts : List (Token d reserved)) : unstuff d false (symbols ts) = values ts := by
  have := unstuff_symbols_append ts []
  simpa [unstuff] using this

def pendingAfter (d : Delimiters α) (pending : Bool) : List α → Bool
  | [] => pending
  | a :: as => pendingAfter d (decide (a = d.escape) && !pending) as

theorem pendingAfter_symbols_append (ts : List (Token d reserved)) (rest : List α)
    : pendingAfter d false (symbols ts ++ rest) = pendingAfter d false rest := by
  induction ts with
  | nil => rfl
  | cons t ts ih =>
    cases t with
    | plain a h1 h2 => simp [pendingAfter, h2, ih]
    | escaped a => simp [pendingAfter, ih]

theorem eq_symbols_stuff_of_prefix {payload cut : List α} (h : cut <+: symbols (stuff d payload))
    : ∃ sent, cut = symbols (stuff d sent) ∨ cut = symbols (stuff d sent) ++ [d.escape] := by
  induction payload generalizing cut with
  | nil => exact ⟨[], .inl (List.prefix_nil.mp h)⟩
  | cons a payload ih =>
    by_cases hControl : a = d.start ∨ a = d.stop ∨ a = d.escape
    . rw [symbols_stuff_cons_of_control hControl, List.prefix_cons_iff] at h
      rcases h with hNil | ⟨rest, hCut, hRest⟩
      . exact ⟨[], .inl hNil⟩
      . rw [List.prefix_cons_iff] at hRest
        rcases hRest with hNil | ⟨more, hEscaped, hMore⟩
        . exact ⟨[], .inr (by rw [hCut, hNil]; rfl)⟩
        . rcases ih hMore with ⟨sent, hSent⟩
          refine ⟨a :: sent, ?_⟩
          rw [symbols_stuff_cons_of_control hControl, hCut, hEscaped]
          simpa using hSent
    . rw [symbols_stuff_cons_of_not_control hControl, List.prefix_cons_iff] at h
      rcases h with hNil | ⟨rest, hCut, hRest⟩
      . exact ⟨[], .inl hNil⟩
      . rcases ih hRest with ⟨sent, hSent⟩
        refine ⟨a :: sent, ?_⟩
        rw [symbols_stuff_cons_of_not_control hControl, hCut]
        simpa using hSent

end Stuff

end Stuffing
