import Enody.Stuffing.Basic
import Mathlib.Data.List.Induction

/-!
This module contains the reference reading of a stuffed stream from left to right: whole gap tokens,
whole frames, and at most one unfinished piece at the end. Every sequence of symbols has exactly one
such reading, and it can be extended one symbol at a time.
-/

namespace Stuffing

/--
A finished piece of the stream. Outside of a frame only the start symbol is reserved, inside only
the stop symbol is.
-/
inductive Item {α : Type} (d : Delimiters α) where
  | gap (token : Token d d.start)
  | frame (body : List (Token d d.stop))

/--
The unfinished piece at the end of the stream. `cut` says that the frame ends in an escape symbol
whose protected symbol is missing.
-/
inductive Tail {α : Type} (d : Delimiters α) where
  | done
  | openEscape
  | openFrame (body : List (Token d d.stop)) (cut : Bool)

structure Decomposition {α : Type} (d : Delimiters α) where
  items : List (Item d)
  tail : Tail d

variable {α : Type} {d : Delimiters α}

namespace Item

def symbols : Item d → List α
  | .gap token => token.symbols
  | .frame body => d.start :: (Stuffing.symbols body ++ [d.stop])

def payload? : Item d → Option (List α)
  | .gap _ => none
  | .frame body => some (values body)

def outputs : Item d → List (Option (List α))
  | .gap token => token.symbols.map (fun _ => none)
  | .frame body => none :: ((Stuffing.symbols body).map (fun _ => none) ++ [some (values body)])

end Item

namespace Tail

def symbols : Tail d → List α
  | .done => []
  | .openEscape => [d.escape]
  | .openFrame body cut => d.start :: (Stuffing.symbols body ++ if cut then [d.escape] else [])

def outputs (tail : Tail d) : List (Option (List α)) :=
  tail.symbols.map (fun _ => none)

end Tail

namespace Decomposition

def empty : Decomposition d := ⟨[], .done⟩

def symbols (D : Decomposition d) : List α :=
  D.items.flatMap Item.symbols ++ D.tail.symbols

def payloads (D : Decomposition d) : List (List α) :=
  D.items.filterMap Item.payload?

def outputs (D : Decomposition d) : List (Option (List α)) :=
  D.items.flatMap Item.outputs ++ D.tail.outputs

def snocItem (D : Decomposition d) (item : Item d) : Decomposition d :=
  ⟨D.items ++ [item], .done⟩

theorem reduceOption_outputs (D : Decomposition d) : D.outputs.filterMap id = D.payloads := by
  have hNone (symbols : List α)
      : (symbols.map (fun _ => (none : Option (List α)))).filterMap id = [] := by
    simp
  have hItem (item : Item d) : item.outputs.filterMap id = item.payload?.toList := by
    cases item with
    | gap token => simp [Item.outputs, Item.payload?]
    | frame body => simp [Item.outputs, Item.payload?, List.filterMap_append]
  unfold outputs payloads Tail.outputs
  rw [List.filterMap_append]
  rw [hNone]
  simp only [List.append_nil]
  induction D.items with
  | nil => rfl
  | cons item items ih =>
    rw [List.flatMap_cons]
    rw [List.filterMap_append]
    rw [hItem, ih]
    cases h : item.payload? with
    | none => simp [h]
    | some payload => simp [h]

section Push

variable [DecidableEq α]

def push (D : Decomposition d) (a : α) : Decomposition d :=
  match D.tail with
  | .done =>
    if hs : a = d.start then
      ⟨D.items, .openFrame [] false⟩
    else if h : a = d.escape then
      ⟨D.items, .openEscape⟩
    else
      D.snocItem (.gap (.plain a hs h))
  | .openEscape => D.snocItem (.gap (.escaped a))
  | .openFrame body true => ⟨D.items, .openFrame (body ++ [.escaped a]) false⟩
  | .openFrame body false =>
    if hs : a = d.stop then
      D.snocItem (.frame body)
    else if h : a = d.escape then
      ⟨D.items, .openFrame body true⟩
    else
      ⟨D.items, .openFrame (body ++ [.plain a hs h]) false⟩

/-
The payload of the frame that the symbol `a` completes, if it completes one.
-/
def completed (D : Decomposition d) (a : α) : Option (List α) :=
  match D.tail with
  | .openFrame body false => if a = d.stop then some (values body) else none
  | _ => none

/--
The decomposition of a stream, read symbol by symbol.
-/
def decompose (as : List α) : Decomposition d :=
  as.foldl push empty

/-
What a reader that has read `D` so far emits at each of the following symbols.
-/
def completions (D : Decomposition d) : List α → List (Option (List α))
  | [] => []
  | a :: as => D.completed a :: completions (D.push a) as

@[simp]
theorem decompose_nil : decompose ([] : List α) = (empty : Decomposition d) := rfl

theorem decompose_append (as : List α) (a : α)
    : decompose (as ++ [a]) = (decompose as : Decomposition d).push a := by
  simp [decompose]

theorem push_start (items : List (Item d))
    : (⟨items, .done⟩ : Decomposition d).push d.start = ⟨items, .openFrame [] false⟩ := by
  simp [push]

theorem push_escape (items : List (Item d))
    : (⟨items, .done⟩ : Decomposition d).push d.escape = ⟨items, .openEscape⟩ := by
  simp [push, d.start_ne_escape.symm]

theorem push_stop (items : List (Item d)) (body : List (Token d d.stop))
    : (⟨items, .openFrame body false⟩ : Decomposition d).push d.stop
        =
      ⟨items ++ [.frame body], .done⟩ := by
  simp [push, snocItem]

theorem symbols_push (D : Decomposition d) (a : α) : (D.push a).symbols = D.symbols ++ [a] := by
  rcases D with ⟨items, tail⟩
  cases tail with
  | done =>
    simp only [push]
    split
    . next hs => simp [symbols, Tail.symbols, hs]
    . split
      . next h => simp [symbols, Tail.symbols, h]
      . simp [symbols, snocItem, Tail.symbols, Item.symbols]
  | openEscape => simp [push, symbols, snocItem, Tail.symbols, Item.symbols]
  | openFrame body cut =>
    cases cut with
    | true => simp [push, symbols, Tail.symbols]
    | false =>
      simp only [push]
      split
      . next hs => simp [symbols, snocItem, Tail.symbols, Item.symbols, hs]
      . split
        . next h => simp [symbols, Tail.symbols, h]
        . simp [symbols, Tail.symbols]

theorem outputs_push (D : Decomposition d) (a : α)
    : (D.push a).outputs = D.outputs ++ [D.completed a] := by
  rcases D with ⟨items, tail⟩
  cases tail with
  | done =>
    simp only [push]
    split
    . simp [outputs, completed, Tail.outputs, Tail.symbols]
    . split
      . simp [outputs, completed, Tail.outputs, Tail.symbols]
      . simp [outputs, completed, snocItem, Tail.outputs, Tail.symbols, Item.outputs]
  | openEscape =>
    simp [push, outputs, completed, snocItem, Tail.outputs, Tail.symbols, Item.outputs]
  | openFrame body cut =>
    cases cut with
    | true => simp [push, outputs, completed, Tail.outputs, Tail.symbols]
    | false =>
      simp only [push]
      split
      . next hs =>
        simp [outputs, completed, snocItem, Tail.outputs, Tail.symbols, Item.outputs, hs]
      . next hs =>
        split
        . simp [outputs, completed, Tail.outputs, Tail.symbols, hs]
        . simp [outputs, completed, Tail.outputs, Tail.symbols, hs]

theorem outputs_foldl_push (D : Decomposition d) (as : List α)
    : (as.foldl push D).outputs = D.outputs ++ D.completions as := by
  induction as generalizing D with
  | nil => simp [completions]
  | cons a as ih =>
    rw [List.foldl_cons]
    rw [ih]
    rw [outputs_push]
    simp [completions]

theorem length_tail_push_le (D : Decomposition d) (a : α)
    : (D.push a).tail.symbols.length ≤ D.tail.symbols.length + 1 := by
  -- the stream grows by one symbol, and no finished item is lost
  have hTotal : ((D.push a).symbols).length = D.symbols.length + 1 := by
    simp [symbols_push]
  have hItems : (D.items.flatMap Item.symbols).length
      ≤ ((D.push a).items.flatMap Item.symbols).length := by
    unfold push
    split
    . split
      . simp
      . split <;> simp [snocItem]
    . simp [snocItem]
    . simp
    . split
      . simp [snocItem]
      . split <;> simp
  simp only [symbols, List.length_append] at hTotal
  omega

@[simp]
theorem symbols_decompose (as : List α) : (decompose as : Decomposition d).symbols = as := by
  induction as using List.reverseRecOn with
  | nil => rfl
  | append_singleton as a ih =>
    rw [decompose_append]
    rw [symbols_push]
    rw [ih]

theorem foldl_push_body (items : List (Item d)) (body ts : List (Token d d.stop))
    : (Stuffing.symbols ts).foldl push (⟨items, .openFrame body false⟩ : Decomposition d)
        =
      ⟨items, .openFrame (body ++ ts) false⟩ := by
  induction ts generalizing body with
  | nil => simp
  | cons t ts ih =>
    rw [symbols_cons]
    rw [List.foldl_append]
    have hToken : t.symbols.foldl push (⟨items, .openFrame body false⟩ : Decomposition d)
        = ⟨items, .openFrame (body ++ [t]) false⟩ := by
      cases t with
      | plain a h1 h2 => simp [push, h1, h2]
      | escaped a => simp [push, d.stop_ne_escape.symm]
    rw [hToken]
    rw [ih]
    simp

theorem foldl_push_item (items : List (Item d)) (item : Item d)
    : item.symbols.foldl push (⟨items, .done⟩ : Decomposition d) = ⟨items ++ [item], .done⟩ := by
  cases item with
  | gap token =>
    cases token with
    | plain a h1 h2 => simp [Item.symbols, push, snocItem, h1, h2]
    | escaped a => simp [Item.symbols, push, snocItem, d.start_ne_escape.symm]
  | frame body =>
    unfold Item.symbols
    rw [List.foldl_cons, List.foldl_append]
    rw [push_start]
    rw [foldl_push_body]
    simp [push_stop]

theorem completions_item (items : List (Item d)) (item : Item d)
    : (⟨items, .done⟩ : Decomposition d).completions item.symbols = item.outputs := by
  -- reading the item finishes it, so its outputs are all that is added
  have h := outputs_foldl_push (⟨items, .done⟩ : Decomposition d) item.symbols
  rw [foldl_push_item] at h
  simpa [outputs, Tail.outputs, Tail.symbols] using h.symm

theorem foldl_push_items (items more : List (Item d))
    : (more.flatMap Item.symbols).foldl push (⟨items, .done⟩ : Decomposition d)
        =
      ⟨items ++ more, .done⟩ := by
  induction more generalizing items with
  | nil => simp
  | cons item more ih =>
    rw [List.flatMap_cons]
    rw [List.foldl_append]
    rw [foldl_push_item]
    rw [ih]
    simp

theorem foldl_push_tail (items : List (Item d)) (tail : Tail d)
    : tail.symbols.foldl push (⟨items, .done⟩ : Decomposition d) = ⟨items, tail⟩ := by
  cases tail with
  | done => rfl
  | openEscape => simp [Tail.symbols, push_escape]
  | openFrame body cut =>
    unfold Tail.symbols
    rw [List.foldl_cons, List.foldl_append]
    rw [push_start]
    rw [foldl_push_body]
    cases cut with
    | true => simp [push, d.stop_ne_escape.symm]
    | false => simp

@[simp]
theorem decompose_symbols (D : Decomposition d) : decompose D.symbols = D := by
  rcases D with ⟨items, tail⟩
  unfold decompose symbols empty
  rw [List.foldl_append]
  rw [foldl_push_items]
  rw [foldl_push_tail]
  simp

theorem symbols_eq_iff (D : Decomposition d) (as : List α) : D.symbols = as ↔ D = decompose as := by
  constructor
  . intro h
    rw [← h]
    simp
  . intro h
    simp [h]

end Push

end Decomposition

section Body

variable [DecidableEq α]

/-
Whether the symbols are the body of a frame: the stop symbol only occurs behind an escape symbol, and every
escape symbol protects one. `pending` says that one has just been read.
-/
def isBody (d : Delimiters α) (pending : Bool) : List α → Bool
  | [] => !pending
  | a :: as => (pending || a ≠ d.stop) && isBody d (decide (a = d.escape) && !pending) as

theorem isBody_symbols_append (body : List (Token d d.stop)) (rest : List α)
    : isBody d false (symbols body ++ rest) = isBody d false rest := by
  induction body with
  | nil => rfl
  | cons t ts ih =>
    cases t with
    | plain a h1 h2 => simp [isBody, h1, h2, ih]
    | escaped a => simp [isBody, d.stop_ne_escape.symm, ih]

@[simp]
theorem isBody_symbols (body : List (Token d d.stop)) : isBody d false (symbols body) = true := by
  have h := isBody_symbols_append body []
  rw [List.append_nil] at h
  exact h

theorem isBody_escape (body : List (Token d d.stop))
    : isBody d false (symbols body ++ [d.escape]) = false := by
  rw [isBody_symbols_append]
  simp [isBody]

theorem isBody_stop (body : List (Token d d.stop)) (rest : List α)
    : isBody d false (symbols body ++ d.stop :: rest) = false := by
  rw [isBody_symbols_append]
  simp [isBody]

theorem exists_body (as : List α)
    : ∃ body : List (Token d d.stop),
        as = symbols body ∨ as = symbols body ++ [d.escape] ∨ ∃ rest, as = symbols body ++ d.stop :: rest := by
  induction as using List.reverseRecOn with
  | nil => exact ⟨[], .inl rfl⟩
  | append_singleton as a ih =>
    rcases ih with ⟨body, hBody | hEscape | ⟨rest, hStop⟩⟩
    . by_cases hs : a = d.stop
      . exact ⟨body, .inr (.inr ⟨[], by rw [hBody, hs]⟩)⟩
      . by_cases h : a = d.escape
        . exact ⟨body, .inr (.inl (by rw [hBody, h]))⟩
        . refine ⟨body ++ [.plain a hs h], .inl ?_⟩
          rw [hBody, symbols_append]
          rfl
    . refine ⟨body ++ [.escaped a], .inl ?_⟩
      rw [hEscape, symbols_append, List.append_assoc]
      rfl
    . refine ⟨body, .inr (.inr ⟨rest ++ [a], ?_⟩)⟩
      rw [hStop, List.append_assoc]
      rfl

end Body

end Stuffing
