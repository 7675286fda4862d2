import Mathlib.Data.List.Forall2
import Mathlib.Data.List.Induction
import Mathlib.Data.List.Perm.Basic

/-!
This module contains the latest value that a list supplies, where an element may supply none, and when the
order of the list does not matter for it.
-/

namespace Enody

variable {α β : Type}

def latest (f : α → Option β) (l : List α) : Option β :=
  l.reverse.findSome? f

def Unanimous (f : α → Option β) (l : List α) : Prop :=
  ∀ x ∈ l, ∀ y ∈ l, ∀ a b, f x = some a → f y = some b → a = b

variable {f : α → Option β} {l m : List α} {x : α} {b : β}

@[simp]
theorem latest_nil : latest f [] = none := rfl

@[simp]
theorem latest_concat : latest f (l ++ [x]) = (f x).or (latest f l) := by
  unfold latest
  rw [List.reverse_append, List.reverse_singleton, List.singleton_append, List.findSome?_cons]
  cases f x with
  | none => rfl
  | some b => rfl

theorem latest_cons : latest f (x :: l) = (latest f l).or (f x) := by
  unfold latest
  rw [List.reverse_cons, List.findSome?_append, List.findSome?_singleton]

theorem latest_eq_none_iff : latest f l = none ↔ ∀ x ∈ l, f x = none := by
  simp [latest, List.findSome?_eq_none_iff]

theorem latest_congr {g : α → Option β} (h : ∀ x ∈ l, f x = g x) : latest f l = latest g l := by
  induction l using List.reverseRecOn with
  | nil => rfl
  | append_singleton l last ih =>
    rw [latest_concat, latest_concat, h last (by simp), ih fun x hMem => h x (List.mem_append_left _ hMem)]

theorem exists_of_latest (h : latest f l = some b) : ∃ x ∈ l, f x = some b := by
  rcases List.exists_of_findSome?_eq_some h with ⟨x, hMem, hValue⟩
  exact ⟨x, List.mem_reverse.mp hMem, hValue⟩

theorem latest_of_mem (hSame : Unanimous f l) (hMem : x ∈ l) (hValue : f x = some b)
    : latest f l = some b := by
  cases hLatest : latest f l with
  | none =>
    rw [latest_eq_none_iff.mp hLatest x hMem] at hValue
    contradiction
  | some c =>
    rcases exists_of_latest hLatest with ⟨y, hY, hC⟩
    rw [hSame y hY x hMem c b hC hValue]

def Supplies (f : α → Option β) (l m : List α) : Prop :=
  ∀ x ∈ l, ∀ b, f x = some b → ∃ y ∈ m, f y = some b

theorem Unanimous.of_supplies (hSame : Unanimous f l) (hSupplies : Supplies f m l)
    : Unanimous f m := by
  intro x hX y hY a b hA hB
  rcases hSupplies x hX a hA with ⟨x', hX', hA'⟩
  rcases hSupplies y hY b hB with ⟨y', hY', hB'⟩
  exact hSame x' hX' y' hY' a b hA' hB'

theorem latest_eq_of_supplies (hSame : Unanimous f l) (hForth : Supplies f l m) (hBack : Supplies f m l)
    : latest f m = latest f l := by
  cases hLatest : latest f l with
  | none =>
    rw [latest_eq_none_iff] at hLatest ⊢
    intro y hY
    cases hValue : f y with
    | none => rfl
    | some b =>
      rcases hBack y hY b hValue with ⟨x, hX, hB⟩
      rw [hLatest x hX] at hB
      contradiction
  | some b =>
    rcases exists_of_latest hLatest with ⟨x, hX, hB⟩
    rcases hForth x hX b hB with ⟨y, hY, hValue⟩
    exact latest_of_mem (hSame.of_supplies hBack) hY hValue

theorem exists_perm_concat (hMem : x ∈ l) : ∃ m, (m ++ [x]).Perm l := by
  rcases List.append_of_mem hMem with ⟨before, after, hSplit⟩
  refine ⟨before ++ after, ?_⟩
  rw [hSplit, List.append_assoc]
  exact List.Perm.append_left before (List.perm_append_singleton x after)

theorem unanimous_of_perm (h : ∀ m, m.Perm l → latest f m = latest f l) : Unanimous f l := by
  intro x hX y hY a b hA hB
  rcases exists_perm_concat hX with ⟨m, hM⟩
  rcases exists_perm_concat hY with ⟨n, hN⟩
  have hFirst := h _ hM
  have hSecond := h _ hN
  rw [latest_concat, hA, Option.some_or] at hFirst
  rw [latest_concat, hB, Option.some_or, ← hFirst] at hSecond
  injection hSecond with hSame
  exact hSame.symm

theorem exists_of_forall₂_left {γ : Type} {R : α → γ → Prop} {n : List γ}
    (h : List.Forall₂ R l n) (hMem : x ∈ l)
    : ∃ y ∈ n, R x y := by
  induction h with
  | nil => contradiction
  | cons hRel _ ih =>
    rcases List.mem_cons.mp hMem with hEq | hMem
    . exact ⟨_, List.mem_cons_self, hEq ▸ hRel⟩
    . rcases ih hMem with ⟨y, hY, hRel⟩
      exact ⟨y, List.mem_cons_of_mem _ hY, hRel⟩

theorem forall₂_mem {γ : Type} {R : α → γ → Prop} {n : List γ} (h : List.Forall₂ R l n)
    : List.Forall₂ (fun x y => R x y ∧ x ∈ l ∧ y ∈ n) l n := by
  induction h with
  | nil => exact .nil
  | cons hRel _ ih =>
    refine .cons ⟨hRel, List.mem_cons_self, List.mem_cons_self⟩ (ih.imp ?_)
    rintro x y ⟨hRel, hX, hY⟩
    exact ⟨hRel, List.mem_cons_of_mem _ hX, List.mem_cons_of_mem _ hY⟩

theorem rel_or {γ : Type} {S : β → γ → Prop} {a b : Option β} {c d : Option γ} (h : Option.Rel S a c)
    (hElse : Option.Rel S b d)
    : Option.Rel S (a.or b) (c.or d) := by
  cases h with
  | none => exact hElse
  | some hSome => exact .some hSome

theorem latest_rel {γ δ : Type} {S : β → δ → Prop} {g : γ → Option δ} {n : List γ}
    (h : List.Forall₂ (fun x y => Option.Rel S (f x) (g y)) l n)
    : Option.Rel S (latest f l) (latest g n) := by
  induction h with
  | nil => exact .none
  | cons hRel _ ih =>
    rw [latest_cons, latest_cons]
    exact rel_or ih hRel

theorem latest_rel_of_mem {γ δ : Type} {R : α → γ → Prop} {S : β → δ → Prop} {g : γ → Option δ}
    {n : List γ} (h : List.Forall₂ R l n)
    (hRel : ∀ x y, R x y → x ∈ l → y ∈ n → Option.Rel S (f x) (g y))
    : Option.Rel S (latest f l) (latest g n) := by
  apply latest_rel
  apply (forall₂_mem h).imp
  rintro x y ⟨hXY, hX, hY⟩
  exact hRel x y hXY hX hY

end Enody
