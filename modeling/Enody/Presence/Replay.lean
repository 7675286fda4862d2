import Mathlib.Data.List.Chain
import Mathlib.Data.Set.Insert

/-!
This module contains logs of arrivals and departures and the set they lead to. The set after a log, and
whether arrivals and departures alternate, depend only on the order of the changes of each key.
-/

namespace Presence

variable {κ : Type}

inductive Change (κ : Type) where
  | enter (key : κ)
  | leave (key : κ)
  deriving DecidableEq

def Change.key : Change κ → κ
  | enter key => key
  | leave key => key

def Change.map {α : Type} (f : α → κ) : Change α → Change κ
  | enter a => enter (f a)
  | leave a => leave (f a)

@[simp]
theorem Change.key_map {α : Type} (f : α → κ) (change : Change α)
    : (change.map f).key = f change.key := by
  cases change with
  | enter => rfl
  | leave => rfl

def Change.isEnter : Change κ → Bool
  | enter _ => true
  | leave _ => false

def Change.apply (present : Set κ) : Change κ → Set κ
  | enter key => insert key present
  | leave key => present \ {key}

def replay (present : Set κ) : List (Change κ) → Set κ
  | [] => present
  | change :: log => replay (change.apply present) log

def Change.Fits (present : Set κ) : Change κ → Prop
  | enter key => key ∉ present
  | leave key => key ∈ present

def Strict (present : Set κ) : List (Change κ) → Prop
  | [] => True
  | change :: log => change.Fits present ∧ Strict (change.apply present) log

def ofKey [DecidableEq κ] (key : κ) (log : List (Change κ)) : List (Change κ) :=
  log.filter fun change => change.key = key

variable {present : Set κ} {change : Change κ} {log more : List (Change κ)} {key : κ}

theorem replay_append : replay present (log ++ more) = replay (replay present log) more := by
  induction log generalizing present with
  | nil => rfl
  | cons change log ih =>
    simp only [List.cons_append, replay]
    exact ih

theorem strict_append
    : Strict present (log ++ more) ↔ Strict present log ∧ Strict (replay present log) more := by
  induction log generalizing present with
  | nil => simp [Strict, replay]
  | cons change log ih =>
    simp only [List.cons_append, Strict, replay, ih, and_assoc]

theorem strict_singleton : Strict present [change] ↔ change.Fits present := by
  simp [Strict]

theorem mem_apply_of_ne (h : change.key ≠ key) : key ∈ change.apply present ↔ key ∈ present := by
  cases change with
  | enter other =>
    simp only [Change.apply, Set.mem_insert_iff]
    constructor
    . rintro (hEq | hMem)
      . exact absurd hEq.symm h
      . exact hMem
    . exact .inr
  | leave other =>
    simp only [Change.apply, Set.mem_sdiff, Set.mem_singleton_iff]
    constructor
    . exact And.left
    . intro hMem
      exact ⟨hMem, Ne.symm h⟩

theorem mem_apply_self : change.key ∈ change.apply present ↔ change.isEnter = true := by
  cases change with
  | enter key => simp [Change.apply, Change.key, Change.isEnter]
  | leave key => simp [Change.apply, Change.key, Change.isEnter]

theorem fits_iff : change.Fits present ↔ (change.key ∈ present ↔ change.isEnter = false) := by
  cases change with
  | enter key => simp [Change.Fits, Change.key, Change.isEnter]
  | leave key => simp [Change.Fits, Change.key, Change.isEnter]

theorem strict_leaves {keys : List κ} (hNodup : keys.Nodup) (hMem : ∀ key ∈ keys, key ∈ present)
    : Strict present (keys.map .leave) := by
  induction keys generalizing present with
  | nil => trivial
  | cons first rest ih =>
    rw [List.nodup_cons] at hNodup
    rcases hNodup with ⟨hFirst, hRest⟩
    constructor
    . exact hMem first List.mem_cons_self
    . apply ih hRest
      intro key hKey
      rw [mem_apply_of_ne]
      . exact hMem key (List.mem_cons_of_mem _ hKey)
      . intro hEq
        change first = key at hEq
        rw [hEq] at hFirst
        contradiction

theorem mem_replay_leaves {keys : List κ}
    : key ∈ replay present (keys.map .leave) ↔ key ∈ present ∧ key ∉ keys := by
  induction keys generalizing present with
  | nil => simp [replay]
  | cons first rest ih =>
    simp only [List.map_cons, replay, ih, Change.apply, Set.mem_sdiff, Set.mem_singleton_iff,
      List.mem_cons, not_or, and_assoc]

theorem strict_enters {keys : List κ} (hNodup : keys.Nodup) (hMem : ∀ key ∈ keys, key ∉ present)
    : Strict present (keys.map .enter) := by
  induction keys generalizing present with
  | nil => trivial
  | cons first rest ih =>
    rw [List.nodup_cons] at hNodup
    rcases hNodup with ⟨hFirst, hRest⟩
    constructor
    . exact hMem first List.mem_cons_self
    . apply ih hRest
      intro key hKey
      rw [mem_apply_of_ne]
      . exact hMem key (List.mem_cons_of_mem _ hKey)
      . intro hEq
        change first = key at hEq
        rw [hEq] at hFirst
        contradiction

theorem mem_replay_enters {keys : List κ}
    : key ∈ replay present (keys.map .enter) ↔ key ∈ present ∨ key ∈ keys := by
  induction keys generalizing present with
  | nil => simp [replay]
  | cons first rest ih =>
    simp only [List.map_cons, replay, ih, Change.apply, Set.mem_insert_iff, List.mem_cons]
    rw [or_assoc, or_left_comm]

section OfKey

variable [DecidableEq κ]

theorem ofKey_append : ofKey key (log ++ more) = ofKey key log ++ ofKey key more := by
  unfold ofKey
  rw [List.filter_append]

theorem mem_replay_iff {present' : Set κ} (h : key ∈ present ↔ key ∈ present')
    : key ∈ replay present log ↔ key ∈ replay present' (ofKey key log) := by
  induction log generalizing present present' with
  | nil => exact h
  | cons change log ih =>
    by_cases hKey : change.key = key
    . rw [ofKey, List.filter_cons_of_pos (by simpa using hKey)]
      simp only [replay]
      apply ih
      rw [← hKey, mem_apply_self, mem_apply_self]
    . rw [ofKey, List.filter_cons_of_neg (by simpa using hKey)]
      simp only [replay]
      apply ih
      rw [mem_apply_of_ne hKey]
      exact h

theorem replay_eq_of_ofKey (h : ∀ key, ofKey key log = ofKey key more)
    : replay present log = replay present more := by
  ext key
  rw [mem_replay_iff (Iff.rfl : key ∈ present ↔ key ∈ present), h key,
    ← mem_replay_iff (Iff.rfl : key ∈ present ↔ key ∈ present)]

theorem strict_ofKey {present' : Set κ} (key : κ) (hStrict : Strict present log)
    (h : key ∈ present ↔ key ∈ present')
    : Strict present' (ofKey key log) := by
  induction log generalizing present present' with
  | nil => trivial
  | cons change log ih =>
    rcases hStrict with ⟨hFits, hRest⟩
    by_cases hKey : change.key = key
    . rw [ofKey, List.filter_cons_of_pos (by simpa using hKey)]
      constructor
      . rw [fits_iff, hKey] at hFits ⊢
        rw [← h]
        exact hFits
      . apply ih hRest
        rw [← hKey, mem_apply_self, mem_apply_self]
    . rw [ofKey, List.filter_cons_of_neg (by simpa using hKey)]
      apply ih hRest
      rw [mem_apply_of_ne hKey]
      exact h

theorem strict_of_ofKey (h : ∀ key, Strict present (ofKey key log)) : Strict present log := by
  induction log generalizing present with
  | nil => trivial
  | cons change log ih =>
    have hOwn := h change.key
    rw [ofKey, List.filter_cons_of_pos (by simp)] at hOwn
    constructor
    . exact hOwn.left
    . apply ih
      intro key
      -- the first change counts for its own key only
      by_cases hKey : change.key = key
      . rw [← hKey]
        exact hOwn.right
      . have hOther := h key
        rw [ofKey, List.filter_cons_of_neg (by simpa using hKey)] at hOther
        have hSame := strict_ofKey key hOther (mem_apply_of_ne hKey).symm
        unfold ofKey at hSame ⊢
        rw [List.filter_filter] at hSame
        simpa using hSame

theorem strict_congr (hStrict : Strict present log) (h : ∀ key, ofKey key log = ofKey key more)
    : Strict present more := by
  apply strict_of_ofKey
  intro key
  rw [← h key]
  exact strict_ofKey key hStrict Iff.rfl

theorem Strict.isChain (hStrict : Strict present log)
    : (ofKey key log).IsChain fun before after => before.isEnter ≠ after.isEnter := by
  have hOwn := strict_ofKey key hStrict Iff.rfl
  have hKeys : ∀ change ∈ ofKey key log, change.key = key := by
    intro change hMem
    unfold ofKey at hMem
    simpa using (List.mem_filter.mp hMem).right
  generalize ofKey key log = changes at hOwn hKeys
  clear hStrict
  induction changes generalizing present with
  | nil => exact .nil
  | cons first rest ih =>
    have hRest := ih hOwn.right (fun change hMem => hKeys change (List.mem_cons_of_mem _ hMem))
    cases rest with
    | nil => exact .singleton _
    | cons second rest =>
      refine .cons_cons ?_ hRest
      have hFits := hOwn.right.left
      have hSame : second.key = first.key := by
        rw [hKeys first List.mem_cons_self, hKeys second (List.mem_cons_of_mem _ List.mem_cons_self)]
      rw [fits_iff, hSame, mem_apply_self] at hFits
      intro hEq
      rw [hEq] at hFits
      cases hEnter : second.isEnter with
      | true => simp [hEnter] at hFits
      | false => simp [hEnter] at hFits

end OfKey

end Presence
