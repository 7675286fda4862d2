import Enody.Presence.Replay
import Mathlib.Algebra.Group.Nat.Even

/-!
This module contains observers that compare two snapshots of a set and report the difference, and what is
left of their reports when some of them are refused and never repeated. Whether a key is replayed rightly
depends on the parity of the refusals since its last accepted report.
-/

namespace Presence

variable {κ : Type}

structure Attempt (κ : Type) where
  change : Change κ
  accepted : Bool
  deriving DecidableEq

def tried (attempts : List (Attempt κ)) : List (Change κ) :=
  attempts.map Attempt.change

def acceptedChanges (attempts : List (Attempt κ)) : List (Change κ) :=
  (attempts.filter Attempt.accepted).map Attempt.change

section LostInARow

variable [DecidableEq κ]

def countLost (key : κ) (lost : Nat) (attempt : Attempt κ) : Nat :=
  if attempt.change.key = key then
    if attempt.accepted then 0 else lost + 1
  else
    lost

/-
How many changes of the key have been refused since the last one that was accepted.
-/
def lostInARow (key : κ) (attempts : List (Attempt κ)) : Nat :=
  attempts.foldl (countLost key) 0

end LostInARow

variable {present current : Set κ} {attempts : List (Attempt κ)} {attempt : Attempt κ} {key : κ}

@[simp]
theorem tried_append_singleton
    : tried (attempts ++ [attempt]) = tried attempts ++ [attempt.change] := by
  unfold tried
  rw [List.map_append, List.map_singleton]

theorem acceptedChanges_append_accepted (h : attempt.accepted = true)
    : acceptedChanges (attempts ++ [attempt]) = acceptedChanges attempts ++ [attempt.change] := by
  unfold acceptedChanges
  rw [List.filter_append, List.filter_cons_of_pos h, List.filter_nil, List.map_append,
    List.map_singleton]

theorem acceptedChanges_append_lost (h : attempt.accepted = false)
    : acceptedChanges (attempts ++ [attempt]) = acceptedChanges attempts := by
  unfold acceptedChanges
  rw [List.filter_append, List.filter_cons_of_neg (by simp [h]), List.filter_nil, List.append_nil]

theorem mem_replay_append_singleton {change : Change κ} {log : List (Change κ)}
    : key ∈ replay present (log ++ [change]) ↔ key ∈ change.apply (replay present log) := by
  rw [replay_append]
  rfl

section LostInARow

variable [DecidableEq κ]

@[simp]
theorem lostInARow_append_singleton
    : lostInARow key (attempts ++ [attempt]) = countLost key (lostInARow key attempts) attempt := by
  unfold lostInARow
  rw [List.foldl_append]
  rfl

theorem mem_replay_acceptedChanges_iff (hStrict : Strict present (tried attempts))
    : (key ∈ replay present (acceptedChanges attempts) ↔ key ∈ replay present (tried attempts))
        ↔
      Even (lostInARow key attempts) := by
  induction attempts using List.reverseRecOn with
  | nil => simp [acceptedChanges, tried, lostInARow]
  | append_singleton attempts attempt ih =>
    rw [tried_append_singleton, strict_append, strict_singleton] at hStrict
    rcases hStrict with ⟨hStrict, hFits⟩
    have ih := ih hStrict
    rw [tried_append_singleton, lostInARow_append_singleton, mem_replay_append_singleton]
    unfold countLost
    by_cases hKey : attempt.change.key = key
    . rw [if_pos hKey]
      subst hKey
      cases hAccepted : attempt.accepted with
      | true =>
        rw [acceptedChanges_append_accepted hAccepted, mem_replay_append_singleton, mem_apply_self,
          mem_apply_self]
        simp
      | false =>
        rw [acceptedChanges_append_lost hAccepted, mem_apply_self, if_neg (by simp),
          Nat.even_add_one, ← ih]
        -- a change that fits turns its key around
        rw [fits_iff] at hFits
        cases hEnter : attempt.change.isEnter with
        | true =>
          have hAbsent : attempt.change.key ∉ replay present (tried attempts) := by
            simpa [hEnter] using hFits
          simp [hAbsent]
        | false =>
          have hPresent : attempt.change.key ∈ replay present (tried attempts) := by
            simpa [hEnter] using hFits
          simp [hPresent]
    . rw [if_neg hKey, mem_apply_of_ne hKey, ← ih]
      cases hAccepted : attempt.accepted with
      | true =>
        rw [acceptedChanges_append_accepted hAccepted, mem_replay_append_singleton,
          mem_apply_of_ne hKey]
      | false => rw [acceptedChanges_append_lost hAccepted]

theorem replay_acceptedChanges_iff (hStrict : Strict present (tried attempts))
    : replay present (acceptedChanges attempts) = replay present (tried attempts)
        ↔
      ∀ key, Even (lostInARow key attempts) := by
  rw [Set.ext_iff]
  apply forall_congr'
  intro key
  exact mem_replay_acceptedChanges_iff hStrict

theorem lostInARow_eq_zero (hAccepted : ∀ attempt ∈ attempts, attempt.accepted = true)
    : lostInARow key attempts = 0 := by
  induction attempts using List.reverseRecOn with
  | nil => rfl
  | append_singleton attempts attempt ih =>
    rw [lostInARow_append_singleton, ih (fun other hMem => hAccepted other (by simp [hMem]))]
    unfold countLost
    rw [hAccepted attempt (by simp)]
    simp

end LostInARow

/--
What is reported when the set was `present` and now is `current`.
-/
structure Difference (present current : Set κ) (entered left : List κ) : Prop where
  nodupEntered : entered.Nodup
  nodupLeft : left.Nodup
  mem_entered : ∀ key, key ∈ entered ↔ key ∈ current ∧ key ∉ present
  mem_left : ∀ key, key ∈ left ↔ key ∈ present ∧ key ∉ current

namespace Difference

variable {entered left : List κ}

theorem strict (h : Difference present current entered left)
    : Strict present (entered.map .enter ++ left.map .leave) := by
  rw [strict_append]
  constructor
  . apply strict_enters h.nodupEntered
    intro key hKey
    exact ((h.mem_entered key).mp hKey).right
  . apply strict_leaves h.nodupLeft
    intro key hKey
    rw [mem_replay_enters]
    exact .inl ((h.mem_left key).mp hKey).left

theorem replay (h : Difference present current entered left)
    : replay present (entered.map .enter ++ left.map .leave) = current := by
  ext key
  rw [replay_append, mem_replay_leaves, mem_replay_enters, h.mem_entered, h.mem_left]
  by_cases hPresent : key ∈ present
  . simp [hPresent]
  . simp [hPresent]

theorem eq_nil (h : Difference present present entered left) : entered = [] ∧ left = [] := by
  constructor
  . rw [List.eq_nil_iff_forall_not_mem]
    intro key hKey
    exact ((h.mem_entered key).mp hKey).right ((h.mem_entered key).mp hKey).left
  . rw [List.eq_nil_iff_forall_not_mem]
    intro key hKey
    exact ((h.mem_left key).mp hKey).right ((h.mem_left key).mp hKey).left

end Difference

end Presence
