import Mathlib.Data.List.Dedup
import Mathlib.Data.List.Induction

/-!
This module contains the grouping of a list by a key that some of its elements have. The elements are
inserted one by one, each into the first group that has an element of its key. The groups are the elements of
one key each, in the order of the list, and stand in the order in which their keys occur first.
-/

namespace Grouping

variable {α κ : Type} [DecidableEq κ] (key : α → Option κ)

/-
The elements of one key, in the order of the list.
-/
def group (l : List α) (k : κ) : List α :=
  l.filter fun a => key a = some k

def firstKeys (l : List α) : List κ :=
  (l.filterMap key).reverse.dedup.reverse

def hasKey (k : κ) (elements : List α) : Bool :=
  elements.any fun a => key a = some k

def insertKey (k : κ) (a : α) : List (List α) → List (List α)
  | [] => [[a]]
  | first :: groups =>
    if hasKey key k first then
      (first ++ [a]) :: groups
    else
      first :: insertKey k a groups

def add (groups : List (List α)) (a : α) : List (List α) :=
  match key a with
  | none => groups
  | some k => insertKey key k a groups

variable {key} {l : List α} {a : α} {k : κ}

theorem mem_group : a ∈ group key l k ↔ a ∈ l ∧ key a = some k := by
  simp [group]

theorem group_append_singleton
    : group key (l ++ [a]) k = group key l k ++ if key a = some k then [a] else [] := by
  unfold group
  rw [List.filter_append, List.filter_singleton]
  simp

theorem nodup_firstKeys (key : α → Option κ) (l : List α) : (firstKeys key l).Nodup := by
  unfold firstKeys
  rw [List.nodup_reverse]
  exact List.nodup_dedup _

theorem mem_firstKeys : k ∈ firstKeys key l ↔ ∃ a ∈ l, key a = some k := by
  simp [firstKeys]

theorem firstKeys_of_none (h : key a = none) : firstKeys key (l ++ [a]) = firstKeys key l := by
  simp [firstKeys, h]

theorem firstKeys_of_mem (h : key a = some k) (hMem : k ∈ firstKeys key l)
    : firstKeys key (l ++ [a]) = firstKeys key l := by
  have hOld : k ∈ (l.filterMap key).reverse := by
    simpa [firstKeys] using hMem
  unfold firstKeys
  rw [List.filterMap_append, List.reverse_append]
  simp only [List.filterMap_cons, h, List.filterMap_nil, List.reverse_singleton, List.singleton_append]
  rw [List.dedup_cons_of_mem hOld]

theorem firstKeys_of_not_mem (h : key a = some k) (hNew : k ∉ firstKeys key l)
    : firstKeys key (l ++ [a]) = firstKeys key l ++ [k] := by
  have hOld : k ∉ (l.filterMap key).reverse := by
    simpa [firstKeys] using hNew
  unfold firstKeys
  rw [List.filterMap_append, List.reverse_append]
  simp only [List.filterMap_cons, h, List.filterMap_nil, List.reverse_singleton, List.singleton_append]
  rw [List.dedup_cons_of_notMem hOld, List.reverse_cons]

theorem hasKey_group {other : κ} (hMem : other ∈ firstKeys key l)
    : hasKey key k (group key l other) = true ↔ other = k := by
  unfold hasKey
  rw [List.any_eq_true]
  constructor
  . rintro ⟨a, hGroup, hKey⟩
    have hOther := (mem_group.mp hGroup).right
    rw [of_decide_eq_true hKey] at hOther
    injection hOther with hOther
    exact hOther.symm
  . intro hEq
    rcases mem_firstKeys.mp hMem with ⟨a, hList, hKey⟩
    refine ⟨a, mem_group.mpr ⟨hList, hKey⟩, decide_eq_true ?_⟩
    rw [hKey, hEq]

theorem map_group_of_not_mem {keys : List κ} (hKey : key a = some k) (hOther : k ∉ keys)
    : keys.map (group key (l ++ [a])) = keys.map (group key l) := by
  apply List.map_congr_left
  intro other hMem
  rw [group_append_singleton, if_neg, List.append_nil]
  intro hSame
  rw [hKey] at hSame
  injection hSame with hSame
  rw [hSame] at hOther
  exact hOther hMem

theorem insertKey_of_mem {keys : List κ} (hKey : key a = some k)
    (hKeys : ∀ other ∈ keys, other ∈ firstKeys key l) (hNodup : keys.Nodup) (hMem : k ∈ keys)
    : insertKey key k a (keys.map (group key l)) = keys.map (group key (l ++ [a])) := by
  induction keys with
  | nil => contradiction
  | cons first keys ih =>
    rw [List.nodup_cons] at hNodup
    rw [List.map_cons, List.map_cons, insertKey]
    by_cases hFirst : first = k
    . rw [if_pos ((hasKey_group (hKeys first List.mem_cons_self)).mpr hFirst),
        map_group_of_not_mem hKey (hFirst ▸ hNodup.left), group_append_singleton, hFirst, if_pos hKey]
    . have hSkipped : ¬ hasKey key k (group key l first) = true := by
        rw [hasKey_group (hKeys first List.mem_cons_self)]
        exact hFirst
      have hSame : ¬ key a = some first := by
        intro hSame
        rw [hKey] at hSame
        injection hSame with hSame
        exact hFirst hSame.symm
      rw [if_neg hSkipped, group_append_singleton, if_neg hSame, List.append_nil]
      rw [ih (fun other hOther => hKeys other (List.mem_cons_of_mem _ hOther)) hNodup.right]
      exact (List.mem_cons.mp hMem).resolve_left fun hEq => hFirst hEq.symm

theorem insertKey_of_not_mem {keys : List κ} (hKeys : ∀ other ∈ keys, other ∈ firstKeys key l)
    (hNew : k ∉ keys)
    : insertKey key k a (keys.map (group key l)) = keys.map (group key l) ++ [[a]] := by
  induction keys with
  | nil => rfl
  | cons first keys ih =>
    rw [List.mem_cons, not_or] at hNew
    have hSkipped : ¬ hasKey key k (group key l first) = true := by
      rw [hasKey_group (hKeys first List.mem_cons_self)]
      exact Ne.symm hNew.left
    rw [List.map_cons, insertKey, if_neg hSkipped,
      ih (fun other hOther => hKeys other (List.mem_cons_of_mem _ hOther)) hNew.right, List.cons_append]

/--
Inserting the elements one by one yields the group of each key, in the order in which the keys occur first.
-/
theorem foldl_add (key : α → Option κ) (l : List α)
    : l.foldl (add key) [] = (firstKeys key l).map (group key l) := by
  induction l using List.reverseRecOn with
  | nil => rfl
  | append_singleton l a ih =>
    rw [List.foldl_append, ih]
    simp only [List.foldl_cons, List.foldl_nil, add]
    split
    . next hNone =>
      rw [firstKeys_of_none hNone]
      apply List.map_congr_left
      intro other _
      rw [group_append_singleton, if_neg (by simp [hNone]), List.append_nil]
    . next k hKey =>
      by_cases hMem : k ∈ firstKeys key l
      . rw [firstKeys_of_mem hKey hMem]
        exact insertKey_of_mem hKey (fun _ h => h) (nodup_firstKeys key l) hMem
      . have hEmpty : group key l k = [] := by
          rw [List.eq_nil_iff_forall_not_mem]
          intro b hB
          exact hMem (mem_firstKeys.mpr ⟨b, mem_group.mp hB⟩)
        rw [firstKeys_of_not_mem hKey hMem, insertKey_of_not_mem (fun _ h => h) hMem, List.map_append,
          map_group_of_not_mem hKey hMem, List.map_singleton, group_append_singleton, hEmpty, if_pos hKey,
          List.nil_append]

def firstIndex (key : α → Option κ) (l : List α) (k : κ) : Nat :=
  l.findIdx fun a => key a = some k

theorem firstIndex_lt (hMem : k ∈ firstKeys key l) : firstIndex key l k < l.length := by
  rcases mem_firstKeys.mp hMem with ⟨a, hList, hKey⟩
  apply List.findIdx_lt_length_of_exists
  exact ⟨a, hList, decide_eq_true hKey⟩

theorem firstIndex_append_of_mem (hMem : k ∈ firstKeys key l)
    : firstIndex key (l ++ [a]) k = firstIndex key l k := by
  have hFound := firstIndex_lt hMem
  unfold firstIndex at hFound ⊢
  rw [List.findIdx_append, if_pos hFound]

theorem firstIndex_append_of_not_mem (hNew : k ∉ firstKeys key l)
    : l.length ≤ firstIndex key (l ++ [a]) k := by
  have hNone : l.findIdx (fun b => key b = some k) = l.length := by
    apply List.findIdx_eq_length_of_false
    intro b hB
    apply decide_eq_false
    intro hKey
    exact hNew (mem_firstKeys.mpr ⟨b, hB, hKey⟩)
  unfold firstIndex
  rw [List.findIdx_append, if_neg (by omega)]
  exact Nat.le_add_left _ _

theorem pairwise_firstIndex (key : α → Option κ) (l : List α)
    : (firstKeys key l).Pairwise fun k other => firstIndex key l k < firstIndex key l other := by
  induction l using List.reverseRecOn with
  | nil => exact .nil
  | append_singleton l a ih =>
    have hOld : (firstKeys key l).Pairwise fun k other =>
        firstIndex key (l ++ [a]) k < firstIndex key (l ++ [a]) other := by
      apply ih.imp_of_mem
      intro k other hK hOther hLt
      rw [firstIndex_append_of_mem hK, firstIndex_append_of_mem hOther]
      exact hLt
    cases hKey : key a with
    | none =>
      rw [firstKeys_of_none hKey]
      exact hOld
    | some k =>
      by_cases hMem : k ∈ firstKeys key l
      . rw [firstKeys_of_mem hKey hMem]
        exact hOld
      . rw [firstKeys_of_not_mem hKey hMem, List.pairwise_append]
        refine ⟨hOld, List.pairwise_singleton _ k, ?_⟩
        intro other hOther k' hK
        rw [List.mem_singleton.mp hK, firstIndex_append_of_mem hOther]
        exact Nat.lt_of_lt_of_le (firstIndex_lt hOther) (firstIndex_append_of_not_mem hMem)

theorem flatten_insertKey (k : κ) (a : α) (groups : List (List α))
    : (insertKey key k a groups).flatten.Perm (groups.flatten ++ [a]) := by
  induction groups with
  | nil => exact .refl _
  | cons first groups ih =>
    rw [insertKey]
    split
    . rw [List.flatten_cons, List.flatten_cons, List.append_assoc, List.append_assoc]
      exact List.perm_append_comm.append_left first
    . rw [List.flatten_cons, List.flatten_cons, List.append_assoc]
      exact ih.append_left first

theorem flatten_foldl_add (key : α → Option κ) (l : List α)
    : (l.foldl (add key) []).flatten.Perm (l.filter fun a => (key a).isSome) := by
  induction l using List.reverseRecOn with
  | nil => exact .refl _
  | append_singleton l a ih =>
    rw [List.foldl_append, List.filter_append, List.filter_singleton]
    simp only [List.foldl_cons, List.foldl_nil, add]
    split
    . next hNone =>
      simp only [hNone, Option.isSome_none, cond_false, List.append_nil]
      exact ih
    . next k hKey =>
      simp only [hKey, Option.isSome_some, cond_true]
      exact (flatten_insertKey k a _).trans (ih.append_right [a])

end Grouping
