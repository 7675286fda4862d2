import Enody.Presence.Replay
import Mathlib.Data.List.Nodup
import Mathlib.Data.List.Perm.Basic

/-!
This module contains a set of elements that two kinds of writers change at once and report later. One
writer keeps its changes in a batch and sends them in their order, the others take one element out and
send its departure by themselves. When the two kinds do not overtake each other, what has been sent leads
to the elements that are present.
-/

namespace Presence

variable {ρ κ : Type}

/--
`leaving` are the elements that have been taken out and whose departure is not sent yet. `changes` is the
history of the set, `sent` what has been sent.
-/
structure Ledger (ρ : Type) where
  present : List ρ
  batch : List (Change ρ)
  leaving : List ρ
  changes : List (Change ρ)
  sent : List (Change ρ)

namespace Ledger

/--
What a writer can do. An element is sent as entered only when no departure of another element with its
key is owed, and a departure is sent only when the batch has not the arrival of the same element.
-/
inductive Effect (key : ρ → κ) (l : Ledger ρ) : Ledger ρ → Prop where
  | same : Effect key l l
  | enter {r : ρ} :
      key r ∉ l.present.map key → (∀ change ∈ l.batch, key change.key ≠ key r) → r ∉ l.leaving →
        Effect key l
          { l with
            present := l.present ++ [r]
            batch := l.batch ++ [.enter r]
            changes := l.changes ++ [.enter r] }
  | miss {kept missing : List ρ} :
      (missing ++ kept).Perm l.present → (∀ change ∈ l.batch, change.isEnter = true) →
        (∀ change ∈ l.batch, ∀ r ∈ missing, key change.key ≠ key r) →
          Effect key l
            { l with
              present := kept
              batch := l.batch ++ missing.map .leave
              changes := l.changes ++ missing.map .leave }
  | send {change : Change ρ} {rest : List (Change ρ)} :
      l.batch = change :: rest →
        (∀ r ∈ l.leaving, ∀ entered, change = .enter entered → key r = key entered → r = entered) →
          Effect key l { l with batch := rest, sent := l.sent ++ [change] }
  | leave {r : ρ} {rest leaving : List ρ} :
      ([r] ++ rest).Perm l.present → leaving.Perm (r :: l.leaving) →
        (∀ other ∈ l.leaving, key other ≠ key r) →
          Effect key l
            { l with present := rest, leaving := leaving, changes := l.changes ++ [.leave r] }
  | report {r : ρ} {leaving : List ρ} :
      l.leaving.Perm (r :: leaving) → .enter r ∉ l.batch →
        Effect key l { l with leaving := leaving, sent := l.sent ++ [.leave r] }

def log [DecidableEq κ] (key : ρ → κ) (k : κ) (changes : List (Change ρ)) : List (Change κ) :=
  ofKey k (changes.map (Change.map key))

/--
Where the elements are whose changes are not sent yet.
-/
structure Placed (key : ρ → κ) (l : Ledger ρ) : Prop where
  present : (l.present.map key).Nodup
  leaving : (l.leaving.map key).Nodup
  batch : (l.batch.map fun change => key change.key).Nodup
  apart : ∀ r ∈ l.leaving, r ∉ l.present
  entered : ∀ r, .enter r ∈ l.batch → r ∈ l.present ∨ r ∈ l.leaving
  left : ∀ r, .leave r ∈ l.batch → key r ∉ l.present.map key ∧ key r ∉ l.leaving.map key
  again : ∀ r ∈ l.leaving, ∀ other ∈ l.present, key other = key r → .enter other ∈ l.batch

/--
The history of the set is one of single arrivals and departures, and leads to the elements present.
-/
structure Current (key : ρ → κ) (init : Set κ) (l : Ledger ρ) : Prop where
  strict : Strict init (l.changes.map (Change.map key))
  present : ∀ k, k ∈ replay init (l.changes.map (Change.map key)) ↔ k ∈ l.present.map key

/--
What has been sent and what is still owed are the changes of each key in their order. A departure that is
owed follows the arrival of the same element and precedes the arrival of another one.
-/
structure Logged [DecidableEq κ] (key : ρ → κ) (l : Ledger ρ) : Prop where
  quiet : ∀ k, k ∉ l.leaving.map key → log key k l.changes = log key k l.sent ++ log key k l.batch
  follows : ∀ r ∈ l.leaving, .enter r ∈ l.batch →
    log key (key r) l.changes
      = log key (key r) l.sent ++ log key (key r) l.batch ++ [.leave (key r)]
  precedes : ∀ r ∈ l.leaving, .enter r ∉ l.batch →
    log key (key r) l.changes
      = log key (key r) l.sent ++ .leave (key r) :: log key (key r) l.batch

variable {key : ρ → κ} {l l' : Ledger ρ} {r : ρ} {k : κ} {changes more : List (Change ρ)}
variable {change : Change ρ}

section Log

variable [DecidableEq κ]

theorem log_append : log key k (changes ++ more) = log key k changes ++ log key k more := by
  unfold log
  rw [List.map_append, ofKey_append]

theorem log_eq_nil (h : ∀ change ∈ changes, key change.key ≠ k) : log key k changes = [] := by
  unfold log ofKey
  rw [List.filter_eq_nil_iff]
  intro mapped hMem
  rw [List.mem_map] at hMem
  rcases hMem with ⟨change, hChange, hMapped⟩
  rw [← hMapped, Change.key_map]
  simpa using h change hChange

theorem log_singleton_of_ne (h : key change.key ≠ k) : log key k [change] = [] := by
  apply log_eq_nil
  intro other hOther
  rw [List.mem_singleton] at hOther
  rw [hOther]
  exact h

theorem log_leave_self : log key (key r) [.leave r] = [.leave (key r)] := by
  simp [log, ofKey, Change.map, Change.key]

theorem log_cons : log key k (change :: changes) = log key k [change] ++ log key k changes := by
  rw [← log_append, List.singleton_append]

end Log

theorem nodup_of_perm {removed rest present : List ρ} (hPerm : (removed ++ rest).Perm present)
    (hNodup : (present.map key).Nodup)
    : (removed.map key).Nodup ∧ (rest.map key).Nodup
        ∧ ∀ r ∈ removed, key r ∉ rest.map key := by
  have hBoth := (hPerm.map key).nodup_iff.mpr hNodup
  rw [List.map_append, List.nodup_append] at hBoth
  rcases hBoth with ⟨hRemoved, hRest, hDisjoint⟩
  refine ⟨hRemoved, hRest, ?_⟩
  intro r hMem hKey
  exact hDisjoint (key r) (List.mem_map_of_mem hMem) (key r) hKey rfl

theorem eq_of_key (hNodup : (l.present.map key).Nodup) {r other : ρ} (h : r ∈ l.present)
    (hOther : other ∈ l.present) (hKey : key r = key other)
    : r = other := by
  exact List.inj_on_of_nodup_map hNodup h hOther hKey

namespace Placed

theorem enter (h : Placed key l) (hAbsent : key r ∉ l.present.map key)
    (hBatch : ∀ change ∈ l.batch, key change.key ≠ key r) (hFresh : r ∉ l.leaving)
    : Placed key
        { l with
          present := l.present ++ [r]
          batch := l.batch ++ [.enter r]
          changes := l.changes ++ [.enter r] } where
  present := by
    rw [List.map_append, List.perm_append_comm.nodup_iff, List.map_singleton,
      List.singleton_append, List.nodup_cons]
    exact ⟨hAbsent, h.present⟩
  leaving := h.leaving
  batch := by
    rw [List.map_append, List.perm_append_comm.nodup_iff, List.map_singleton,
      List.singleton_append, List.nodup_cons]
    constructor
    . intro hMem
      rw [List.mem_map] at hMem
      rcases hMem with ⟨change, hChange, hKey⟩
      exact hBatch change hChange hKey
    . exact h.batch
  apart := by
    intro other hOther hMem
    rw [List.mem_append, List.mem_singleton] at hMem
    rcases hMem with hOld | hEq
    . exact h.apart other hOther hOld
    . rw [hEq] at hOther
      contradiction
  entered := by
    intro other hMem
    rw [List.mem_append, List.mem_singleton] at hMem
    rcases hMem with hOld | hNew
    . rcases h.entered other hOld with hPresent | hLeaving
      . exact .inl (List.mem_append_left _ hPresent)
      . exact .inr hLeaving
    . injection hNew with hEq
      rw [hEq]
      exact .inl (List.mem_append_right _ (List.mem_singleton_self r))
  left := by
    intro other hMem
    rw [List.mem_append, List.mem_singleton] at hMem
    rcases hMem with hOld | hNew
    . rcases h.left other hOld with ⟨hPresent, hLeaving⟩
      refine ⟨?_, hLeaving⟩
      rw [List.map_append, List.mem_append, List.map_singleton, List.mem_singleton]
      rintro (hIn | hEq)
      . exact hPresent hIn
      . exact hBatch _ hOld hEq
    . contradiction
  again := by
    intro other hOther entered hMem hKey
    rw [List.mem_append, List.mem_singleton] at hMem
    rw [List.mem_append, List.mem_singleton]
    rcases hMem with hOld | hEq
    . exact .inl (h.again other hOther entered hOld hKey)
    . rw [hEq]
      exact .inr rfl

theorem miss (h : Placed key l) {kept missing : List ρ} (hPerm : (missing ++ kept).Perm l.present)
    (hEnters : ∀ change ∈ l.batch, change.isEnter = true)
    (hBatch : ∀ change ∈ l.batch, ∀ r ∈ missing, key change.key ≠ key r)
    : Placed key
        { l with
          present := kept
          batch := l.batch ++ missing.map .leave
          changes := l.changes ++ missing.map .leave } := by
  rcases nodup_of_perm hPerm h.present with ⟨hMissing, hKept, hDisjoint⟩
  have hKeptPresent : kept ⊆ l.present := by
    intro other hOther
    apply hPerm.subset
    exact List.mem_append_right _ hOther
  constructor
  case present => exact hKept
  case leaving => exact h.leaving
  case batch =>
    rw [List.map_append, List.map_map, List.nodup_append]
    refine ⟨h.batch, hMissing, ?_⟩
    intro k hOld k' hNew hEq
    rw [List.mem_map] at hOld hNew
    rcases hOld with ⟨change, hChange, hOld⟩
    rcases hNew with ⟨r, hMem, hNew⟩
    apply hBatch change hChange r hMem
    rw [hOld, hEq, ← hNew]
    rfl
  case apart =>
    intro r hLeaving hMem
    exact h.apart r hLeaving (hKeptPresent hMem)
  case entered =>
    intro r hMem
    rw [List.mem_append] at hMem
    rcases hMem with hOld | hNew
    . rcases h.entered r hOld with hPresent | hLeaving
      . left
        rw [← hPerm.mem_iff, List.mem_append] at hPresent
        rcases hPresent with hGone | hStays
        . exact absurd rfl (hBatch _ hOld r hGone)
        . exact hStays
      . exact .inr hLeaving
    . simp at hNew
  case left =>
    intro r hMem
    rw [List.mem_append] at hMem
    rcases hMem with hOld | hNew
    . have := hEnters _ hOld
      contradiction
    . rw [List.mem_map] at hNew
      rcases hNew with ⟨other, hGone, hEq⟩
      injection hEq with hEq
      rw [hEq] at hGone
      refine ⟨hDisjoint r hGone, ?_⟩
      -- an element that leaves with this key would have its arrival in the batch
      intro hLeaving
      rw [List.mem_map] at hLeaving
      rcases hLeaving with ⟨leaving, hLeaving, hKey⟩
      have hPresent := hPerm.subset (List.mem_append_left _ hGone)
      have hBatched := h.again leaving hLeaving r hPresent hKey.symm
      exact hBatch _ hBatched r hGone rfl
  case again =>
    intro r hLeaving other hOther hKey
    apply List.mem_append_left
    exact h.again r hLeaving other (hKeptPresent hOther) hKey

theorem send (h : Placed key l) {rest : List (Change ρ)} (hBatch : l.batch = change :: rest)
    (hOrder : ∀ r ∈ l.leaving, ∀ entered, change = .enter entered → key r = key entered → r = entered)
    : Placed key { l with batch := rest, sent := l.sent ++ [change] } := by
  have hRest {c : Change ρ} (hMem : c ∈ rest) : c ∈ l.batch := by
    rw [hBatch]
    exact List.mem_cons_of_mem _ hMem
  have hNodup := h.batch
  rw [hBatch, List.map_cons, List.nodup_cons] at hNodup
  constructor
  case present => exact h.present
  case leaving => exact h.leaving
  case batch => exact hNodup.right
  case apart => exact h.apart
  case entered =>
    intro r hMem
    exact h.entered r (hRest hMem)
  case left =>
    intro r hMem
    exact h.left r (hRest hMem)
  case again =>
    intro r hLeaving other hOther hKey
    have hMem := h.again r hLeaving other hOther hKey
    rw [hBatch, List.mem_cons] at hMem
    rcases hMem with hFirst | hLater
    . have hEq := hOrder r hLeaving other hFirst.symm hKey.symm
      rw [← hEq] at hOther
      exact absurd hOther (h.apart r hLeaving)
    . exact hLater

theorem leave (h : Placed key l) {rest leaving : List ρ} (hPerm : ([r] ++ rest).Perm l.present)
    (hLeaving : leaving.Perm (r :: l.leaving)) (hNone : ∀ other ∈ l.leaving, key other ≠ key r)
    : Placed key
        { l with present := rest, leaving := leaving, changes := l.changes ++ [.leave r] } := by
  rcases nodup_of_perm hPerm h.present with ⟨_, hRest, hDisjoint⟩
  have hOut := hDisjoint r (List.mem_singleton_self r)
  have hIn : r ∈ l.present := by
    apply hPerm.subset
    exact List.mem_cons_self
  have hRestPresent : rest ⊆ l.present := by
    intro other hOther
    apply hPerm.subset
    exact List.mem_append_right _ hOther
  have hNoneKey : key r ∉ l.leaving.map key := by
    intro hMem
    rw [List.mem_map] at hMem
    rcases hMem with ⟨other, hOther, hKey⟩
    exact hNone other hOther hKey
  constructor
  case present => exact hRest
  case leaving =>
    rw [(hLeaving.map key).nodup_iff]
    exact List.nodup_cons.mpr ⟨hNoneKey, h.leaving⟩
  case batch => exact h.batch
  case apart =>
    intro other hOther hMem
    rw [hLeaving.mem_iff, List.mem_cons] at hOther
    rcases hOther with hEq | hOld
    . rw [hEq] at hMem
      exact hOut (List.mem_map_of_mem hMem)
    . exact h.apart other hOld (hRestPresent hMem)
  case entered =>
    intro other hMem
    rw [hLeaving.mem_iff, List.mem_cons]
    rcases h.entered other hMem with hPresent | hOld
    . rw [← hPerm.mem_iff, List.singleton_append, List.mem_cons] at hPresent
      rcases hPresent with hEq | hStays
      . exact .inr (.inl hEq)
      . exact .inl hStays
    . exact .inr (.inr hOld)
  case left =>
    intro other hMem
    rcases h.left other hMem with ⟨hPresent, hOld⟩
    constructor
    . intro hKey
      apply hPresent
      exact List.map_subset key hRestPresent hKey
    . rw [(hLeaving.map key).mem_iff, List.map_cons, List.mem_cons]
      rintro (hEq | hStays)
      . rw [hEq] at hPresent
        exact hPresent (List.mem_map_of_mem hIn)
      . exact hOld hStays
  case again =>
    intro other hOther entered hMem hKey
    rw [hLeaving.mem_iff, List.mem_cons] at hOther
    rcases hOther with hEq | hOld
    . rw [hEq] at hKey
      rw [← hKey] at hOut
      exact absurd (List.mem_map_of_mem hMem) hOut
    . exact h.again other hOld entered (hRestPresent hMem) hKey

theorem report (h : Placed key l) {leaving : List ρ} (hLeaving : l.leaving.Perm (r :: leaving))
    (hSent : .enter r ∉ l.batch)
    : Placed key { l with leaving := leaving, sent := l.sent ++ [.leave r] } := by
  have hSub : leaving ⊆ l.leaving := by
    intro other hOther
    apply hLeaving.symm.subset
    exact List.mem_cons_of_mem _ hOther
  have hNodup := (hLeaving.map key).nodup_iff.mp h.leaving
  constructor
  case present => exact h.present
  case leaving => exact hNodup.of_cons
  case batch => exact h.batch
  case apart =>
    intro other hOther
    exact h.apart other (hSub hOther)
  case entered =>
    intro other hMem
    rcases h.entered other hMem with hPresent | hOld
    . exact .inl hPresent
    . right
      rw [hLeaving.mem_iff, List.mem_cons] at hOld
      rcases hOld with hEq | hStays
      . rw [hEq] at hMem
        contradiction
      . exact hStays
  case left =>
    intro other hMem
    rcases h.left other hMem with ⟨hPresent, hOld⟩
    refine ⟨hPresent, ?_⟩
    intro hKey
    apply hOld
    exact List.map_subset key hSub hKey
  case again =>
    intro other hOther
    exact h.again other (hSub hOther)

theorem effect (h : Placed key l) (hEffect : Effect key l l') : Placed key l' := by
  cases hEffect with
  | same => exact h
  | enter hAbsent hBatch hFresh => exact h.enter hAbsent hBatch hFresh
  | miss hPerm hEnters hBatch => exact h.miss hPerm hEnters hBatch
  | send hBatch hOrder => exact h.send hBatch hOrder
  | leave hPerm hLeaving hNone => exact h.leave hPerm hLeaving hNone
  | report hLeaving hSent => exact h.report hLeaving hSent

end Placed

namespace Current

variable {init : Set κ}

theorem enter (h : Current key init l) (hAbsent : key r ∉ l.present.map key)
    : Current key init
        { l with
          present := l.present ++ [r]
          batch := l.batch ++ [.enter r]
          changes := l.changes ++ [.enter r] } where
  strict := by
    rw [List.map_append, strict_append]
    refine ⟨h.strict, strict_singleton.mpr ?_⟩
    intro hMem
    rw [h.present] at hMem
    contradiction
  present := by
    intro k
    rw [List.map_append, List.map_append, replay_append]
    simp only [List.map_singleton, replay, Change.map, Change.apply, Set.mem_insert_iff, h.present,
      List.mem_append, List.mem_singleton]
    exact Or.comm

theorem remove (h : Current key init l) {removed rest : List ρ}
    (hPerm : (removed ++ rest).Perm l.present) (hNodup : (l.present.map key).Nodup)
    (hPresent : l'.present = rest) (hChanges : l'.changes = l.changes ++ removed.map .leave)
    : Current key init l' := by
  rcases nodup_of_perm hPerm hNodup with ⟨hRemoved, _, hDisjoint⟩
  have hLeaves : (removed.map Change.leave).map (Change.map key)
      = (removed.map key).map Change.leave := by
    rw [List.map_map, List.map_map]
    rfl
  have hSplit (k : κ) : k ∈ l.present.map key ↔ k ∈ removed.map key ∨ k ∈ rest.map key := by
    rw [← (hPerm.map key).mem_iff, List.map_append, List.mem_append]
  constructor
  case strict =>
    rw [hChanges, List.map_append, hLeaves, strict_append]
    refine ⟨h.strict, ?_⟩
    apply strict_leaves hRemoved
    intro k hMem
    rw [h.present, hSplit]
    exact .inl hMem
  case present =>
    intro k
    rw [hPresent, hChanges, List.map_append, hLeaves, replay_append, mem_replay_leaves, h.present,
      hSplit]
    constructor
    . rintro ⟨hGone | hStays, hNot⟩
      . contradiction
      . exact hStays
    . intro hStays
      refine ⟨.inr hStays, ?_⟩
      intro hGone
      rw [List.mem_map] at hGone
      rcases hGone with ⟨r, hMem, hKey⟩
      rw [← hKey] at hStays
      exact hDisjoint r hMem hStays

theorem effect (h : Current key init l) (hPlaced : Placed key l) (hEffect : Effect key l l')
    : Current key init l' := by
  cases hEffect with
  | same => exact h
  | enter hAbsent _ _ => exact h.enter hAbsent
  | miss hPerm _ _ => exact h.remove hPerm hPlaced.present rfl rfl
  | send _ _ => exact ⟨h.strict, h.present⟩
  | leave hPerm _ _ => exact h.remove hPerm hPlaced.present rfl rfl
  | report _ _ => exact ⟨h.strict, h.present⟩

end Current

namespace Logged

variable [DecidableEq κ]

theorem batched (h : Logged key l) {added : List (Change ρ)}
    (hBatch : l'.batch = l.batch ++ added) (hChanges : l'.changes = l.changes ++ added)
    (hLeaving : l'.leaving = l.leaving) (hSent : l'.sent = l.sent)
    (hFresh : ∀ r ∈ l.leaving, .enter r ∉ added)
    (hFollows : ∀ r ∈ l.leaving, .enter r ∈ l.batch → log key (key r) added = [])
    : Logged key l' where
  quiet := by
    intro k hMem
    rw [hLeaving] at hMem
    rw [hBatch, hChanges, hSent, log_append, log_append, h.quiet k hMem, List.append_assoc]
  follows := by
    intro r hMem hEnter
    rw [hLeaving] at hMem
    rw [hBatch, List.mem_append] at hEnter
    rcases hEnter with hOld | hNew
    . rw [hBatch, hChanges, hSent, log_append, log_append, hFollows r hMem hOld, List.append_nil,
        List.append_nil]
      exact h.follows r hMem hOld
    . exact absurd hNew (hFresh r hMem)
  precedes := by
    intro r hMem hEnter
    rw [hLeaving] at hMem
    rw [hBatch, List.mem_append, not_or] at hEnter
    rw [hBatch, hChanges, hSent, log_append, log_append, h.precedes r hMem hEnter.left,
      List.append_assoc, List.cons_append]

theorem send (h : Logged key l) (hPlaced : Placed key l) {rest : List (Change ρ)}
    (hBatch : l.batch = change :: rest)
    (hOrder : ∀ r ∈ l.leaving, ∀ entered, change = .enter entered → key r = key entered → r = entered)
    : Logged key { l with batch := rest, sent := l.sent ++ [change] } where
  quiet := by
    intro k hMem
    have hLog := h.quiet k hMem
    rw [hBatch, log_cons] at hLog
    rw [log_append, List.append_assoc]
    exact hLog
  follows := by
    intro r hMem hEnter
    have hLog := h.follows r hMem (by
      rw [hBatch]
      exact List.mem_cons_of_mem _ hEnter)
    rw [hBatch, log_cons] at hLog
    rw [log_append, List.append_assoc (log key (key r) l.sent)]
    exact hLog
  precedes := by
    intro r hMem hEnter
    have hNodup := hPlaced.batch
    rw [hBatch, List.map_cons, List.nodup_cons] at hNodup
    by_cases hFirst : change = .enter r
    . -- the arrival of `r` itself is sent, and nothing else of its key is in the batch
      have hRest : log key (key r) rest = [] := by
        apply log_eq_nil
        intro other hOther hKey
        apply hNodup.left
        rw [hFirst]
        have hMapped := List.mem_map_of_mem (f := fun change : Change ρ => key change.key) hOther
        simp only [hKey] at hMapped
        exact hMapped
      have hLog := h.follows r hMem (by
        rw [hBatch, hFirst]
        exact List.mem_cons_self)
      rw [hBatch, log_cons, hRest, List.append_nil] at hLog
      rw [log_append, hRest]
      exact hLog
    . have hBefore : .enter r ∉ l.batch := by
        rw [hBatch, List.mem_cons]
        rintro (hEq | hLater)
        . exact hFirst hEq.symm
        . exact hEnter hLater
      have hOther : log key (key r) [change] = [] := by
        apply log_singleton_of_ne
        intro hKey
        cases change with
        | enter entered =>
          have hEq := hOrder r hMem entered rfl hKey.symm
          rw [hEq] at hFirst
          contradiction
        | leave left =>
          have hLeft := hPlaced.left left (by
            rw [hBatch]
            exact List.mem_cons_self)
          apply hLeft.right
          change key left = key r at hKey
          rw [hKey]
          exact List.mem_map_of_mem hMem
      have hLog := h.precedes r hMem hBefore
      rw [hBatch, log_cons, hOther, List.nil_append] at hLog
      rw [log_append, hOther, List.append_nil]
      exact hLog

theorem leave (h : Logged key l) (hPlaced : Placed key l) {rest leaving : List ρ}
    (hPerm : ([r] ++ rest).Perm l.present) (hLeaving : leaving.Perm (r :: l.leaving))
    (hNone : ∀ other ∈ l.leaving, key other ≠ key r)
    : Logged key
        { l with present := rest, leaving := leaving, changes := l.changes ++ [.leave r] } := by
  have hIn : r ∈ l.present := by
    apply hPerm.subset
    exact List.mem_cons_self
  have hNoneKey : key r ∉ l.leaving.map key := by
    intro hMem
    rw [List.mem_map] at hMem
    rcases hMem with ⟨other, hOther, hKey⟩
    exact hNone other hOther hKey
  have hKeep {k : κ} (hNe : key r ≠ k)
      : log key k (l.changes ++ [.leave r]) = log key k l.changes := by
    rw [log_append, log_singleton_of_ne hNe, List.append_nil]
  constructor
  case quiet =>
    intro k hMem
    rw [(hLeaving.map key).mem_iff, List.map_cons, List.mem_cons, not_or] at hMem
    rw [hKeep (Ne.symm hMem.left)]
    exact h.quiet k hMem.right
  case follows =>
    intro other hOther hEnter
    rw [hLeaving.mem_iff, List.mem_cons] at hOther
    rcases hOther with hEq | hOld
    . rw [hEq, log_append, log_leave_self, h.quiet _ hNoneKey]
    . rw [hKeep (Ne.symm (hNone other hOld))]
      exact h.follows other hOld hEnter
  case precedes =>
    intro other hOther hEnter
    rw [hLeaving.mem_iff, List.mem_cons] at hOther
    rcases hOther with hEq | hOld
    . -- nothing of this key is in the batch
      rw [hEq] at hEnter ⊢
      have hBatch : log key (key r) l.batch = [] := by
        apply log_eq_nil
        intro change hChange hKey
        cases change with
        | enter entered =>
          rcases hPlaced.entered entered hChange with hPresent | hGone
          -- an arrival of this key in the batch would be the one of `r` itself
          . have hSame := eq_of_key hPlaced.present hPresent hIn hKey
            rw [hSame] at hChange
            contradiction
          . exact hNone entered hGone hKey
        | leave left =>
          apply (hPlaced.left left hChange).left
          change key left = key r at hKey
          rw [hKey]
          exact List.mem_map_of_mem hIn
      rw [log_append, log_leave_self, h.quiet _ hNoneKey, hBatch, List.append_nil]
    . rw [hKeep (Ne.symm (hNone other hOld))]
      exact h.precedes other hOld hEnter

theorem report (h : Logged key l) (hPlaced : Placed key l) {leaving : List ρ}
    (hLeaving : l.leaving.Perm (r :: leaving)) (hSent : .enter r ∉ l.batch)
    : Logged key { l with leaving := leaving, sent := l.sent ++ [.leave r] } := by
  have hIn : r ∈ l.leaving := by
    rw [hLeaving.mem_iff]
    exact List.mem_cons_self
  have hNodup := (hLeaving.map key).nodup_iff.mp hPlaced.leaving
  rw [List.map_cons, List.nodup_cons] at hNodup
  have hKeep {k : κ} (hNe : key r ≠ k) : log key k (l.sent ++ [.leave r]) = log key k l.sent := by
    rw [log_append, log_singleton_of_ne hNe, List.append_nil]
  have hOther {other : ρ} (hMem : other ∈ leaving) : other ∈ l.leaving ∧ key r ≠ key other := by
    constructor
    . rw [hLeaving.mem_iff]
      exact List.mem_cons_of_mem _ hMem
    . intro hKey
      apply hNodup.left
      rw [hKey]
      exact List.mem_map_of_mem hMem
  constructor
  case quiet =>
    intro k hMem
    by_cases hKey : key r = k
    . rw [← hKey, log_append, log_leave_self, h.precedes r hIn hSent, List.append_assoc]
      rfl
    . rw [hKeep hKey]
      apply h.quiet
      rw [(hLeaving.map key).mem_iff, List.map_cons, List.mem_cons, not_or]
      exact ⟨Ne.symm hKey, hMem⟩
  case follows =>
    intro other hMem hEnter
    rcases hOther hMem with ⟨hOld, hNe⟩
    rw [hKeep hNe]
    exact h.follows other hOld hEnter
  case precedes =>
    intro other hMem hEnter
    rcases hOther hMem with ⟨hOld, hNe⟩
    rw [hKeep hNe]
    exact h.precedes other hOld hEnter

theorem effect (h : Logged key l) (hPlaced : Placed key l) (hEffect : Effect key l l')
    : Logged key l' := by
  cases hEffect with
  | same => exact h
  | enter hAbsent hBatch hFresh =>
    refine h.batched rfl rfl rfl rfl ?_ ?_
    . intro other hOther hMem
      rw [List.mem_singleton] at hMem
      injection hMem with hEq
      rw [hEq] at hOther
      contradiction
    . intro other _ hEnter
      apply log_singleton_of_ne
      exact Ne.symm (hBatch _ hEnter)
  | miss hPerm hEnters hBatch =>
    refine h.batched rfl rfl rfl rfl ?_ ?_
    . intro other _ hMem
      simp at hMem
    . intro other _ hEnter
      apply log_eq_nil
      intro change hChange
      rw [List.mem_map] at hChange
      rcases hChange with ⟨r, hMissing, hEq⟩
      rw [← hEq]
      exact Ne.symm (hBatch _ hEnter r hMissing)
  | send hBatch hOrder => exact h.send hPlaced hBatch hOrder
  | leave hPerm hLeaving hNone => exact h.leave hPlaced hPerm hLeaving hNone
  | report hLeaving hSent => exact h.report hPlaced hLeaving hSent

end Logged

structure Ordered [DecidableEq κ] (key : ρ → κ) (init : Set κ) (l : Ledger ρ) : Prop where
  placed : Placed key l
  current : Current key init l
  logged : Logged key l

def start (present : List ρ) : Ledger ρ := ⟨present, [], [], [], []⟩

namespace Ordered

variable [DecidableEq κ] {init : Set κ}

theorem start {present : List ρ} (hNodup : (present.map key).Nodup)
    : Ordered key {k | k ∈ present.map key} (start present) where
  placed := by
    constructor <;> simp [Ledger.start, hNodup]
  current := by
    constructor
    case strict => trivial
    case present =>
      intro k
      exact Iff.rfl
  logged := by
    constructor <;> simp [Ledger.start, log, ofKey]

theorem effect (h : Ordered key init l) (hEffect : Effect key l l') : Ordered key init l' where
  placed := h.placed.effect hEffect
  current := h.current.effect h.placed hEffect
  logged := h.logged.effect h.placed hEffect

theorem sent (h : Ordered key init l) (hBatch : l.batch = []) (hLeaving : l.leaving = [])
    : Strict init (l.sent.map (Change.map key))
        ∧
      ∀ k, k ∈ replay init (l.sent.map (Change.map key)) ↔ k ∈ l.present.map key := by
  -- nothing is owed, so the changes of each key have all been sent
  have hSame (k : κ)
      : ofKey k (l.changes.map (Change.map key)) = ofKey k (l.sent.map (Change.map key)) := by
    have hLog := h.logged.quiet k (by
      rw [hLeaving]
      exact List.not_mem_nil)
    rw [hBatch] at hLog
    unfold log at hLog
    simpa [ofKey] using hLog
  constructor
  . exact strict_congr h.current.strict hSame
  . intro k
    rw [← h.current.present, replay_eq_of_ofKey hSame]

end Ordered

end Ledger

end Presence
