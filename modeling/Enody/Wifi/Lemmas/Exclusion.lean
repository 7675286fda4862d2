import Enody.Transition.Run
import Enody.Wifi.Lemmas.Environment

/-!
This module contains when an excluded host stays away. A round works on a copy of the exclusion set and
looks at the set itself no more, and a call of `exclude_host_id` looks only at the list as it is, so a
host can come in between: through a connect that was under way, through an event that the round has yet
to send, or behind the back of a call that finds the host already in the set.
-/

namespace Enody
namespace Wifi

open Transition

theorem mem_eraseIdx_of_ne {α : Type} {l : List α} {i : Nat} {a b : α} (h : a ∈ l)
    (hAt : l[i]? = some b) (hNe : a ≠ b)
    : a ∈ l.eraseIdx i := by
  rw [(perm_eraseIdx hAt).mem_iff, List.mem_cons] at h
  exact h.resolve_left hNe

theorem mem_set_of_ne {α : Type} {l : List α} {i : Nat} {a b c : α} (h : a ∈ l)
    (hAt : l[i]? = some b) (hNe : a ≠ b)
    : a ∈ l.set i c := by
  rw [(perm_set hAt c).mem_iff]
  exact List.mem_cons_of_mem _ (mem_eraseIdx_of_ne h hAt hNe)

def isArrivalOf (hostId : Identifier) : RuntimeEvent → Bool
  | .arrived runtime => runtimeHostId runtime = hostId
  | .left _ => false

namespace DiscoveryState

variable {tokens : List Message.Token} {s t : DiscoveryState} {hostId : Identifier}

/-
The state in which a call of `exclude_host_id` may return: the host is in the exclusion set, no other call
has it still to remove, and the round has no arrival of it to send.
-/
def mayReturn (s : DiscoveryState) (hostId : Identifier) (others : List Excluding) : Bool :=
  s.excludedHostIds.contains hostId
    && !(others.contains (.inserted hostId) && (hosts s.connectedRuntimes).contains hostId)
    && s.unsent.all fun event => !isArrivalOf hostId event

/-
A runtime is pushed only when its host is not excluded by then, and a call returns only when it may.
-/
def keepsExclusion (s : DiscoveryState) : DiscoveryLabel → Bool
  | .connected =>
    match s.round.map Round.phase with
    | some (.connecting runtime _) =>
      !s.excludedHostIds.contains (runtimeHostId runtime)
        || (hosts s.connectedRuntimes).contains (runtimeHostId runtime)
    | _ => true
  | .exclude hostId =>
    !s.excludedHostIds.contains hostId || s.mayReturn hostId s.excluding
  | .removeConnected call =>
    match s.excluding[call]? with
    | some (.inserted hostId) =>
      (hosts s.connectedRuntimes).contains hostId
        || s.mayReturn hostId (s.excluding.eraseIdx call)
    | _ => true
  | .sendLeft call =>
    match s.excluding[call]? with
    | some (.owing runtime) => s.mayReturn (runtimeHostId runtime) (s.excluding.eraseIdx call)
    | _ => true
  | _ => true

/--
The host is excluded: no runtime of it is connected and no arrival of it is on its way.
-/
structure Away (s : DiscoveryState) (hostId : Identifier) : Prop where
  excluded : hostId ∈ s.excludedHostIds
  absent : hostId ∉ hosts s.connectedRuntimes
  unsent : ∀ event ∈ s.unsent, isArrivalOf hostId event = false

/--
A host in the set that is still connected has a call that is going to remove it.
-/
structure Exclusion (s : DiscoveryState) : Prop where
  distinct : (hosts s.connectedRuntimes).Nodup
  pending : ∀ hostId ∈ s.excludedHostIds,
    hostId ∈ hosts s.connectedRuntimes → .inserted hostId ∈ s.excluding
  away : ∀ hostId ∈ s.excludedSince, s.Away hostId

theorem mayReturn_iff {others : List Excluding}
    : s.mayReturn hostId others = true
        ↔
      hostId ∈ s.excludedHostIds
        ∧ (.inserted hostId ∈ others → hostId ∉ hosts s.connectedRuntimes)
        ∧ ∀ event ∈ s.unsent, isArrivalOf hostId event = false := by
  unfold mayReturn
  simp [and_assoc, imp_iff_not_or]

namespace Exclusion

theorem away_of_mayReturn (h : Exclusion s) {others : List Excluding}
    (hOthers : .inserted hostId ∈ s.excluding → .inserted hostId ∈ others)
    (hReturn : s.mayReturn hostId others = true)
    : s.Away hostId := by
  rcases mayReturn_iff.mp hReturn with ⟨hExcluded, hLater, hUnsent⟩
  constructor
  case excluded => exact hExcluded
  case absent =>
    intro hMem
    -- if the host were connected, another call would be about to remove it
    apply hLater _ hMem
    apply hOthers
    exact h.pending hostId hExcluded hMem
  case unsent => exact hUnsent

theorem shrink (h : Exclusion s)
    (hExcluded : t.excludedHostIds = s.excludedHostIds)
    (hDistinct : (hosts t.connectedRuntimes).Nodup)
    (hHosts : hosts t.connectedRuntimes ⊆ hosts s.connectedRuntimes)
    (hExcluding : ∀ hostId ∈ hosts t.connectedRuntimes,
      .inserted hostId ∈ s.excluding → .inserted hostId ∈ t.excluding)
    (hUnsent : ∀ event ∈ t.unsent, event ∈ s.unsent ∨ ∃ runtime, event = .left runtime)
    (hSince : ∀ hostId ∈ t.excludedSince, s.Away hostId)
    : Exclusion t where
  distinct := hDistinct
  pending := by
    intro hostId hMem hHost
    rw [hExcluded] at hMem
    apply hExcluding hostId hHost
    apply h.pending hostId hMem
    exact hHosts hHost
  away := by
    intro hostId hMem
    have hAway := hSince hostId hMem
    constructor
    case excluded =>
      rw [hExcluded]
      exact hAway.excluded
    case absent =>
      intro hHost
      apply hAway.absent
      exact hHosts hHost
    case unsent =>
      intro event hEvent
      rcases hUnsent event hEvent with hOld | ⟨runtime, hLeft⟩
      . exact hAway.unsent event hOld
      . rw [hLeft]
        rfl

theorem round (h : Exclusion s)
    (hExcluded : t.excludedHostIds = s.excludedHostIds)
    (hHosts : hosts t.connectedRuntimes = hosts s.connectedRuntimes)
    (hExcluding : t.excluding = s.excluding)
    (hSince : t.excludedSince = s.excludedSince)
    (hUnsent : t.unsent ⊆ s.unsent)
    : Exclusion t := by
  apply h.shrink hExcluded
  . rw [hHosts]
    exact h.distinct
  . rw [hHosts]
    exact List.Subset.refl _
  . intro hostId _ hMem
    rw [hExcluding]
    exact hMem
  . intro event hEvent
    exact .inl (hUnsent hEvent)
  . rw [hSince]
    exact h.away

theorem pushed (h : Exclusion s) {runtime : WifiRuntime}
    (hAllowed : runtimeHostId runtime ∉ s.excludedHostIds)
    (hAbsent : runtimeHostId runtime ∉ hosts s.connectedRuntimes)
    (hExcluded : t.excludedHostIds = s.excludedHostIds)
    (hHosts : hosts t.connectedRuntimes = hosts s.connectedRuntimes ++ [runtimeHostId runtime])
    (hExcluding : t.excluding = s.excluding)
    (hSince : t.excludedSince = s.excludedSince)
    (hUnsent : t.unsent = s.unsent ++ [.arrived runtime])
    : Exclusion t where
  distinct := by
    rw [hHosts, (List.perm_append_singleton _ _).nodup_iff, List.nodup_cons]
    exact ⟨hAbsent, h.distinct⟩
  pending := by
    intro hostId hMem hHost
    rw [hExcluded] at hMem
    rw [hExcluding]
    rw [hHosts, List.mem_append, List.mem_singleton] at hHost
    rcases hHost with hOld | hEq
    . exact h.pending hostId hMem hOld
    . rw [hEq] at hMem
      contradiction
  away := by
    intro hostId hMem
    rw [hSince] at hMem
    have hAway := h.away hostId hMem
    have hNe : runtimeHostId runtime ≠ hostId := by
      intro hEq
      rw [hEq] at hAllowed
      exact hAllowed hAway.excluded
    constructor
    case excluded =>
      rw [hExcluded]
      exact hAway.excluded
    case absent =>
      rw [hHosts, List.mem_append, List.mem_singleton]
      rintro (hOld | hEq)
      . exact hAway.absent hOld
      . exact hNe hEq.symm
    case unsent =>
      rw [hUnsent]
      intro event hEvent
      rw [List.mem_append, List.mem_singleton] at hEvent
      rcases hEvent with hOld | hEq
      . exact hAway.unsent event hOld
      . rw [hEq]
        simpa [isArrivalOf] using hNe

theorem removed (h : Exclusion s) {removed : List WifiRuntime} {rest : List ConnectedWifiRuntime}
    (hPerm : (removed ++ runtimes rest).Perm (runtimes s.connectedRuntimes))
    (hList : t.connectedRuntimes = rest)
    (hExcluded : t.excludedHostIds = s.excludedHostIds)
    (hExcluding : ∀ hostId, hostId ∉ removed.map runtimeHostId →
      .inserted hostId ∈ s.excluding → .inserted hostId ∈ t.excluding)
    (hUnsent : ∀ event ∈ t.unsent, event ∈ s.unsent ∨ ∃ runtime, event = .left runtime)
    (hSince : t.excludedSince = s.excludedSince)
    : Exclusion t := by
  have hHosts := hosts_perm hPerm
  have hDistinct := hHosts.nodup_iff.mpr h.distinct
  rw [List.nodup_append] at hDistinct
  rcases hDistinct with ⟨_, hRest, hDisjoint⟩
  apply h.shrink hExcluded
  . rw [hList]
    exact hRest
  . rw [hList]
    intro hostId hMem
    apply hHosts.subset
    exact List.mem_append_right _ hMem
  . rw [hList]
    intro hostId hMem
    apply hExcluding
    intro hRemoved
    exact hDisjoint hostId hRemoved hostId hMem rfl
  . exact hUnsent
  . rw [hSince]
    exact h.away

theorem returns (h : Exclusion s) {hostId : Identifier} (hAway : s.Away hostId)
    (hExcluded : t.excludedHostIds = s.excludedHostIds)
    (hList : t.connectedRuntimes = s.connectedRuntimes)
    (hExcluding : ∀ hostId ∈ hosts s.connectedRuntimes,
      .inserted hostId ∈ s.excluding → .inserted hostId ∈ t.excluding)
    (hSince : t.excludedSince = hostId :: s.excludedSince)
    (hUnsent : t.unsent = s.unsent)
    : Exclusion t := by
  apply h.shrink hExcluded
  . rw [hList]
    exact h.distinct
  . rw [hList]
    exact List.Subset.refl _
  . rw [hList]
    exact hExcluding
  . intro event hEvent
    rw [hUnsent] at hEvent
    exact .inl hEvent
  . rw [hSince]
    exact List.forall_mem_cons.mpr ⟨hAway, h.away⟩

theorem excludeAgain (h : Exclusion s) (hok : s.keepsExclusion (.exclude hostId) = true)
    (hMem : hostId ∈ s.excludedHostIds)
    : Exclusion (s.returned hostId) := by
  unfold keepsExclusion at hok
  simp only [List.contains_eq_mem, hMem, decide_true, Bool.not_true, Bool.false_or] at hok
  have hAway := h.away_of_mayReturn id hok
  exact h.returns hAway rfl rfl (fun _ _ => id) rfl rfl

theorem excludeNew (h : Exclusion s)
    : Exclusion
        { s with
          excludedHostIds := hostId :: s.excludedHostIds
          excluding := s.excluding ++ [.inserted hostId] } where
  distinct := h.distinct
  pending := by
    intro other hMem hHost
    rw [List.mem_append, List.mem_singleton]
    rcases List.mem_cons.mp hMem with hEq | hOld
    . rw [hEq]
      exact .inr rfl
    . left
      exact h.pending other hOld hHost
  away := by
    intro other hMem
    have hAway := h.away other hMem
    exact ⟨List.mem_cons_of_mem _ hAway.excluded, hAway.absent, hAway.unsent⟩

theorem removedNone (h : Exclusion s) {call : Nat}
    (hok : s.keepsExclusion (.removeConnected call) = true)
    (hCall : s.excluding[call]? = some (.inserted hostId))
    (hAbsent : hostId ∉ hosts s.connectedRuntimes)
    : Exclusion ({ s with excluding := s.excluding.eraseIdx call }.returned hostId) := by
  unfold keepsExclusion at hok
  simp only [hCall, List.contains_eq_mem, hAbsent, decide_false, Bool.false_or] at hok
  rcases mayReturn_iff.mp hok with ⟨hExcluded, _, hUnsent⟩
  refine h.returns ⟨hExcluded, hAbsent, hUnsent⟩ rfl rfl ?_ rfl rfl
  intro other hHost hInserted
  apply mem_eraseIdx_of_ne hInserted hCall
  intro hEq
  injection hEq with hEq
  rw [hEq] at hHost
  contradiction

theorem finished (h : Exclusion s) {call : Nat} {runtime : WifiRuntime}
    (hok : s.keepsExclusion (.sendLeft call) = true)
    (hCall : s.excluding[call]? = some (.owing runtime))
    (hExcluded : t.excludedHostIds = s.excludedHostIds)
    (hList : t.connectedRuntimes = s.connectedRuntimes)
    (hExcluding : t.excluding = s.excluding.eraseIdx call)
    (hSince : t.excludedSince = runtimeHostId runtime :: s.excludedSince)
    (hUnsent : t.unsent = s.unsent)
    : Exclusion t := by
  have hStays {hostId : Identifier} (hInserted : .inserted hostId ∈ s.excluding)
      : .inserted hostId ∈ s.excluding.eraseIdx call := by
    apply mem_eraseIdx_of_ne hInserted hCall
    intro hEq
    contradiction
  unfold keepsExclusion at hok
  simp only [hCall] at hok
  apply h.returns (h.away_of_mayReturn hStays hok) hExcluded hList _ hSince hUnsent
  intro hostId _ hInserted
  rw [hExcluding]
  exact hStays hInserted

theorem removedExcluded (h : Exclusion s) (hostId : Identifier)
    : Exclusion (s.removeExcluded hostId) where
  distinct := h.distinct
  pending := by
    intro other hMem hHost
    apply h.pending other _ hHost
    exact (List.mem_filter.mp hMem).left
  away := by
    intro other hMem
    rcases List.mem_filter.mp hMem with ⟨hSince, hOther⟩
    have hAway := h.away other hSince
    exact ⟨List.mem_filter.mpr ⟨hAway.excluded, hOther⟩, hAway.absent, hAway.unsent⟩

theorem step (h : Exclusion s) {label : DiscoveryLabel} (hok : s.keepsExclusion label = true)
    (hStep : DiscoveryStep s label t)
    : Exclusion t := by
  cases hStep with
  | startRound _ =>
    refine h.round rfl rfl rfl rfl ?_
    exact List.nil_subset _
  | skip hRound hPhase hRuntimes _ =>
    refine h.round rfl ?_ rfl rfl ?_
    . rw [hosts_eq, hosts_eq, hRuntimes]
    . rw [unsent_eq hRound hPhase]
      exact List.Subset.refl _
  | tried hRound hPhase _ _ =>
    refine h.round rfl rfl rfl rfl ?_
    rw [unsent_eq hRound hPhase]
    exact List.Subset.refl _
  | late hRound hPhase =>
    refine h.round rfl rfl rfl rfl ?_
    rw [unsent_eq hRound hPhase]
    exact List.Subset.refl _
  | pushed hRound hPhase hAbsent =>
    -- the list has no runtime of the host, so the step is only allowed when the host is not excluded
    have hAllowed := hok
    unfold keepsExclusion at hAllowed
    simp only [hRound, Option.map_some, hPhase, List.contains_eq_mem, hAbsent, decide_false,
      Bool.or_false, Bool.not_eq_true', decide_eq_false_iff_not] at hAllowed
    refine h.pushed hAllowed hAbsent rfl ?_ rfl rfl ?_
    . exact hosts_push _ _
    . rw [unsent_eq hRound hPhase]
      simp [DiscoveryState.unsent, Round.unsent, RoundPhase.missing]
  | connectFailed hRound hPhase =>
    refine h.round rfl rfl rfl rfl ?_
    rw [unsent_eq hRound hPhase]
    exact List.Subset.refl _
  | scanned hRound hPhase hPerm _ =>
    refine h.removed hPerm rfl rfl (fun _ _ => id) ?_ rfl
    intro event hEvent
    simp only [DiscoveryState.unsent, Round.unsent, List.mem_append, List.mem_map] at hEvent
    rcases hEvent with hOld | ⟨runtime, _, hLeft⟩
    . left
      rw [unsent_eq hRound hPhase]
      exact List.mem_append_left _ hOld
    . exact .inr ⟨runtime, hLeft.symm⟩
  | disconnected hRound hPhase =>
    refine h.round rfl rfl rfl rfl ?_
    rw [unsent_eq hRound hPhase]
    simp [DiscoveryState.unsent, Round.unsent, RoundPhase.missing]
  | sentEvent hRound hPhase hEvents _ =>
    refine h.round rfl rfl rfl rfl ?_
    rw [unsent_eq hRound hPhase, hEvents]
    simp [DiscoveryState.unsent, Round.unsent, hPhase]
  | endRound _ _ _ =>
    refine h.round rfl rfl rfl rfl ?_
    exact List.nil_subset _
  | excludeAgain hMem => exact h.excludeAgain hok hMem
  | excludeNew _ => exact h.excludeNew
  | removedNone hCall hAbsent => exact h.removedNone hok hCall hAbsent
  | removedSome hCall hPerm =>
    refine h.removed hPerm rfl rfl ?_ (fun _ => .inl) rfl
    intro hostId hOther hInserted
    apply mem_set_of_ne hInserted hCall
    intro hEq
    injection hEq with hEq
    rw [hEq] at hOther
    simp at hOther
  | sentLeft hCall _ => exact h.finished hok hCall rfl rfl rfl rfl rfl
  | droppedLeft hCall _ => exact h.finished hok hCall rfl rfl rfl rfl rfl
  | removedExcluded => exact h.removedExcluded _
  | received _ =>
    refine h.round rfl rfl rfl rfl ?_
    exact List.Subset.refl _

theorem initial (excludedHostIds : List Identifier) (devices : List (WifiDiscoveredDevice × Bool))
    : Exclusion (withExcludedHostIds tokens excludedHostIds devices) := by
  rcases withExcludedHostIds_wellFormed tokens excludedHostIds devices with ⟨pass, hPass, hEq⟩
  rw [hEq]
  constructor
  case distinct => exact hPass.distinct
  case pending =>
    intro hostId hExcluded hHost
    exact absurd hExcluded (hPass.allowed hostId hHost)
  case away =>
    intro hostId hMem
    contradiction

end Exclusion

theorem DiscoveryStep.sent {label : DiscoveryLabel} (hStep : DiscoveryStep s label t)
    : ∃ events,
        t.sent = s.sent ++ events
          ∧
        ∀ event ∈ events, event ∈ s.unsent ∨ ∃ runtime, event = .left runtime := by
  cases hStep with
  | sentEvent hRound hPhase hEvents _ =>
    refine ⟨_, rfl, ?_⟩
    intro event hMem
    left
    rw [List.mem_singleton] at hMem
    rw [unsent_eq hRound hPhase, hEvents, hMem]
    exact List.mem_cons_self
  | sentLeft _ _ =>
    refine ⟨_, rfl, ?_⟩
    intro event hMem
    right
    exact ⟨_, List.mem_singleton.mp hMem⟩
  | _ =>
    refine ⟨[], (List.append_nil _).symm, ?_⟩
    intro event hMem
    contradiction

theorem run_excluded (tokens : List Message.Token) (excludedHostIds : List Identifier)
    (devices : List (WifiDiscoveredDevice × Bool)) (labels : List DiscoveryLabel)
    (s : DiscoveryState)
    (hRun : Run (step (collectTokens tokens)) (fun s label => s.keepsExclusion label = true)
      (withExcludedHostIds tokens excludedHostIds devices) labels s)
    (hostId : Identifier) (hSince : hostId ∈ s.excludedSince)
    : hostId ∉ hosts s.connectedRuntimes
        ∧
      (∀ event ∈ s.unsent, isArrivalOf hostId event = false)
        ∧
      ∀ label t, s.step (collectTokens tokens) label = some t →
        ∃ events,
          t.sent = s.sent ++ events ∧ ∀ event ∈ events, isArrivalOf hostId event = false := by
  have hExclusion : Exclusion s := by
    apply hRun.invariant
    . exact Exclusion.initial excludedHostIds devices
    . intro s l t h hok hStep
      exact h.step hok (step_cases hStep)
  have hAway := hExclusion.away hostId hSince
  refine ⟨hAway.absent, hAway.unsent, ?_⟩
  intro label t hStep
  rcases (step_cases hStep).sent with ⟨events, hSent, hEvents⟩
  refine ⟨events, hSent, ?_⟩
  intro event hMem
  -- a step sends what the round has, or a departure
  rcases hEvents event hMem with hUnsent | ⟨runtime, hLeft⟩
  . exact hAway.unsent event hUnsent
  . rw [hLeft]
    rfl

theorem run_excluded_passedOver
    : ∃ s : DiscoveryState,
        s.excludedSince = [1] ∧ s.sent.map (isArrivalOf 1) = [true, false]
          ∧
        1 ∉ hosts s.connectedRuntimes := by
  have hExec : ((execIf (step (collectTokens [tokenOf 1])) keepsExclusion
      (withExcludedHostIds [tokenOf 1] [] [])
      [.startRound [eligibleDevice 1], .visit, .connected, .scan, .sendEvent, .endRound,
        .exclude 1, .removeConnected 0, .sendLeft 0,
        .startRound [eligibleDevice 1], .visit, .scan, .endRound]).map
          fun s => (s.excludedSince, s.sent.map (isArrivalOf 1)))
      = some ([1], [true, false]) := by
    decide
  rcases Run.exists_of_execIf hExec with ⟨s, hRun, hState⟩
  injection hState with hSince hSent
  have hMem : 1 ∈ s.excludedSince := by
    rw [hSince]
    exact List.mem_singleton_self 1
  exact ⟨s, hSince, hSent, (run_excluded _ _ _ _ s hRun 1 hMem).left⟩

/-
A host is excluded while the round connects to it.
-/
theorem not_run_excluded
    : ¬ ∀ (tokens : List Message.Token) (excludedHostIds : List Identifier)
        (devices : List (WifiDiscoveredDevice × Bool)) (labels : List DiscoveryLabel)
        (s : DiscoveryState),
        Run (step (collectTokens tokens)) anyStep
          (withExcludedHostIds tokens excludedHostIds devices) labels s →
            ∀ hostId ∈ s.excludedSince, hostId ∉ hosts s.connectedRuntimes := by
  intro h
  have hExec : ((exec (step (collectTokens [tokenOf 1])) (withExcludedHostIds [tokenOf 1] [] [])
      [.startRound [eligibleDevice 1], .visit, .exclude 1, .removeConnected 0, .connected]).map
          fun s => (s.excludedSince, hosts s.connectedRuntimes))
      = some ([1], [1]) := by
    decide
  rcases Run.exists_of_exec hExec with ⟨s, hRun, hState⟩
  injection hState with hSince hHosts
  have hAbsent := h _ _ _ _ s hRun 1 (by
    rw [hSince]
    exact List.mem_singleton_self 1)
  rw [hHosts] at hAbsent
  exact hAbsent (List.mem_singleton_self 1)

end DiscoveryState

end Wifi
end Enody
