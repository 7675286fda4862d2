import Enody.Transition.Run
import Enody.Wifi.Lemmas.Reconcile

/-!
This module contains what rounds of `reconcile_discovered_devices` do to the list of connected runtimes in
the long run. The counter of a runtime is the number of rounds since the last one that sighted its host.
-/

namespace Enody
namespace Wifi

open Transition

/-
The number of rounds since the last one that sighted the host, or since the first one.
-/
def missStreak (tokens : TokenMap) (hostId : Identifier) (rounds : List DiscoveryRound) : Nat :=
  (rounds.reverse.takeWhile fun round => !round.sights tokens hostId).length

theorem missStreak_append (tokens : TokenMap) (hostId : Identifier) (rounds : List DiscoveryRound)
    (round : DiscoveryRound)
    : missStreak tokens hostId (rounds ++ [round])
        =
      if round.sights tokens hostId then 0 else missStreak tokens hostId rounds + 1 := by
  unfold missStreak
  rw [List.reverse_append, List.reverse_singleton, List.singleton_append, List.takeWhile_cons]
  cases round.sights tokens hostId with
  | true => rfl
  | false => rfl

def rounds (labels : List ReconcileLabel) : List DiscoveryRound :=
  labels.filterMap fun label =>
    match label with
    | .round round => some round
    | _ => none

/-
The third round in a row without an eligible advertisement of its host.
-/
def isGone (tokens : TokenMap) (rounds : List DiscoveryRound) (runtime : WifiRuntime) : Bool :=
  missStreak tokens (runtimeHostId runtime) rounds == 3

structure Reconciled (tokens : TokenMap) (past : List DiscoveryRound) (round : DiscoveryRound)
    (before after : List ConnectedWifiRuntime) (events : List RuntimeEvent)
    : Prop where
  distinct : (hosts after).Nodup
  changes : ∃ added : List WifiRuntime,
    runtimes after
        = (runtimes before).filter (fun runtime => !isGone tokens (past ++ [round]) runtime) ++ added
      ∧ events
        = added.map .arrived
          ++ ((runtimes before).filter (isGone tokens (past ++ [round]))).map .left
      ∧ (added.map runtimeHostId).Nodup
      ∧ (∀ hostId, hostId ∈ added.map runtimeHostId ↔
          hostId ∉ hosts before ∧ round.firstConnects tokens hostId = true)
      ∧ ∀ runtime ∈ added, (tokens (runtimeHostId runtime)).isSome = true

structure Counted (tokens : TokenMap) (past : List DiscoveryRound)
    (connectedRuntimes : List ConnectedWifiRuntime)
    : Prop where
  distinct : (hosts connectedRuntimes).Nodup
  counts : ∀ connected ∈ connectedRuntimes,
    connected.missedDiscoveries = missStreak tokens connected.hostId past
  below : ∀ connected ∈ connectedRuntimes, connected.missedDiscoveries < 3

namespace Counted

variable {tokens : TokenMap} {past : List DiscoveryRound} (round : DiscoveryRound)
variable {connectedRuntimes : List ConnectedWifiRuntime}

theorem counted_eq (h : Counted tokens past connectedRuntimes) {connected : ConnectedWifiRuntime}
    (hMem : connected ∈ connectedRuntimes)
    : (connected.counted (round.sights tokens connected.hostId)).missedDiscoveries
        = missStreak tokens connected.hostId (past ++ [round]) := by
  have hCount := h.counts connected hMem
  have hBelow := h.below connected hMem
  rw [missStreak_append, ← hCount]
  unfold ConnectedWifiRuntime.counted
  simp only
  split
  . rfl
  . omega

theorem missStreak_le (h : Counted tokens past connectedRuntimes) {connected : ConnectedWifiRuntime}
    (hMem : connected ∈ connectedRuntimes)
    : missStreak tokens connected.hostId (past ++ [round]) ≤ 3 := by
  have hCount := h.counts connected hMem
  have hBelow := h.below connected hMem
  rw [missStreak_append]
  split
  . omega
  . omega

theorem stays_eq (h : Counted tokens past connectedRuntimes) {connected : ConnectedWifiRuntime}
    (hMem : connected ∈ connectedRuntimes)
    : (connected.counted (round.sights tokens connected.hostId)).stays
        = !isGone tokens (past ++ [round]) connected.runtime := by
  have hAtMost := h.missStreak_le round hMem
  have hHost : runtimeHostId connected.runtime = connected.hostId := rfl
  unfold ConnectedWifiRuntime.stays isGone wifiDiscoveryMissesBeforeLeft
  rw [h.counted_eq round hMem, hHost, Bool.eq_iff_iff]
  simp only [decide_eq_true_iff, Bool.not_eq_true', beq_eq_false_iff_ne]
  omega

theorem runtimes_staying (h : Counted tokens past connectedRuntimes)
    : runtimes (stayingRuntimes tokens round connectedRuntimes)
        = (runtimes connectedRuntimes).filter
            fun runtime => !isGone tokens (past ++ [round]) runtime := by
  unfold stayingRuntimes countedRuntimes runtimes
  rw [List.filter_map, List.map_map, List.filter_map]
  have hSame : ∀ connected ∈ connectedRuntimes,
      (connected.counted (round.sights tokens connected.hostId)).stays
        = !isGone tokens (past ++ [round]) connected.runtime := by
    intro connected hMem
    exact h.stays_eq round hMem
  congr 1
  apply List.filter_congr
  exact hSame

theorem runtimes_missing (h : Counted tokens past connectedRuntimes)
    : missingRuntimes tokens round connectedRuntimes
        = (runtimes connectedRuntimes).filter (isGone tokens (past ++ [round])) := by
  unfold missingRuntimes countedRuntimes runtimes
  rw [List.filter_map, List.map_map, List.filter_map]
  congr 1
  apply List.filter_congr
  intro connected hMem
  simp only [Function.comp]
  rw [h.stays_eq round hMem, Bool.not_not]

theorem after {before after : ReconcileState} {added : List WifiRuntime}
    {events : List RuntimeEvent} (h : Counted tokens past before.connectedRuntimes)
    (hSpec : RoundSpec tokens before round added after events)
    : Counted tokens (past ++ [round]) after.connectedRuntimes := by
  constructor
  case distinct => exact hSpec.nodup h.distinct
  case counts =>
    intro connected hMem
    rw [hSpec.listed, List.mem_append] at hMem
    rcases hMem with hStaying | hAdded
    . unfold stayingRuntimes countedRuntimes at hStaying
      rw [List.mem_filter, List.mem_map] at hStaying
      rcases hStaying with ⟨⟨old, hOld, hEq⟩, _⟩
      rw [← hEq]
      exact h.counted_eq round hOld
    . rw [List.mem_map] at hAdded
      rcases hAdded with ⟨runtime, hRuntime, hEq⟩
      have hConnects := (hSpec.arrived _).mp (List.mem_map_of_mem hRuntime)
      have hSighted := DiscoveryRound.sights_of_firstConnects hConnects.right
      have hHost : ConnectedWifiRuntime.hostId ⟨runtime, 0⟩ = runtimeHostId runtime := rfl
      rw [← hEq, missStreak_append, hHost, if_pos hSighted]
  case below =>
    intro connected hMem
    rw [hSpec.listed, List.mem_append] at hMem
    rcases hMem with hStaying | hAdded
    . unfold stayingRuntimes at hStaying
      rw [List.mem_filter] at hStaying
      exact of_decide_eq_true hStaying.right
    . rw [List.mem_map] at hAdded
      rcases hAdded with ⟨runtime, _, hEq⟩
      rw [← hEq]
      exact Nat.zero_lt_succ 2

end Counted

theorem step_cases {tokens : TokenMap} {s t : ReconcileState} {label : ReconcileLabel}
    (h : s.step tokens label = some t)
    : (∃ round, label = .round round ∧ t = (s.reconcileDiscoveredDevices tokens round).1)
        ∨
      (∃ id transport,
        rounds [label] = [] ∧ ¬ transport.Live ∧ t = s.setTransport id transport) := by
  cases label with
  | round round =>
    injection h with h
    exact .inl ⟨round, rfl, h.symm⟩
  | readTaskEnds id result =>
    simp only [ReconcileState.step, Option.map_eq_some_iff] at h
    rcases h with ⟨transport, hEnds, hEq⟩
    exact .inr
      ⟨id, transport, rfl, Connection.RuntimeState.not_live_of_readTaskEnds hEnds, hEq.symm⟩
  | dispatchEnds id =>
    simp only [ReconcileState.step, Option.map_eq_some_iff] at h
    rcases h with ⟨transport, hEnds, hEq⟩
    exact .inr
      ⟨id, transport, rfl, Connection.RuntimeState.not_live_of_dispatchEnds hEnds, hEq.symm⟩

theorem run_counted {tokens : List Message.Token} {init s : ReconcileState}
    {labels : List ReconcileLabel}
    (hDistinct : (hosts init.connectedRuntimes).Nodup)
    (hZero : ∀ connected ∈ init.connectedRuntimes, connected.missedDiscoveries = 0)
    (hRun : Run (ReconcileState.step (collectTokens tokens)) anyStep init labels s)
    : Counted (collectTokens tokens) (rounds labels) s.connectedRuntimes := by
  apply hRun.invariant_of_labels (motive := fun labels s =>
    Counted (collectTokens tokens) (rounds labels) s.connectedRuntimes)
  . constructor
    case distinct => exact hDistinct
    case counts =>
      intro connected hMem
      rw [hZero connected hMem]
      rfl
    case below =>
      intro connected hMem
      rw [hZero connected hMem]
      exact Nat.zero_lt_succ 2
  . intro labels s label t h _ hStep
    have hRounds : rounds (labels ++ [label]) = rounds labels ++ rounds [label] := by
      unfold rounds
      rw [List.filterMap_append]
    rw [hRounds]
    rcases step_cases hStep with ⟨round, hLabel, hEq⟩ | ⟨id, transport, hNoRound, _, hEq⟩
    . rcases reconcile_spec tokens s round h.distinct with ⟨added, hSpec, _⟩
      rw [hLabel, hEq]
      exact h.after round hSpec
    . rw [hNoRound, hEq, List.append_nil]
      exact h

theorem run_reconciled (tokens : List Message.Token) (init s : ReconcileState)
    (labels : List ReconcileLabel) (round : DiscoveryRound)
    (hDistinct : (hosts init.connectedRuntimes).Nodup)
    (hZero : ∀ connected ∈ init.connectedRuntimes, connected.missedDiscoveries = 0)
    (hRun : Run (ReconcileState.step (collectTokens tokens)) anyStep init labels s)
    : let after := s.reconcileDiscoveredDevices (collectTokens tokens) round
      Reconciled (collectTokens tokens) (rounds labels) round
        s.connectedRuntimes after.1.connectedRuntimes after.2 := by
  have hCounted := run_counted hDistinct hZero hRun
  rcases reconcile_spec tokens s round hCounted.distinct with ⟨added, hSpec, _⟩
  constructor
  case distinct => exact hSpec.nodup hCounted.distinct
  case changes =>
    refine ⟨added, ?_, ?_, hSpec.distinct, hSpec.arrived, ?_⟩
    . rw [hSpec.listed, ← hCounted.runtimes_staying round, runtimes, List.map_append, List.map_map]
      congr 1
      exact List.map_id _
    . rw [hSpec.reported, hCounted.runtimes_missing round]
    . intro runtime hMem
      have hConnects := (hSpec.arrived _).mp (List.mem_map_of_mem hMem)
      exact DiscoveryRound.token_of_firstConnects hConnects.right

theorem run_reconciled_missed
    : ∃ s : ReconcileState,
        hosts s.connectedRuntimes = [1]
          ∧
        let after := s.reconcileDiscoveredDevices (collectTokens [tokenOf 1]) ⟨[], []⟩
        Reconciled (collectTokens [tokenOf 1])
          [⟨[], [(eligibleDevice 1, .ok ())]⟩, ⟨[], []⟩, ⟨[1], [(eligibleDevice 1, .ok ())]⟩] ⟨[], []⟩
          s.connectedRuntimes after.1.connectedRuntimes after.2 := by
  have hExec : ((exec (ReconcileState.step (collectTokens [tokenOf 1])) .empty
      [.round ⟨[], [(eligibleDevice 1, .ok ())]⟩, .round ⟨[], []⟩, .readTaskEnds 0 (.error .timeout),
        .round ⟨[1], [(eligibleDevice 1, .ok ())]⟩]).map
          fun s => hosts s.connectedRuntimes)
      = some [1] := by
    decide
  rcases Run.exists_of_exec hExec with ⟨s, hRun, hHosts⟩
  exact ⟨s, hHosts, run_reconciled _ .empty s _ ⟨[], []⟩ List.nodup_nil nofun hRun⟩

end Wifi
end Enody
