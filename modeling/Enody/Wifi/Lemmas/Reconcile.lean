import Enody.Wifi.Lemmas.Visit

/-!
This module contains what one round of `reconcile_discovered_devices` does, in terms of the
advertisements that are eligible: to the list of connected runtimes, to their counters and to the
transports, and which events it returns.
-/

namespace Enody
namespace Wifi

theorem disconnect_fields (pass : Reconciliation) (runtime : WifiRuntime)
    : (pass.disconnect runtime).connectedRuntimes = pass.connectedRuntimes
        ∧ (pass.disconnect runtime).created = pass.created
        ∧ (pass.disconnect runtime).seenHostIds = pass.seenHostIds
        ∧ (pass.disconnect runtime).events = pass.events ++ [.left runtime]
        ∧ ∀ id, id ≠ runtime.id → (pass.disconnect runtime).transports id = pass.transports id := by
  unfold Reconciliation.disconnect
  simp only
  split
  . refine ⟨rfl, rfl, rfl, rfl, ?_⟩
    intro id hOther
    exact Function.update_of_ne hOther _ _
  . exact ⟨rfl, rfl, rfl, rfl, fun _ _ => rfl⟩

theorem disconnect_missing (missing : List WifiRuntime) (pass : Reconciliation)
    : let next := missing.foldl Reconciliation.disconnect pass
      next.connectedRuntimes = pass.connectedRuntimes
        ∧ next.created = pass.created
        ∧ next.events = pass.events ++ missing.map .left
        ∧ ∀ id, id ∉ missing.map WifiRuntime.id → next.transports id = pass.transports id := by
  induction missing generalizing pass with
  | nil => simp
  | cons runtime missing ih =>
    rcases disconnect_fields pass runtime with ⟨hConnected, hCreated, _, hEvents, hTransports⟩
    rcases ih (pass.disconnect runtime) with ⟨hConnected', hCreated', hEvents', hTransports'⟩
    simp only [List.foldl_cons, List.map_cons, List.mem_cons, not_or]
    refine ⟨hConnected'.trans hConnected, hCreated'.trans hCreated, ?_, ?_⟩
    . rw [hEvents', hEvents, List.append_assoc]
      rfl
    . rintro id ⟨hOther, hRest⟩
      rw [hTransports' id hRest, hTransports id hOther]

def countedRuntimes (tokens : TokenMap) (round : DiscoveryRound)
    (connectedRuntimes : List ConnectedWifiRuntime)
    : List ConnectedWifiRuntime :=
  connectedRuntimes.map fun connected => connected.counted (round.sights tokens connected.hostId)

def stayingRuntimes (tokens : TokenMap) (round : DiscoveryRound)
    (connectedRuntimes : List ConnectedWifiRuntime)
    : List ConnectedWifiRuntime :=
  (countedRuntimes tokens round connectedRuntimes).filter (·.stays)

def missingRuntimes (tokens : TokenMap) (round : DiscoveryRound)
    (connectedRuntimes : List ConnectedWifiRuntime)
    : List WifiRuntime :=
  runtimes ((countedRuntimes tokens round connectedRuntimes).filter (!·.stays))

structure RoundSpec (tokens : TokenMap) (before : ReconcileState) (round : DiscoveryRound)
    (added : List WifiRuntime) (after : ReconcileState) (events : List RuntimeEvent)
    : Prop where
  listed : after.connectedRuntimes
    = stayingRuntimes tokens round before.connectedRuntimes
      ++ added.map fun runtime => ⟨runtime, 0⟩
  reported : events
    = added.map .arrived ++ (missingRuntimes tokens round before.connectedRuntimes).map .left
  arrived : ∀ hostId, hostId ∈ added.map runtimeHostId ↔
    hostId ∉ hosts before.connectedRuntimes ∧ round.firstConnects tokens hostId = true
  distinct : (added.map runtimeHostId).Nodup

/--
What it does to the transports of the runtimes that are not missing. The runtimes it adds get numbers that
no runtime had before.
-/
structure TransportSpec (tokens : TokenMap) (before : ReconcileState) (round : DiscoveryRound)
    (added : List WifiRuntime) (after : ReconcileState)
    : Prop where
  grown : before.created ≤ after.created
  numbered : ∀ runtime ∈ added, before.created ≤ runtime.id ∧ runtime.id < after.created
  distinct : (added.map WifiRuntime.id).Nodup
  kept : ∀ id < before.created,
    id ∉ (missingRuntimes tokens round before.connectedRuntimes).map WifiRuntime.id →
      after.transports id = before.transports id
  live : ∀ runtime ∈ added,
    runtime.id ∉ (missingRuntimes tokens round before.connectedRuntimes).map WifiRuntime.id →
      (after.transports runtime.id).Live

theorem hosts_countedRuntimes (tokens : TokenMap) (round : DiscoveryRound)
    (connectedRuntimes : List ConnectedWifiRuntime)
    : hosts (countedRuntimes tokens round connectedRuntimes) = hosts connectedRuntimes := by
  unfold hosts countedRuntimes
  rw [List.map_map]
  rfl

theorem hosts_stayingRuntimes (tokens : TokenMap) (round : DiscoveryRound)
    (connectedRuntimes : List ConnectedWifiRuntime)
    : (hosts (stayingRuntimes tokens round connectedRuntimes)).Sublist (hosts connectedRuntimes) := by
  rw [← hosts_countedRuntimes tokens round connectedRuntimes]
  exact List.filter_sublist.map _

theorem RoundSpec.hosts_eq {tokens : TokenMap} {before after : ReconcileState}
    {round : DiscoveryRound} {added : List WifiRuntime} {events : List RuntimeEvent}
    (h : RoundSpec tokens before round added after events)
    : hosts after.connectedRuntimes
        = hosts (stayingRuntimes tokens round before.connectedRuntimes)
          ++ added.map runtimeHostId := by
  rw [h.listed, hosts, List.map_append, List.map_map]
  rfl

theorem RoundSpec.nodup {tokens : TokenMap} {before after : ReconcileState}
    {round : DiscoveryRound} {added : List WifiRuntime} {events : List RuntimeEvent}
    (h : RoundSpec tokens before round added after events)
    (hDistinct : (hosts before.connectedRuntimes).Nodup)
    : (hosts after.connectedRuntimes).Nodup := by
  have hStaying := hosts_stayingRuntimes tokens round before.connectedRuntimes
  rw [h.hosts_eq, List.nodup_append']
  refine ⟨hDistinct.sublist hStaying, h.distinct, ?_⟩
  intro hostId hBefore hAdded
  exact ((h.arrived hostId).mp hAdded).left (hStaying.subset hBefore)

theorem counted_visited {tokens : TokenMap} {before : ReconcileState} {round : DiscoveryRound}
    {pass : Reconciliation} {added : List WifiRuntime} (h : Visited tokens before round pass added)
    : pass.connectedRuntimes.map
        (fun connected => connected.counted (connected.hostId ∈ pass.seenHostIds))
        =
      countedRuntimes tokens round before.connectedRuntimes
        ++ added.map fun runtime => ⟨runtime, 0⟩ := by
  have hSeen : ∀ hostId, decide (hostId ∈ pass.seenHostIds) = round.sights tokens hostId := by
    intro hostId
    rw [Bool.eq_iff_iff, decide_eq_true_iff]
    exact h.seen hostId
  rw [h.listed, List.map_append, List.map_map]
  congr 1
  . unfold marked countedRuntimes
    rw [List.map_map]
    apply List.map_congr_left
    intro connected _
    simp only [Function.comp]
    split
    . next hMem =>
      have hSame : connected.sighted.hostId = connected.hostId := rfl
      rw [hSame, ← hSeen, decide_eq_true (List.contains_iff_mem.mp hMem)]
      rfl
    . rw [hSeen]
  . apply List.map_congr_left
    intro runtime hMem
    have hSighted : runtimeHostId runtime ∈ pass.seenHostIds := by
      rw [h.seen]
      apply DiscoveryRound.sights_of_firstConnects
      exact ((h.arrived _).mp (List.mem_map_of_mem hMem)).right
    have hHost : ConnectedWifiRuntime.hostId ⟨runtime, 0⟩ = runtimeHostId runtime := rfl
    simp only [Function.comp, hHost]
    rw [decide_eq_true hSighted]
    rfl

theorem stays_of_zero (runtime : WifiRuntime) : ConnectedWifiRuntime.stays ⟨runtime, 0⟩ = true := rfl

theorem reconcile_spec (tokens : List Message.Token) (before : ReconcileState)
    (round : DiscoveryRound) (hDistinct : (hosts before.connectedRuntimes).Nodup)
    : let after := before.reconcileDiscoveredDevices (collectTokens tokens) round
      ∃ added,
        RoundSpec (collectTokens tokens) before round added after.1 after.2
          ∧
        TransportSpec (collectTokens tokens) before round added after.1 := by
  have hPass := visit_devices tokens before round hDistinct
  unfold ReconcileState.reconcileDiscoveredDevices
  generalize round.devices.foldl
    (Reconciliation.visit (collectTokens tokens) round.excludedHostIds) ⟨before, [], []⟩ = pass at hPass ⊢
  rcases hPass with ⟨added, hVisited, hOpened⟩
  have hAdded : ∀ connected ∈ added.map fun runtime => (⟨runtime, 0⟩ : ConnectedWifiRuntime),
      connected.stays = true := by
    intro connected hMem
    rw [List.mem_map] at hMem
    rcases hMem with ⟨runtime, _, hEq⟩
    rw [← hEq]
    exact stays_of_zero runtime
  have hNoneMissing : (added.map fun runtime => (⟨runtime, 0⟩ : ConnectedWifiRuntime)).filter
      (!·.stays) = [] := by
    rw [List.filter_eq_nil_iff]
    intro connected hMem
    simp [hAdded connected hMem]
  have hScan : scanMissing pass.seenHostIds pass.connectedRuntimes
      = (stayingRuntimes (collectTokens tokens) round before.connectedRuntimes
            ++ added.map fun runtime => ⟨runtime, 0⟩,
          missingRuntimes (collectTokens tokens) round before.connectedRuntimes) := by
    have hEq := scanMissing_eq pass.seenHostIds pass.connectedRuntimes
    simp only [counted_visited hVisited, List.filter_append] at hEq
    rw [hEq, List.filter_eq_self.mpr hAdded, hNoneMissing, List.append_nil]
    rfl
  simp only [hScan]
  rcases disconnect_missing (missingRuntimes (collectTokens tokens) round before.connectedRuntimes) _
    with ⟨hConnected, hCreated, hEvents, hTransports⟩
  exists added
  constructor
  . constructor
    case listed => exact hConnected
    case reported =>
      rw [hEvents, hVisited.reported]
    case arrived => exact hVisited.arrived
    case distinct => exact hVisited.distinct
  . constructor
    case grown =>
      rw [hCreated]
      exact hOpened.grown
    case numbered =>
      rw [hCreated]
      exact hOpened.numbered
    case distinct => exact hOpened.distinct
    case kept =>
      intro id hBelow hNotMissing
      rw [hTransports id hNotMissing]
      exact hOpened.kept id hBelow
    case live =>
      intro runtime hMem hNotMissing
      rw [hTransports runtime.id hNotMissing]
      exact hOpened.live runtime hMem

end Wifi
end Enody
