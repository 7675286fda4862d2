import Enody.Wifi.Lemmas.Rounds

/-!
This module contains which of the listed runtimes have a live transport after a round of
`reconcile_discovered_devices`. A round opens the transports of the runtimes it adds, and does not look at
those of the runtimes that are listed already.
-/

namespace Enody
namespace Wifi

open Transition

theorem mem_hosts {connectedRuntimes : List ConnectedWifiRuntime} {hostId : Identifier}
    : hostId ∈ hosts connectedRuntimes
        ↔
      ∃ connected ∈ connectedRuntimes, connected.hostId = hostId := by
  unfold hosts
  exact List.mem_map

namespace ReconcileState

structure Numbered (s : ReconcileState) : Prop where
  hosts : (hosts s.connectedRuntimes).Nodup
  distinct : ((runtimes s.connectedRuntimes).map WifiRuntime.id).Nodup
  below : ∀ runtime ∈ runtimes s.connectedRuntimes, runtime.id < s.created

def ListedLive (s : ReconcileState) (hostId : Identifier) : Prop :=
  ∃ connected ∈ s.connectedRuntimes,
    connected.hostId = hostId ∧ (s.transports connected.runtime.id).Live

def NoneDead (s : ReconcileState) (hostId : Identifier) : Prop :=
  ∀ connected ∈ s.connectedRuntimes,
    connected.hostId = hostId → (s.transports connected.runtime.id).Live

theorem hosts_of_listedLive {s : ReconcileState} {hostId : Identifier} (h : s.ListedLive hostId)
    : hostId ∈ hosts s.connectedRuntimes := by
  rcases h with ⟨connected, hMem, hHost, _⟩
  rw [mem_hosts]
  exact ⟨connected, hMem, hHost⟩

theorem noneDead_iff {s : ReconcileState} (hDistinct : (hosts s.connectedRuntimes).Nodup)
    (hostId : Identifier)
    : s.NoneDead hostId ↔ (hostId ∈ hosts s.connectedRuntimes → s.ListedLive hostId) := by
  constructor
  . intro h hListed
    rw [mem_hosts] at hListed
    rcases hListed with ⟨connected, hMem, hHost⟩
    exact ⟨connected, hMem, hHost, h connected hMem hHost⟩
  . intro h connected hMem hHost
    rcases h (mem_hosts.mpr ⟨connected, hMem, hHost⟩) with ⟨live, hLiveMem, hLiveHost, hLive⟩
    have hEq : connected = live := by
      apply List.inj_on_of_nodup_map hDistinct hMem hLiveMem
      rw [hHost, hLiveHost]
    rw [hEq]
    exact hLive

end ReconcileState

def DiscoveryRound.Reachable (tokens : TokenMap) (hostId : Identifier) (round : DiscoveryRound)
    : Prop :=
  ∃ found ∈ round.devices,
    isEligible tokens round.excludedHostIds hostId found.1 = true
      ∧
    connectSucceeds tokens hostId found = true

theorem DiscoveryRound.Reachable.sights {tokens : TokenMap} {hostId : Identifier}
    {round : DiscoveryRound} (h : round.Reachable tokens hostId)
    : round.sights tokens hostId = true := by
  rcases h with ⟨found, hMem, hEligible, _⟩
  unfold DiscoveryRound.sights DiscoveryRound.firstEligible
  rw [List.find?_isSome]
  exact ⟨found, hMem, hEligible⟩

theorem mem_stayingRuntimes {tokens : TokenMap} {round : DiscoveryRound}
    {connectedRuntimes : List ConnectedWifiRuntime} {connected : ConnectedWifiRuntime}
    (hMem : connected ∈ connectedRuntimes)
    (hSighted : round.sights tokens connected.hostId = true)
    : connected.sighted ∈ stayingRuntimes tokens round connectedRuntimes := by
  unfold stayingRuntimes countedRuntimes
  rw [List.mem_filter, List.mem_map]
  constructor
  . refine ⟨connected, hMem, ?_⟩
    rw [hSighted]
    rfl
  . rfl

theorem runtimes_countedRuntimes (tokens : TokenMap) (round : DiscoveryRound)
    (connectedRuntimes : List ConnectedWifiRuntime)
    : runtimes (countedRuntimes tokens round connectedRuntimes) = runtimes connectedRuntimes := by
  unfold runtimes countedRuntimes
  rw [List.map_map]
  rfl

theorem staying_missing_perm (tokens : TokenMap) (round : DiscoveryRound)
    (connectedRuntimes : List ConnectedWifiRuntime)
    : (runtimes (stayingRuntimes tokens round connectedRuntimes)
        ++ missingRuntimes tokens round connectedRuntimes).Perm (runtimes connectedRuntimes) := by
  rw [← runtimes_countedRuntimes tokens round connectedRuntimes]
  unfold stayingRuntimes missingRuntimes runtimes
  rw [← List.map_append]
  exact (List.filter_append_perm _ _).map _

namespace ReconcileState
namespace Numbered

variable {s : ReconcileState} (tokens : TokenMap) (round : DiscoveryRound)

theorem distinct_parts (h : s.Numbered)
    : ((runtimes (stayingRuntimes tokens round s.connectedRuntimes)).map WifiRuntime.id
        ++ (missingRuntimes tokens round s.connectedRuntimes).map WifiRuntime.id).Nodup := by
  rw [← List.map_append, ((staying_missing_perm tokens round s.connectedRuntimes).map _).nodup_iff]
  exact h.distinct

theorem staying_below (h : s.Numbered) {runtime : WifiRuntime}
    (hMem : runtime ∈ runtimes (stayingRuntimes tokens round s.connectedRuntimes))
    : runtime.id < s.created := by
  apply h.below
  exact (staying_missing_perm tokens round s.connectedRuntimes).subset (List.mem_append_left _ hMem)

theorem missing_below (h : s.Numbered) {id : Nat}
    (hMem : id ∈ (missingRuntimes tokens round s.connectedRuntimes).map WifiRuntime.id)
    : id < s.created := by
  rw [List.mem_map] at hMem
  rcases hMem with ⟨runtime, hMissing, hEq⟩
  rw [← hEq]
  apply h.below
  exact (staying_missing_perm tokens round s.connectedRuntimes).subset
    (List.mem_append_right _ hMissing)

end Numbered

variable {tokens : TokenMap} {round : DiscoveryRound} {s after : ReconcileState}
variable {added : List WifiRuntime} {events : List RuntimeEvent} {hostId : Identifier}

theorem transport_of_staying (h : s.Numbered) (hTransports : TransportSpec tokens s round added after)
    {connected : ConnectedWifiRuntime}
    (hMem : connected ∈ stayingRuntimes tokens round s.connectedRuntimes)
    : after.transports connected.runtime.id = s.transports connected.runtime.id := by
  have hRuntime : connected.runtime ∈ runtimes (stayingRuntimes tokens round s.connectedRuntimes) :=
    List.mem_map_of_mem hMem
  have hParts := List.nodup_append'.mp (h.distinct_parts tokens round)
  apply hTransports.kept
  . exact h.staying_below tokens round hRuntime
  . exact hParts.right.right (List.mem_map_of_mem hRuntime)

theorem transport_of_added (h : s.Numbered) (hTransports : TransportSpec tokens s round added after)
    {runtime : WifiRuntime} (hMem : runtime ∈ added)
    : (after.transports runtime.id).Live := by
  apply hTransports.live runtime hMem
  intro hMissing
  have hBelow := h.missing_below tokens round hMissing
  have hNumber := (hTransports.numbered runtime hMem).left
  omega

theorem Numbered.ofRound (h : s.Numbered) (hSpec : RoundSpec tokens s round added after events)
    (hTransports : TransportSpec tokens s round added after)
    : after.Numbered := by
  have hGrown := hTransports.grown
  have hRuntimes : runtimes after.connectedRuntimes
      = runtimes (stayingRuntimes tokens round s.connectedRuntimes) ++ added := by
    rw [hSpec.listed, runtimes, List.map_append, List.map_map, ← runtimes]
    congr 1
    exact List.map_id _
  constructor
  case hosts => exact hSpec.nodup h.hosts
  case distinct =>
    have hParts := List.nodup_append'.mp (h.distinct_parts tokens round)
    rw [hRuntimes, List.map_append, List.nodup_append']
    refine ⟨hParts.left, hTransports.distinct, ?_⟩
    intro id hStaying hAdded
    rw [List.mem_map] at hStaying hAdded
    rcases hStaying with ⟨old, hOld, hOldId⟩
    rcases hAdded with ⟨new, hNew, hNewId⟩
    have hBelow := h.staying_below tokens round hOld
    have hNumber := (hTransports.numbered new hNew).left
    omega
  case below =>
    intro runtime hMem
    rw [hRuntimes, List.mem_append] at hMem
    rcases hMem with hStaying | hAdded
    . have hBelow := h.staying_below tokens round hStaying
      omega
    . have hNumber := (hTransports.numbered runtime hAdded).right
      omega

theorem listed_of_sighted (h : s.Numbered) (hSpec : RoundSpec tokens s round added after events)
    (hTransports : TransportSpec tokens s round added after)
    (hSighted : round.sights tokens hostId = true) (hListed : hostId ∈ Wifi.hosts s.connectedRuntimes)
    : hostId ∈ Wifi.hosts after.connectedRuntimes
        ∧
      (after.ListedLive hostId ↔ s.ListedLive hostId) := by
  rw [mem_hosts] at hListed
  rcases hListed with ⟨connected, hMem, hHost⟩
  have hStays : connected.sighted ∈ stayingRuntimes tokens round s.connectedRuntimes := by
    apply mem_stayingRuntimes hMem
    rw [hHost]
    exact hSighted
  have hAfter : connected.sighted ∈ after.connectedRuntimes := by
    rw [hSpec.listed]
    exact List.mem_append_left _ hStays
  have hSame := transport_of_staying h hTransports hStays
  have hRuntime : connected.sighted.runtime = connected.runtime := rfl
  have hSightedHost : connected.sighted.hostId = hostId := hHost
  rw [hRuntime] at hSame
  refine ⟨mem_hosts.mpr ⟨connected.sighted, hAfter, hSightedHost⟩, ?_⟩
  constructor
  . rintro ⟨other, hOther, hOtherHost, hLive⟩
    have hEq : other = connected.sighted := by
      apply List.inj_on_of_nodup_map (hSpec.nodup h.hosts) hOther hAfter
      rw [hOtherHost, hSightedHost]
    refine ⟨connected, hMem, hHost, ?_⟩
    rw [← hSame]
    rw [hEq] at hLive
    exact hLive
  . rintro ⟨other, hOther, hOtherHost, hLive⟩
    have hEq : other = connected := by
      apply List.inj_on_of_nodup_map h.hosts hOther hMem
      rw [hOtherHost, hHost]
    refine ⟨connected.sighted, hAfter, hSightedHost, ?_⟩
    rw [hEq, ← hSame] at hLive
    exact hLive

theorem listed_of_absent (h : s.Numbered) (hSpec : RoundSpec tokens s round added after events)
    (hTransports : TransportSpec tokens s round added after)
    (hAbsent : hostId ∉ Wifi.hosts s.connectedRuntimes)
    : (hostId ∈ Wifi.hosts after.connectedRuntimes ↔ round.firstConnects tokens hostId = true)
        ∧
      (after.ListedLive hostId ↔ round.firstConnects tokens hostId = true) := by
  have hArrives : hostId ∈ Wifi.hosts after.connectedRuntimes →
      round.firstConnects tokens hostId = true := by
    intro hListed
    rw [hSpec.hosts_eq, List.mem_append] at hListed
    rcases hListed with hStaying | hAdded
    . have hBefore := (hosts_stayingRuntimes tokens round s.connectedRuntimes).subset hStaying
      contradiction
    . exact ((hSpec.arrived hostId).mp hAdded).right
  have hLive : round.firstConnects tokens hostId = true → after.ListedLive hostId := by
    intro hConnects
    have hAdded := (hSpec.arrived hostId).mpr ⟨hAbsent, hConnects⟩
    rw [List.mem_map] at hAdded
    rcases hAdded with ⟨runtime, hMem, hHost⟩
    refine ⟨⟨runtime, 0⟩, ?_, hHost, transport_of_added h hTransports hMem⟩
    rw [hSpec.listed]
    exact List.mem_append_right _ (List.mem_map_of_mem hMem)
  constructor
  . constructor
    . exact hArrives
    . intro hConnects
      exact hosts_of_listedLive (hLive hConnects)
  . constructor
    . intro hListed
      exact hArrives (hosts_of_listedLive hListed)
    . exact hLive

theorem run_numbered {tokens : List Message.Token} {init : ReconcileState}
    {labels : List ReconcileLabel} (hInit : init.Numbered)
    (hRun : Run (step (collectTokens tokens)) anyStep init labels s)
    : s.Numbered := by
  apply hRun.invariant hInit
  intro s label t h _ hStep
  rcases step_cases hStep with ⟨round, _, hEq⟩ | ⟨id, transport, _, _, hEq⟩
  . rcases reconcile_spec tokens s round h.hosts with ⟨added, hSpec, hTransports⟩
    rw [hEq]
    exact h.ofRound hSpec hTransports
  . rw [hEq]
    exact ⟨h.hosts, h.distinct, h.below⟩

theorem run_recovered_iff (tokens : List Message.Token) (init s : ReconcileState)
    (labels : List ReconcileLabel) (round : DiscoveryRound) (hostId : Identifier)
    (hInit : init.Numbered)
    (hRun : Run (step (collectTokens tokens)) anyStep init labels s)
    (hReachable : round.Reachable (collectTokens tokens) hostId)
    : let after := (s.reconcileDiscoveredDevices (collectTokens tokens) round).1
      (after.ListedLive hostId
        ↔
      s.ListedLive hostId
        ∨
      (hostId ∉ Wifi.hosts s.connectedRuntimes
        ∧ round.firstConnects (collectTokens tokens) hostId = true))
        ∧
      (after.NoneDead hostId ↔ s.NoneDead hostId) := by
  have h := run_numbered hInit hRun
  rcases reconcile_spec tokens s round h.hosts with ⟨added, hSpec, hTransports⟩
  have hAfter := (h.ofRound hSpec hTransports).hosts
  simp only
  rw [noneDead_iff hAfter, noneDead_iff h.hosts]
  by_cases hListed : hostId ∈ Wifi.hosts s.connectedRuntimes
  . rcases listed_of_sighted h hSpec hTransports hReachable.sights hListed with ⟨hStill, hKept⟩
    simp [hKept, hStill, hListed]
  . rcases listed_of_absent h hSpec hTransports hListed with ⟨hArrives, hLive⟩
    have hNotLive : ¬ s.ListedLive hostId := by
      intro hLive
      exact hListed (hosts_of_listedLive hLive)
    simp [hArrives, hLive, hListed, hNotLive]

theorem run_recovered_iff_missed
    : ∃ s : ReconcileState,
        let round : DiscoveryRound := ⟨[], [(eligibleDevice 1, .ok ())]⟩
        s.created = 1
          ∧
        let after := (s.reconcileDiscoveredDevices (collectTokens [tokenOf 1]) round).1
        (after.ListedLive 1
          ↔
        s.ListedLive 1
          ∨
        (1 ∉ Wifi.hosts s.connectedRuntimes
          ∧ round.firstConnects (collectTokens [tokenOf 1]) 1 = true))
          ∧
        (after.NoneDead 1 ↔ s.NoneDead 1) := by
  have hExec : ((exec (step (collectTokens [tokenOf 1])) .empty
      [.round ⟨[], [(eligibleDevice 1, .ok ())]⟩, .readTaskEnds 0 (.error .timeout),
        .dispatchEnds 0, .round ⟨[], []⟩, .round ⟨[], []⟩, .round ⟨[], []⟩]).map
          fun s => s.created)
      = some 1 := by
    decide
  rcases Run.exists_of_exec hExec with ⟨s, hRun, hCreated⟩
  have hInit : empty.Numbered := ⟨List.nodup_nil, List.nodup_nil, nofun⟩
  refine ⟨s, hCreated, run_recovered_iff _ .empty s _ _ 1 hInit hRun ?_⟩
  exact ⟨(eligibleDevice 1, .ok ()), List.mem_singleton_self _, by decide, by decide⟩

/-
The transport fails and the host is there in the next round.
-/
theorem not_run_recovered
    : ¬ ∀ (tokens : List Message.Token) (init s : ReconcileState) (labels : List ReconcileLabel)
        (round : DiscoveryRound) (hostId : Identifier),
        init.Numbered →
          Run (step (collectTokens tokens)) anyStep init labels s →
            round.Reachable (collectTokens tokens) hostId →
              (s.reconcileDiscoveredDevices (collectTokens tokens) round).1.ListedLive hostId := by
  intro h
  have hExec : ((exec (step (collectTokens [tokenOf 1])) .empty
      [.round ⟨[], [(eligibleDevice 1, .ok ())]⟩, .readTaskEnds 0 (.error .timeout)]).map
        fun s =>
          let after := (s.reconcileDiscoveredDevices (collectTokens [tokenOf 1])
            ⟨[], [(eligibleDevice 1, .ok ())]⟩).1
          ((runtimes after.connectedRuntimes).map WifiRuntime.id,
            (after.transports 0).device.connection, ((after.transports 0).readTask 0).isRunning))
      = some ([0], some 0, false) := by
    decide
  rcases Run.exists_of_exec hExec with ⟨s, hRun, hState⟩
  have hInit : empty.Numbered := ⟨List.nodup_nil, List.nodup_nil, nofun⟩
  have hReachable : DiscoveryRound.Reachable (collectTokens [tokenOf 1]) 1
      ⟨[], [(eligibleDevice 1, .ok ())]⟩ :=
    ⟨(eligibleDevice 1, .ok ()), List.mem_singleton_self _, by decide, by decide⟩
  have hLive := h _ .empty s _ _ 1 hInit hRun hReachable
  simp only [Prod.mk.injEq] at hState
  rcases hState with ⟨hIds, hConnection, hTask⟩
  rcases hLive with ⟨connected, hMem, _, id, hStored, hRunning, _⟩
  have hId : connected.runtime.id ∈ [0] := by
    rw [← hIds]
    exact List.mem_map_of_mem (List.mem_map_of_mem hMem)
  rw [List.mem_singleton] at hId
  rw [hId] at hStored hRunning
  rw [hConnection] at hStored
  injection hStored with hStored
  rw [← hStored] at hRunning
  rw [hRunning] at hTask
  contradiction

end ReconcileState

end Wifi
end Enody
