import Enody.Wifi.Lemmas.Reconcile

/-!
This module contains the hosts that are connected after a round of `reconcile_discovered_devices`, for every
list of connected runtimes, and when they do not depend on the order of the devices.
-/

namespace Enody
namespace Wifi

theorem hosts_resetMissed {hostId : Identifier} {connectedRuntimes kept : List ConnectedWifiRuntime}
    (h : resetMissed hostId connectedRuntimes = some kept)
    : hosts kept = hosts connectedRuntimes := by
  induction connectedRuntimes generalizing kept with
  | nil => contradiction
  | cons connected rest ih =>
    unfold resetMissed at h
    split at h
    . injection h with h
      rw [← h]
      rfl
    . rcases Option.map_eq_some_iff.mp h with ⟨others, hRest, hKept⟩
      rw [← hKept]
      exact congrArg (connected.hostId :: ·) (ih hRest)

def runtimesOf (hostId : Identifier) (connectedRuntimes : List ConnectedWifiRuntime)
    : List ConnectedWifiRuntime :=
  connectedRuntimes.filter fun connected => connected.hostId == hostId

theorem mem_hosts_iff {hostId : Identifier} {connectedRuntimes : List ConnectedWifiRuntime}
    : hostId ∈ hosts connectedRuntimes ↔ ∃ connected, connected ∈ runtimesOf hostId connectedRuntimes := by
  unfold hosts runtimesOf
  simp only [List.mem_map, List.mem_filter, beq_iff_eq]

theorem runtimesOf_resetMissed {hostId other : Identifier}
    {connectedRuntimes kept : List ConnectedWifiRuntime} (hOther : other ≠ hostId)
    (h : resetMissed hostId connectedRuntimes = some kept)
    : runtimesOf other kept = runtimesOf other connectedRuntimes := by
  induction connectedRuntimes generalizing kept with
  | nil => contradiction
  | cons connected rest ih =>
    unfold resetMissed at h
    unfold runtimesOf at ih ⊢
    split at h
    . next hHost =>
      injection h with h
      have hNot : (connected.hostId == other) = false := by
        rw [hHost]
        exact beq_false_of_ne (Ne.symm hOther)
      have hNot' : (({ connected with missedDiscoveries := 0 } : ConnectedWifiRuntime).hostId == other)
          = false := hNot
      rw [← h, List.filter_cons, List.filter_cons, hNot, hNot']
      rfl
    . rcases Option.map_eq_some_iff.mp h with ⟨others, hRest, hKept⟩
      rw [← hKept, List.filter_cons, List.filter_cons, ih hRest]

structure HostsVisited (tokens : TokenMap) (before : ReconcileState) (round : DiscoveryRound)
    (pass : Reconciliation) : Prop where
  seen : ∀ hostId, hostId ∈ pass.seenHostIds ↔ round.sights tokens hostId = true
  connected : ∀ hostId, hostId ∈ hosts pass.connectedRuntimes ↔
    hostId ∈ hosts before.connectedRuntimes ∨ round.firstConnects tokens hostId = true
  unseen : ∀ hostId, hostId ∉ pass.seenHostIds →
    runtimesOf hostId pass.connectedRuntimes = runtimesOf hostId before.connectedRuntimes

section Visit

variable {tokens : TokenMap} {before : ReconcileState} {excludedHostIds : List Identifier}
  {devices : List (WifiDiscoveredDevice × Except (Error .std) Unit)}
  {found : WifiDiscoveredDevice × Except (Error .std) Unit} {pass next : Reconciliation}

theorem HostsVisited.ofPassedOver (h : HostsVisited tokens before ⟨excludedHostIds, devices⟩ pass)
    (hSeen : ∀ hostId, isEligible tokens excludedHostIds hostId found.1 = true →
      hostId ∈ pass.seenHostIds)
    : HostsVisited tokens before ⟨excludedHostIds, devices ++ [found]⟩ pass := by
  have hFirst : ∀ hostId,
      DiscoveryRound.firstEligible tokens hostId ⟨excludedHostIds, devices ++ [found]⟩
        = DiscoveryRound.firstEligible tokens hostId ⟨excludedHostIds, devices⟩ := by
    intro hostId
    apply DiscoveryRound.firstEligible_of_passedOver
    intro hostId hEligible
    rw [← h.seen]
    exact hSeen hostId hEligible
  constructor
  case seen =>
    intro hostId
    rw [h.seen, DiscoveryRound.sights, DiscoveryRound.sights, hFirst]
  case connected =>
    intro hostId
    rw [h.connected, DiscoveryRound.firstConnects, DiscoveryRound.firstConnects, hFirst]
  case unseen => exact h.unseen

theorem HostsVisited.ofEligible (h : HostsVisited tokens before ⟨excludedHostIds, devices⟩ pass)
    {hostId : Identifier} (hEligible : isEligible tokens excludedHostIds hostId found.1 = true)
    (hUnseen : hostId ∉ pass.seenHostIds) (hSeen : next.seenHostIds = hostId :: pass.seenHostIds)
    (hHost : hostId ∈ hosts next.connectedRuntimes ↔
      hostId ∈ hosts pass.connectedRuntimes ∨ connectSucceeds tokens hostId found = true)
    (hOthers : ∀ other, other ≠ hostId →
      runtimesOf other next.connectedRuntimes = runtimesOf other pass.connectedRuntimes)
    : HostsVisited tokens before ⟨excludedHostIds, devices ++ [found]⟩ next := by
  have hUnsighted : DiscoveryRound.sights tokens hostId ⟨excludedHostIds, devices⟩ = false := by
    rw [h.seen] at hUnseen
    exact eq_false_of_ne_true hUnseen
  have hNotFirst : DiscoveryRound.firstConnects tokens hostId ⟨excludedHostIds, devices⟩ = false := by
    by_contra hFirst
    rw [Bool.not_eq_false] at hFirst
    rw [DiscoveryRound.sights_of_firstConnects hFirst] at hUnsighted
    contradiction
  constructor
  case seen =>
    intro other
    rw [hSeen, List.mem_cons, DiscoveryRound.sights_of_eligible hEligible hUnsighted, h.seen]
  case connected =>
    intro other
    rw [DiscoveryRound.firstConnects_of_eligible hEligible hUnsighted]
    by_cases hSame : other = hostId
    . rw [hSame, hHost, h.connected, hNotFirst, if_pos rfl]
      simp
    . rw [if_neg hSame, ← h.connected, mem_hosts_iff, mem_hosts_iff, hOthers other hSame]
  case unseen =>
    intro other hNot
    rw [hSeen, List.mem_cons, not_or] at hNot
    rw [hOthers other hNot.left]
    exact h.unseen other hNot.right

theorem VisitStep.keepsHosts (h : HostsVisited tokens before ⟨excludedHostIds, devices⟩ pass)
    (hStep : VisitStep tokens excludedHostIds pass found next)
    : HostsVisited tokens before ⟨excludedHostIds, devices ++ [found]⟩ next := by
  cases hStep with
  | passedOver hSeen => exact h.ofPassedOver hSeen
  | @listed hostId kept hEligible hUnseen hReset =>
    have hHosts : hosts kept = hosts pass.connectedRuntimes := hosts_resetMissed hReset
    have hListed : hostId ∈ hosts pass.connectedRuntimes := by
      by_contra hAbsent
      rw [resetMissed_eq_none_iff.mpr hAbsent] at hReset
      contradiction
    apply h.ofEligible hEligible hUnseen rfl
    . simp [hHosts, hListed]
    . intro other hOther
      exact runtimesOf_resetMissed hOther hReset
  | failed created transports hEligible hUnseen hAbsent hFails hCreated hTransports =>
    apply h.ofEligible hEligible hUnseen rfl
    . simp [hFails]
    . intro other _
      rfl
  | @arrived hostId runtime hEligible hUnseen hAbsent hSucceeds hId hHost =>
    apply h.ofEligible hEligible hUnseen rfl
    . have hPushed : hostId ∈ hosts (pass.connectedRuntimes ++ [⟨runtime, 0⟩]) := by
        unfold hosts
        rw [List.map_append, List.mem_append]
        right
        rw [← hHost]
        exact List.mem_singleton_self _
      simp [hSucceeds]
      exact hPushed
    . intro other hOther
      change runtimesOf other (pass.connectedRuntimes ++ [⟨runtime, 0⟩]) = _
      unfold runtimesOf
      have hNone : [(⟨runtime, 0⟩ : ConnectedWifiRuntime)].filter
          (fun connected => connected.hostId == other) = [] := by
        rw [List.filter_eq_nil_iff]
        intro connected hMem hSame
        rw [List.mem_singleton.mp hMem, beq_iff_eq] at hSame
        exact hOther (hSame.symm.trans hHost)
      rw [List.filter_append, hNone, List.append_nil]

end Visit

theorem hostsVisited_devices (tokens : List Message.Token) (before : ReconcileState)
    (round : DiscoveryRound)
    : HostsVisited (collectTokens tokens) before round
        (round.devices.foldl (Reconciliation.visit (collectTokens tokens) round.excludedHostIds)
          ⟨before, [], []⟩) := by
  rcases round with ⟨excludedHostIds, devices⟩
  simp only
  induction devices using List.reverseRecOn with
  | nil =>
    constructor
    case seen => simp [DiscoveryRound.sights, DiscoveryRound.firstEligible]
    case connected => simp [DiscoveryRound.firstConnects, DiscoveryRound.firstEligible]
    case unseen =>
      intro hostId _
      rfl
  | append_singleton devices found ih =>
    rw [List.foldl_append, List.foldl_cons, List.foldl_nil]
    exact (visit_step tokens excludedHostIds _ found).keepsHosts ih

theorem mem_hosts_scanMissing (seenHostIds : List Identifier)
    (connectedRuntimes : List ConnectedWifiRuntime) (hostId : Identifier)
    : hostId ∈ hosts (scanMissing seenHostIds connectedRuntimes).1
        ↔
      ∃ connected ∈ runtimesOf hostId connectedRuntimes,
        (connected.counted (hostId ∈ seenHostIds)).stays = true := by
  rw [scanMissing_eq]
  unfold hosts runtimesOf
  simp only [List.mem_map, List.mem_filter, beq_iff_eq]
  constructor
  . rintro ⟨counted, ⟨⟨connected, hMem, hCounted⟩, hStays⟩, hHost⟩
    have hSame : connected.hostId = hostId := by
      rw [← hHost, ← hCounted]
      rfl
    rw [← hCounted, hSame] at hStays
    exact ⟨connected, ⟨hMem, hSame⟩, hStays⟩
  . rintro ⟨connected, ⟨hMem, hSame⟩, hStays⟩
    refine ⟨_, ⟨⟨connected, hMem, rfl⟩, ?_⟩, hSame⟩
    rw [hSame]
    exact hStays

/--
The hosts after a round: those with an eligible advertisement that were connected before or whose first such
advertisement connects, and those without one that were not missed often enough.
-/
theorem mem_hosts_reconcile (tokens : List Message.Token) (before : ReconcileState)
    (round : DiscoveryRound) (hostId : Identifier)
    : hostId ∈ hosts (before.reconcileDiscoveredDevices (collectTokens tokens) round).1.connectedRuntimes
        ↔
      if round.sights (collectTokens tokens) hostId then
        hostId ∈ hosts before.connectedRuntimes ∨ round.firstConnects (collectTokens tokens) hostId = true
      else
        ∃ connected ∈ runtimesOf hostId before.connectedRuntimes, (connected.counted false).stays = true := by
  have hPass := hostsVisited_devices tokens before round
  unfold ReconcileState.reconcileDiscoveredDevices
  generalize round.devices.foldl
    (Reconciliation.visit (collectTokens tokens) round.excludedHostIds) ⟨before, [], []⟩ = pass at hPass ⊢
  simp only
  rw [(disconnect_missing _ _).left, mem_hosts_scanMissing]
  by_cases hSights : round.sights (collectTokens tokens) hostId = true
  . have hSeen := (hPass.seen hostId).mpr hSights
    rw [if_pos hSights, decide_eq_true hSeen, ← hPass.connected, mem_hosts_iff]
    constructor
    . rintro ⟨connected, hMem, _⟩
      exact ⟨connected, hMem⟩
    . rintro ⟨connected, hMem⟩
      exact ⟨connected, hMem, rfl⟩
  . have hUnseen : hostId ∉ pass.seenHostIds := fun hSeen => hSights ((hPass.seen hostId).mp hSeen)
    rw [if_neg hSights, decide_eq_false hUnseen, hPass.unseen hostId hUnseen]

def advertised (reach : String → Except (Error .std) Unit) (device : WifiDiscoveredDevice)
    : WifiDiscoveredDevice × Except (Error .std) Unit :=
  (device,
    match device.endpoint with
    | none => .error .argument
    | some endpoint => reach endpoint)

def Reachable (reach : String → Except (Error .std) Unit) (device : WifiDiscoveredDevice) : Prop :=
  ∃ endpoint, device.endpoint = some endpoint ∧ reach endpoint = .ok ()

def hostsAfter (tokens : List Message.Token) (before : ReconcileState) (excludedHostIds : List Identifier)
    (reach : String → Except (Error .std) Unit) (devices : List WifiDiscoveredDevice)
    : List Identifier :=
  hosts (before.reconcileDiscoveredDevices (collectTokens tokens)
    ⟨excludedHostIds, devices.map (advertised reach)⟩).1.connectedRuntimes

/--
In every order of the devices the same hosts are connected, and each host with an eligible advertisement that
can be reached is.
-/
structure ConnectsInAnyOrder (tokens : List Message.Token) (before : ReconcileState)
    (excludedHostIds : List Identifier) (reach : String → Except (Error .std) Unit)
    (devices : List WifiDiscoveredDevice) : Prop where
  permuted : ∀ others : List WifiDiscoveredDevice, others.Perm devices → ∀ hostId,
    hostId ∈ hostsAfter tokens before excludedHostIds reach others
      ↔ hostId ∈ hostsAfter tokens before excludedHostIds reach devices
  reached : ∀ hostId, ∀ device ∈ devices,
    isEligible (collectTokens tokens) excludedHostIds hostId device = true → Reachable reach device →
      hostId ∈ hostsAfter tokens before excludedHostIds reach devices

def UsableToken (tokens : List Message.Token) (hostId : Identifier) : Prop :=
  ∃ token, collectTokens tokens hostId = some token ∧ token.data.items.length = 32

theorem connectSucceeds_advertised {tokens : List Message.Token} {hostId : Identifier}
    {reach : String → Except (Error .std) Unit} {device : WifiDiscoveredDevice}
    : connectSucceeds (collectTokens tokens) hostId (advertised reach device) = true
        ↔ UsableToken tokens hostId ∧ Reachable reach device := by
  unfold connectSucceeds advertised UsableToken Reachable WifiConnection.fromDiscoveredDevice
    WifiConnection.fromEndpoint
  cases collectTokens tokens hostId with
  | none => simp
  | some token =>
    cases device.endpoint with
    | none => simp [Except.isOk, Except.toBool]
    | some endpoint =>
      by_cases hLength : token.data.items.length = 32
      . cases hReach : reach endpoint <;> simp [hLength, hReach, Except.isOk, Except.toBool]
      . simp [hLength, Except.isOk, Except.toBool]

section Permuted

variable {tokens : List Message.Token} {before : ReconcileState} {excludedHostIds : List Identifier}
  {reach : String → Except (Error .std) Unit} {devices others : List WifiDiscoveredDevice}
  {hostId : Identifier}

theorem sights_iff
    : DiscoveryRound.sights (collectTokens tokens) hostId ⟨excludedHostIds, devices.map (advertised reach)⟩
          = true
        ↔
      ∃ device ∈ devices, isEligible (collectTokens tokens) excludedHostIds hostId device = true := by
  unfold DiscoveryRound.sights DiscoveryRound.firstEligible
  rw [List.find?_isSome]
  simp only [List.mem_map]
  constructor
  . rintro ⟨found, ⟨device, hMem, hFound⟩, hEligible⟩
    rw [← hFound] at hEligible
    exact ⟨device, hMem, hEligible⟩
  . rintro ⟨device, hMem, hEligible⟩
    exact ⟨_, ⟨device, hMem, rfl⟩, hEligible⟩

theorem firstConnects_iff
    : DiscoveryRound.firstConnects (collectTokens tokens) hostId
          ⟨excludedHostIds, devices.map (advertised reach)⟩ = true
        ↔
      ∃ device, devices.find? (isEligible (collectTokens tokens) excludedHostIds hostId) = some device
        ∧ UsableToken tokens hostId ∧ Reachable reach device := by
  unfold DiscoveryRound.firstConnects DiscoveryRound.firstEligible
  rw [List.find?_map, Option.any_map, Option.any_eq_true]
  constructor
  . rintro ⟨device, hFirst, hSucceeds⟩
    exact ⟨device, hFirst, connectSucceeds_advertised.mp hSucceeds⟩
  . rintro ⟨device, hFirst, hSucceeds⟩
    exact ⟨device, hFirst, connectSucceeds_advertised.mpr hSucceeds⟩

theorem mem_hostsAfter_iff
    : hostId ∈ hostsAfter tokens before excludedHostIds reach devices
        ↔
      if ∃ device ∈ devices, isEligible (collectTokens tokens) excludedHostIds hostId device = true then
        hostId ∈ hosts before.connectedRuntimes
          ∨ ∃ device, devices.find? (isEligible (collectTokens tokens) excludedHostIds hostId) = some device
            ∧ UsableToken tokens hostId ∧ Reachable reach device
      else
        ∃ connected ∈ runtimesOf hostId before.connectedRuntimes,
          (connected.counted false).stays = true := by
  unfold hostsAfter
  rw [mem_hosts_reconcile, firstConnects_iff]
  simp only [sights_iff]

/-
When the host is not connected and can be reached by one eligible advertisement, it can by all of them, and
its token is usable.
-/
def AgreeOnHost (tokens : List Message.Token) (before : ReconcileState) (excludedHostIds : List Identifier)
    (reach : String → Except (Error .std) Unit) (devices : List WifiDiscoveredDevice)
    (hostId : Identifier) : Prop :=
  hostId ∉ hosts before.connectedRuntimes →
    ∀ device ∈ devices, isEligible (collectTokens tokens) excludedHostIds hostId device = true →
      Reachable reach device →
        UsableToken tokens hostId
          ∧ ∀ other ∈ devices, isEligible (collectTokens tokens) excludedHostIds hostId other = true →
            Reachable reach other

theorem AgreeOnHost.find?_iff (h : AgreeOnHost tokens before excludedHostIds reach devices hostId)
    (hAbsent : hostId ∉ hosts before.connectedRuntimes) (hPerm : others.Perm devices)
    : (∃ device, others.find? (isEligible (collectTokens tokens) excludedHostIds hostId) = some device
          ∧ UsableToken tokens hostId ∧ Reachable reach device)
        ↔
      ∃ device ∈ devices, isEligible (collectTokens tokens) excludedHostIds hostId device = true
        ∧ Reachable reach device := by
  constructor
  . rintro ⟨device, hFirst, _, hReach⟩
    exact ⟨device, hPerm.mem_iff.mp (List.mem_of_find?_eq_some hFirst), List.find?_some hFirst, hReach⟩
  . rintro ⟨device, hMem, hEligible, hReach⟩
    rcases h hAbsent device hMem hEligible hReach with ⟨hToken, hAll⟩
    cases hFirst : others.find? (isEligible (collectTokens tokens) excludedHostIds hostId) with
    | none =>
      have hNone := List.find?_eq_none.mp hFirst device (hPerm.mem_iff.mpr hMem)
      contradiction
    | some first =>
      have hFirstMem := hPerm.mem_iff.mp (List.mem_of_find?_eq_some hFirst)
      exact ⟨first, rfl, hToken, hAll first hFirstMem (List.find?_some hFirst)⟩

theorem AgreeOnHost.mem_hostsAfter (h : AgreeOnHost tokens before excludedHostIds reach devices hostId)
    (hPerm : others.Perm devices)
    : hostId ∈ hostsAfter tokens before excludedHostIds reach others
        ↔
      if ∃ device ∈ devices, isEligible (collectTokens tokens) excludedHostIds hostId device = true then
        hostId ∈ hosts before.connectedRuntimes
          ∨ ∃ device ∈ devices, isEligible (collectTokens tokens) excludedHostIds hostId device = true
            ∧ Reachable reach device
      else
        ∃ connected ∈ runtimesOf hostId before.connectedRuntimes,
          (connected.counted false).stays = true := by
  rw [mem_hostsAfter_iff]
  simp only [hPerm.mem_iff]
  by_cases hListed : hostId ∈ hosts before.connectedRuntimes
  . simp only [hListed, true_or]
  . rw [h.find?_iff hListed hPerm]

/--
The order of the devices does not matter exactly when the advertisements of each host that is to be connected
agree.
-/
theorem connectsInAnyOrder_iff (tokens : List Message.Token) (before : ReconcileState)
    (excludedHostIds : List Identifier) (reach : String → Except (Error .std) Unit)
    (devices : List WifiDiscoveredDevice)
    : ConnectsInAnyOrder tokens before excludedHostIds reach devices
        ↔
      ∀ hostId, AgreeOnHost tokens before excludedHostIds reach devices hostId := by
  constructor
  . intro hAny hostId hAbsent device hMem hEligible hReach
    have hFirst : ∀ other ∈ devices,
        isEligible (collectTokens tokens) excludedHostIds hostId other = true →
          UsableToken tokens hostId ∧ Reachable reach other := by
      intro other hOther hOtherEligible
      rcases List.append_of_mem hOther with ⟨earlier, later, hSplit⟩
      have hPerm : (other :: (earlier ++ later)).Perm devices := by
        rw [hSplit]
        exact List.perm_middle.symm
      have hConnected := (hAny.permuted _ hPerm hostId).mpr (hAny.reached hostId device hMem hEligible hReach)
      rw [mem_hostsAfter_iff, if_pos ⟨other, List.mem_cons_self, hOtherEligible⟩,
        List.find?_cons_of_pos hOtherEligible] at hConnected
      rcases hConnected with hListed | ⟨first, hFirst, hToken, hFirstReach⟩
      . exact absurd hListed hAbsent
      . injection hFirst with hFirst
        rw [hFirst]
        exact ⟨hToken, hFirstReach⟩
    exact ⟨(hFirst device hMem hEligible).left,
      fun other hOther hOtherEligible => (hFirst other hOther hOtherEligible).right⟩
  . intro hAgree
    constructor
    . intro others hPerm hostId
      rw [(hAgree hostId).mem_hostsAfter hPerm, (hAgree hostId).mem_hostsAfter (.refl devices)]
    . intro hostId device hMem hEligible hReach
      rw [(hAgree hostId).mem_hostsAfter (.refl devices), if_pos ⟨device, hMem, hEligible⟩]
      exact .inr ⟨device, hMem, hEligible, hReach⟩

end Permuted

section Moved

def movedDevice (d : UInt8) : WifiDiscoveredDevice where
  host := "lamp.local"
  address := some ⟨192, 168, 1, d⟩
  hostId := some 7
  port := some 8788
  protocol := some wifiProtocol
  auth := some wifiAuth

def movedReach (endpoint : String) : Except (Error .std) Unit :=
  if endpoint = "192.168.1.21:8788" then .ok () else .error .timeout

/-
The old advertisement comes first.
-/
theorem not_connectsInAnyOrder
    : ¬ ∀ (tokens : List Message.Token) (before : ReconcileState) (excludedHostIds : List Identifier)
        (reach : String → Except (Error .std) Unit) (devices : List WifiDiscoveredDevice),
        ConnectsInAnyOrder tokens before excludedHostIds reach devices := by
  intro hAll
  have hReached := (hAll [tokenOf 7] .empty [] movedReach [movedDevice 20, movedDevice 21]).reached 7
    (movedDevice 21) (by simp) (by decide +kernel) ⟨"192.168.1.21:8788", by decide +kernel, rfl⟩
  revert hReached
  decide +kernel

end Moved

end Wifi
end Enody
