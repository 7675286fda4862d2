import Enody.Cli.Impl.Hotplug
import Enody.Wifi.Lemmas.Exclusion

/-!
This module contains what `hotplug_monitor` achieves over whole runs: the hosts that the `WifiEnvironment` excludes
are at any time the hosts that are attached over USB, and while no exclusion is under way none of them is connected
over WiFi as well. A host that has left may be connected over WiFi again.
-/

namespace Enody
namespace Wifi
namespace DiscoveryState

open Transition

variable {tokens : List Message.Token} {s t : DiscoveryState} {label : DiscoveryLabel}

/--
An excluded host is connected at most as long as the call that excludes it has not looked at the list.
-/
structure Apart (s : DiscoveryState) : Prop where
  distinct : (hosts s.connectedRuntimes).Nodup
  pending : ∀ hostId ∈ s.excludedHostIds,
    hostId ∈ hosts s.connectedRuntimes → .inserted hostId ∈ s.excluding

namespace Apart

theorem initial (excludedHostIds : List Identifier) (devices : List (WifiDiscoveredDevice × Bool))
    : Apart (withExcludedHostIds tokens excludedHostIds devices) := by
  have h : Exclusion (withExcludedHostIds tokens excludedHostIds devices) := .initial excludedHostIds devices
  exact ⟨h.distinct, h.pending⟩

theorem shrink (h : Apart s) (hExcluded : t.excludedHostIds ⊆ s.excludedHostIds)
    (hDistinct : (hosts t.connectedRuntimes).Nodup)
    (hHosts : hosts t.connectedRuntimes ⊆ hosts s.connectedRuntimes)
    (hExcluding : ∀ hostId ∈ hosts t.connectedRuntimes,
      .inserted hostId ∈ s.excluding → .inserted hostId ∈ t.excluding)
    : Apart t where
  distinct := hDistinct
  pending := by
    intro hostId hMem hHost
    apply hExcluding hostId hHost
    exact h.pending hostId (hExcluded hMem) (hHosts hHost)

theorem keep (h : Apart s) (hExcluded : t.excludedHostIds = s.excludedHostIds)
    (hHosts : hosts t.connectedRuntimes = hosts s.connectedRuntimes) (hExcluding : t.excluding = s.excluding)
    : Apart t := by
  apply h.shrink
  . rw [hExcluded]
    exact List.Subset.refl _
  . rw [hHosts]
    exact h.distinct
  . rw [hHosts]
    exact List.Subset.refl _
  . intro hostId _ hMem
    rw [hExcluding]
    exact hMem

theorem removed (h : Apart s) {removed : List WifiRuntime}
    (hPerm : (removed ++ runtimes t.connectedRuntimes).Perm (runtimes s.connectedRuntimes))
    (hExcluded : t.excludedHostIds = s.excludedHostIds)
    (hExcluding : ∀ hostId, hostId ∉ removed.map runtimeHostId →
      .inserted hostId ∈ s.excluding → .inserted hostId ∈ t.excluding)
    : Apart t := by
  have hHosts := hosts_perm hPerm
  have hDistinct := hHosts.nodup_iff.mpr h.distinct
  rw [List.nodup_append] at hDistinct
  rcases hDistinct with ⟨_, hRest, hDisjoint⟩
  apply h.shrink
  . rw [hExcluded]
    exact List.Subset.refl _
  . exact hRest
  . intro hostId hMem
    apply hHosts.subset
    exact List.mem_append_right _ hMem
  . intro hostId hMem
    apply hExcluding
    intro hRemoved
    exact hDisjoint hostId hRemoved hostId hMem rfl

theorem returns (h : Apart s) {call : Nat} {excluding : Excluding}
    (hCall : s.excluding[call]? = some excluding)
    (hOther : ∀ hostId ∈ hosts s.connectedRuntimes, excluding ≠ .inserted hostId)
    (hExcluded : t.excludedHostIds = s.excludedHostIds) (hList : t.connectedRuntimes = s.connectedRuntimes)
    (hExcluding : t.excluding = s.excluding.eraseIdx call)
    : Apart t := by
  apply h.shrink
  . rw [hExcluded]
    exact List.Subset.refl _
  . rw [hList]
    exact h.distinct
  . rw [hList]
    exact List.Subset.refl _
  . intro hostId hMem hInserted
    rw [hList] at hMem
    rw [hExcluding]
    exact mem_eraseIdx_of_ne hInserted hCall fun hEq => hOther hostId hMem hEq.symm

theorem step (h : Apart s) (hOk : label = .connected → s.keepsExclusion .connected = true)
    (hStep : DiscoveryStep s label t)
    : Apart t := by
  cases hStep with
  | skip _ _ hRuntimes _ =>
    refine h.keep rfl ?_ rfl
    rw [hosts_eq, hosts_eq, hRuntimes]
  | pushed hRound hPhase hAbsent =>
    have hAllowed := hOk rfl
    unfold keepsExclusion at hAllowed
    simp only [hRound, Option.map_some, hPhase, List.contains_eq_mem, hAbsent, decide_false,
      Bool.or_false, Bool.not_eq_true', decide_eq_false_iff_not] at hAllowed
    constructor
    . rw [hosts_push, (List.perm_append_singleton _ _).nodup_iff, List.nodup_cons]
      exact ⟨hAbsent, h.distinct⟩
    . intro hostId hMem hHost
      rw [hosts_push, List.mem_append, List.mem_singleton] at hHost
      rcases hHost with hOld | hEq
      . exact h.pending hostId hMem hOld
      . rw [hEq] at hMem
        contradiction
  | scanned _ _ hPerm _ => exact h.removed hPerm rfl fun _ _ hMem => hMem
  | excludeNew _ =>
    constructor
    . exact h.distinct
    . intro hostId hMem hHost
      rw [List.mem_append, List.mem_singleton]
      rcases List.mem_cons.mp hMem with hEq | hOld
      . right
        rw [hEq]
      . left
        exact h.pending hostId hOld hHost
  | removedNone hCall hAbsent =>
    refine h.returns hCall ?_ rfl rfl rfl
    intro hostId hMem hEq
    injection hEq with hEq
    rw [← hEq] at hMem
    contradiction
  | removedSome hCall hPerm =>
    refine h.removed hPerm rfl ?_
    intro hostId hOther hInserted
    apply mem_set_of_ne hInserted hCall
    intro hEq
    injection hEq with hEq
    rw [hEq] at hOther
    simp at hOther
  | sentLeft hCall _ => exact h.returns hCall (by simp) rfl rfl rfl
  | droppedLeft hCall _ => exact h.returns hCall (by simp) rfl rfl rfl
  | removedExcluded =>
    refine h.shrink (List.filter_subset_self _) h.distinct (List.Subset.refl _) ?_
    intro hostId _ hMem
    exact hMem
  | _ => exact h.keep rfl rfl rfl

end Apart

theorem exclusion_of_discovery (hTask : Cli.isDiscoveryTask label = true) (hStep : DiscoveryStep s label t)
    : t.excludedHostIds = s.excludedHostIds ∧ t.excluding = s.excluding := by
  cases hStep with
  | excludeAgain => contradiction
  | excludeNew => contradiction
  | removedNone => contradiction
  | removedSome => contradiction
  | sentLeft => contradiction
  | droppedLeft => contradiction
  | removedExcluded => contradiction
  | received => contradiction
  | _ => exact ⟨rfl, rfl⟩

theorem excludedHostIds_of_removeConnected {call : Nat} (h : s.removeConnected call = some t)
    : t.excludedHostIds = s.excludedHostIds := by
  cases removeConnected_step h with
  | removedNone => rfl
  | removedSome => rfl

theorem excludedHostIds_of_sendLeft {call : Nat} (h : s.sendLeft call = some t)
    : t.excludedHostIds = s.excludedHostIds := by
  cases sendLeft_step h with
  | sentLeft => rfl
  | droppedLeft => rfl

end DiscoveryState
end Wifi

namespace Cli

open Wifi Transition

section HostIds

variable {hostIds : List (Identifier × Identifier)} {connectionId hostId other : Identifier}

theorem insertHostId_of_notMem (h : connectionId ∉ hostIds.map Prod.fst)
    : insertHostId hostIds connectionId hostId = hostIds ++ [(connectionId, hostId)] := by
  unfold insertHostId
  rw [List.filter_eq_self.mpr]
  intro entry hEntry
  rw [decide_eq_true_eq]
  intro hEq
  apply h
  rw [← hEq]
  exact List.mem_map_of_mem hEntry

theorem nodup_insertHostId (h : (hostIds.map Prod.fst).Nodup)
    : ((insertHostId hostIds connectionId hostId).map Prod.fst).Nodup := by
  unfold insertHostId
  rw [List.map_append, List.map_singleton, List.nodup_append]
  refine ⟨(List.filter_sublist.map _).nodup h, by simp, ?_⟩
  intro key hKey last hLast hEq
  rw [List.mem_map] at hKey
  rcases hKey with ⟨entry, hEntry, hFst⟩
  rw [List.mem_filter, decide_eq_true_eq] at hEntry
  rw [List.mem_singleton] at hLast
  rw [hEq, hLast] at hFst
  exact hEntry.2 hFst

theorem nodup_insertQueried (h : (hostIds.map Prod.fst).Nodup)
    (entry : Identifier × Except (Error .std) Identifier)
    : ((insertQueried hostIds entry).map Prod.fst).Nodup := by
  unfold insertQueried
  cases entry.2 with
  | ok hostId => exact nodup_insertHostId h
  | error _ => exact h

theorem nodup_queryHostIds (queried : List (Identifier × Except (Error .std) Identifier))
    : ((queryHostIds queried).map Prod.fst).Nodup := by
  have hFold (hostIds : List (Identifier × Identifier)) (h : (hostIds.map Prod.fst).Nodup)
      : ((queried.foldl insertQueried hostIds).map Prod.fst).Nodup := by
    induction queried generalizing hostIds with
    | nil => exact h
    | cons entry queried ih =>
      apply ih
      exact nodup_insertQueried h entry
  exact hFold [] List.nodup_nil

theorem findHostId_eq_some (h : findHostId hostIds connectionId = some hostId)
    : (connectionId, hostId) ∈ hostIds := by
  unfold findHostId at h
  rw [Option.map_eq_some_iff] at h
  rcases h with ⟨entry, hFind, hHost⟩
  have hKey := List.find?_some hFind
  rw [decide_eq_true_eq] at hKey
  have hEntry : entry = (connectionId, hostId) := by rw [← hKey, ← hHost]
  rw [← hEntry]
  exact List.mem_of_find?_eq_some hFind

theorem mem_removeHostId (hKeys : (hostIds.map Prod.fst).Nodup) (hHosts : (hostIds.map Prod.snd).Nodup)
    (hFind : findHostId hostIds connectionId = some hostId)
    : other ∈ (removeHostId hostIds connectionId).map Prod.snd ↔
      other ∈ hostIds.map Prod.snd ∧ other ≠ hostId := by
  have hEntry := findHostId_eq_some hFind
  unfold removeHostId
  constructor
  . intro hMem
    rw [List.mem_map] at hMem
    rcases hMem with ⟨entry, hMem, hSnd⟩
    rw [List.mem_filter, decide_eq_true_eq] at hMem
    refine ⟨?_, ?_⟩
    . rw [← hSnd]
      exact List.mem_map_of_mem hMem.1
    . intro hEq
      have hSame := List.inj_on_of_nodup_map hHosts hMem.1 hEntry (hSnd.trans hEq)
      exact hMem.2 (congrArg Prod.fst hSame)
  . rintro ⟨hMem, hOther⟩
    rw [List.mem_map] at hMem
    rcases hMem with ⟨entry, hMem, hSnd⟩
    rw [List.mem_map]
    refine ⟨entry, ?_, hSnd⟩
    rw [List.mem_filter, decide_eq_true_eq]
    refine ⟨hMem, ?_⟩
    intro hKey
    have hSame := List.inj_on_of_nodup_map hKeys hMem hEntry hKey
    rw [hSame] at hSnd
    exact hOther hSnd.symm

end HostIds

namespace HotplugMonitor

variable {tokens : List Message.Token} {s t : HotplugMonitor} {label : HotplugLabel} {wifi : DiscoveryState}

/-
Each connection has an identifier of its own, no two attached devices have one host, and the discovery task does
not push a runtime whose host has been excluded since its round began.
-/
def keepsApart (s : HotplugMonitor) : HotplugLabel → Bool
  | .queried (.ok hostId) =>
    !s.usbHostIds.contains hostId
      &&
    match s.phase with
    | .querying connectionId => !(s.usbConnectionHostIds.map Prod.fst).contains connectionId
    | _ => true
  | .discovery label => s.wifiEnvironment.all fun wifi => wifi.keepsExclusion label
  | _ => true

/--
The environment excludes exactly the hosts, and a call is under way only while the monitor waits for it.
-/
structure Follows (hostIds : List Identifier) (phase : MonitorPhase) (wifi : DiscoveryState) : Prop where
  excluded : ∀ hostId, hostId ∈ wifi.excludedHostIds ↔ hostId ∈ hostIds
  apart : wifi.Apart
  calls : phase ≠ .excluding → wifi.excluding = []

structure Tracks (s : HotplugMonitor) : Prop where
  keys : (s.usbConnectionHostIds.map Prod.fst).Nodup
  distinct : s.usbHostIds.Nodup
  environment : ∀ wifi, s.wifiEnvironment = some wifi → Follows s.usbHostIds s.phase wifi

namespace Tracks

theorem setPhase (h : Tracks s) {phase : MonitorPhase} (hBefore : s.phase ≠ .excluding)
    : Tracks { s with phase := phase } where
  keys := h.keys
  distinct := h.distinct
  environment := by
    intro wifi hWifi
    have hFollows := h.environment wifi hWifi
    exact ⟨hFollows.excluded, hFollows.apart, fun _ => hFollows.calls hBefore⟩

theorem setWifi (h : Tracks s) {next : DiscoveryState} (hWifi : s.wifiEnvironment = some wifi)
    (hExcluded : next.excludedHostIds = wifi.excludedHostIds) (hApart : next.Apart)
    (hExcluding : next.excluding = wifi.excluding)
    : Tracks { s with wifiEnvironment := some next } where
  keys := h.keys
  distinct := h.distinct
  environment := by
    intro other hOther
    injection hOther with hOther
    subst hOther
    have hFollows := h.environment wifi hWifi
    refine ⟨?_, hApart, ?_⟩
    . rw [hExcluded]
      exact hFollows.excluded
    . rw [hExcluding]
      exact hFollows.calls

theorem excluded (h : Tracks s) {next : DiscoveryState} (hWifi : s.wifiEnvironment = some wifi)
    (hExcluded : next.excludedHostIds = wifi.excludedHostIds) (hApart : next.Apart)
    : Tracks (s.excluded next) where
  keys := h.keys
  distinct := h.distinct
  environment := by
    intro other hOther
    injection hOther with hOther
    subst hOther
    refine ⟨?_, hApart, ?_⟩
    . rw [hExcluded]
      exact (h.environment wifi hWifi).excluded
    . unfold HotplugMonitor.excluded
      simp only
      split
      . next hEmpty => exact fun _ => List.isEmpty_iff.mp hEmpty
      . exact fun hPhase => absurd rfl hPhase

theorem usb (h : Tracks s) {event : Except (Error .std) (EnvironmentRuntimeEvent Identifier)}
    (hStep : s.usb event = some t)
    : Tracks t := by
  unfold HotplugMonitor.usb at hStep
  split at hStep
  . next hPhase =>
    injection hStep with hStep
    subst hStep
    apply h.setPhase
    rw [hPhase]
    simp
  . next hPhase =>
    injection hStep with hStep
    subst hStep
    apply h.setPhase
    rw [hPhase]
    simp
  . next connectionId hPhase =>
    split at hStep
    . injection hStep with hStep
      subst hStep
      exact h
    . next hostId hFind =>
      injection hStep with hStep
      subst hStep
      constructor
      case keys => exact (List.filter_sublist.map _).nodup h.keys
      case distinct => exact (List.filter_sublist.map _).nodup h.distinct
      case environment =>
        intro wifi hWifi
        rw [Option.map_eq_some_iff] at hWifi
        rcases hWifi with ⟨before, hBefore, hEq⟩
        subst hEq
        have hFollows := h.environment before hBefore
        refine ⟨?_, hFollows.apart.step (by simp) .removedExcluded, hFollows.calls⟩
        intro other
        unfold DiscoveryState.removeExcluded usbHostIds
        rw [mem_removeHostId h.keys h.distinct hFind]
        simp only [List.mem_filter, decide_eq_true_eq, hFollows.excluded other, usbHostIds]
  . contradiction

theorem queried (h : Tracks s) {result : Except (Error .std) Identifier}
    (hOk : s.keepsApart (.queried result) = true) (hStep : s.queried result = some t)
    : Tracks t := by
  unfold HotplugMonitor.queried at hStep
  split at hStep
  . next connectionId hostId hPhase =>
    unfold keepsApart at hOk
    simp only [hPhase, Bool.and_eq_true, Bool.not_eq_true', List.contains_eq_mem,
      decide_eq_false_iff_not] at hOk
    rcases hOk with ⟨hHost, hConnection⟩
    rw [insertHostId_of_notMem hConnection] at hStep
    have hKeys : ((s.usbConnectionHostIds ++ [(connectionId, hostId)]).map Prod.fst).Nodup := by
      rw [List.map_append, List.map_singleton, (List.perm_append_singleton _ _).nodup_iff, List.nodup_cons]
      exact ⟨hConnection, h.keys⟩
    have hDistinct : ((s.usbConnectionHostIds ++ [(connectionId, hostId)]).map Prod.snd).Nodup := by
      rw [List.map_append, List.map_singleton, (List.perm_append_singleton _ _).nodup_iff, List.nodup_cons]
      exact ⟨hHost, h.distinct⟩
    simp only at hStep
    split at hStep
    . next hWifi =>
      injection hStep with hStep
      subst hStep
      refine ⟨hKeys, hDistinct, ?_⟩
      intro wifi hSome
      rw [hWifi] at hSome
      contradiction
    . next wifi hWifi =>
      injection hStep with hStep
      subst hStep
      have hFollows := h.environment wifi hWifi
      refine ⟨hKeys, hDistinct, ?_⟩
      intro next hNext
      injection hNext with hNext
      subst hNext
      have hNew : hostId ∉ wifi.excludedHostIds := by
        rw [hFollows.excluded]
        exact hHost
      unfold DiscoveryState.exclude HotplugMonitor.excluded
      simp only [hNew, ↓reduceIte]
      refine ⟨?_, hFollows.apart.step (by simp) (.excludeNew hNew), ?_⟩
      . intro other
        unfold usbHostIds
        rw [List.mem_cons, hFollows.excluded, List.map_append, List.map_singleton, List.mem_append,
          List.mem_singleton]
        exact or_comm
      . simp
  . next hPhase =>
    injection hStep with hStep
    subst hStep
    apply h.setPhase
    rw [hPhase]
    simp
  . contradiction

theorem exclude (h : Tracks s) (hStep : s.exclude = some t) : Tracks t := by
  unfold HotplugMonitor.exclude at hStep
  split at hStep
  . next wifi hPhase hWifi =>
    have hFollows := h.environment wifi hWifi
    split at hStep
    . rw [Option.map_eq_some_iff] at hStep
      rcases hStep with ⟨next, hNext, hEq⟩
      subst hEq
      apply h.excluded hWifi (DiscoveryState.excludedHostIds_of_removeConnected hNext)
      exact hFollows.apart.step (by simp) (DiscoveryState.removeConnected_step hNext)
    . rw [Option.map_eq_some_iff] at hStep
      rcases hStep with ⟨next, hNext, hEq⟩
      subst hEq
      apply h.excluded hWifi (DiscoveryState.excludedHostIds_of_sendLeft hNext)
      exact hFollows.apart.step (by simp) (DiscoveryState.sendLeft_step hNext)
    . contradiction
  . contradiction

theorem receive (h : Tracks s) (hStep : s.wifi = some t) : Tracks t := by
  unfold HotplugMonitor.wifi at hStep
  split at hStep
  . next wifi hPhase hWifi =>
    rw [Option.map_eq_some_iff] at hStep
    rcases hStep with ⟨next, hNext, hEq⟩
    subst hEq
    have hFollows := h.environment wifi hWifi
    cases DiscoveryState.receive_step hNext with
    | received hQueue =>
      exact h.setWifi hWifi rfl (hFollows.apart.step (by simp) (.received hQueue)) rfl
  . contradiction

theorem discovery (h : Tracks s) {label : DiscoveryLabel} (hOk : s.keepsApart (.discovery label) = true)
    (hStep : s.discovery (collectTokens tokens) label = some t)
    : Tracks t := by
  unfold HotplugMonitor.discovery at hStep
  split at hStep
  . contradiction
  . next wifi hWifi =>
    rw [Option.ite_none_right_eq_some, Option.map_eq_some_iff] at hStep
    rcases hStep with ⟨hTask, next, hNext, hEq⟩
    subst hEq
    have hFollows := h.environment wifi hWifi
    have hCase := DiscoveryState.step_cases hNext
    rcases DiscoveryState.exclusion_of_discovery hTask hCase with ⟨hExcluded, hExcluding⟩
    apply h.setWifi hWifi hExcluded _ hExcluding
    apply hFollows.apart.step _ hCase
    intro hLabel
    unfold keepsApart at hOk
    rw [hWifi, hLabel] at hOk
    exact hOk

theorem step (h : Tracks s) (hOk : s.keepsApart label = true)
    (hStep : s.step (collectTokens tokens) label = some t)
    : Tracks t := by
  cases label with
  | usb event => exact h.usb hStep
  | queried result => exact h.queried hOk hStep
  | exclude => exact h.exclude hStep
  | wifi => exact h.receive hStep
  | discovery label => exact h.discovery hOk hStep
  | wifiFailed error =>
    unfold HotplugMonitor.step HotplugMonitor.wifiFailed at hStep
    simp only at hStep
    split at hStep
    . next hPhase _ =>
      injection hStep with hStep
      subst hStep
      apply h.setPhase
      rw [hPhase]
      simp
    . contradiction
  | interrupt =>
    unfold HotplugMonitor.step HotplugMonitor.interrupt at hStep
    simp only at hStep
    split at hStep
    . next hPhase =>
      injection hStep with hStep
      subst hStep
      apply h.setPhase
      rw [hPhase]
      simp
    . contradiction
  | stopped usb wifi =>
    unfold HotplugMonitor.step HotplugMonitor.stopped at hStep
    simp only at hStep
    split at hStep
    . next hPhase =>
      have hBefore : s.phase ≠ .excluding := by
        rw [hPhase]
        simp
      split at hStep <;> injection hStep with hStep <;> subst hStep <;> exact h.setPhase hBefore
    . contradiction

theorem start (queried : List (Identifier × Except (Error .std) Identifier))
    (discovered : Except (Error .std) (List (WifiDiscoveredDevice × Bool)))
    (hDistinct : ((queryHostIds queried).map Prod.snd).Nodup)
    : Tracks (start tokens queried discovered) where
  keys := nodup_queryHostIds queried
  distinct := hDistinct
  environment := by
    intro wifi hWifi
    unfold HotplugMonitor.start at hWifi
    simp only at hWifi
    split at hWifi
    . next devices =>
      injection hWifi with hWifi
      subst hWifi
      exact ⟨fun _ => Iff.rfl, .initial _ _, fun _ => rfl⟩
    . contradiction

end Tracks

/--
In every run, however the events of both environments and the steps of the discovery task follow each other: the
excluded hosts are those that are attached over USB, and no host is connected both ways, except for the one that
the monitor is just excluding.
-/
theorem run_hotplug (tokens : List Message.Token) (queried : List (Identifier × Except (Error .std) Identifier))
    (discovered : Except (Error .std) (List (WifiDiscoveredDevice × Bool))) (labels : List HotplugLabel)
    (hDistinct : ((queryHostIds queried).map Prod.snd).Nodup)
    (hRun : Run (step (collectTokens tokens)) (fun s label => s.keepsApart label = true)
      (start tokens queried discovered) labels s)
    (hWifi : s.wifiEnvironment = some wifi)
    : (∀ hostId, hostId ∈ wifi.excludedHostIds ↔ hostId ∈ s.usbHostIds)
        ∧
      ∀ hostId ∈ s.usbHostIds, hostId ∈ hosts wifi.connectedRuntimes →
        s.phase = .excluding ∧ .inserted hostId ∈ wifi.excluding := by
  have h : Tracks s := by
    apply hRun.invariant
    . exact .start queried discovered hDistinct
    . intro s label t h hOk hStep
      exact h.step hOk hStep
  have hFollows := h.environment wifi hWifi
  refine ⟨hFollows.excluded, ?_⟩
  intro hostId hUsb hHost
  have hInserted := hFollows.apart.pending hostId ((hFollows.excluded hostId).mpr hUsb) hHost
  refine ⟨?_, hInserted⟩
  by_contra hPhase
  rw [hFollows.calls hPhase] at hInserted
  contradiction

def isExcluding (s : HotplugMonitor) : Bool :=
  match s.phase with
  | .excluding => true
  | _ => false

theorem run_hotplug_pluggedIn
    : ∃ (s : HotplugMonitor) (wifi : DiscoveryState), s.wifiEnvironment = some wifi ∧ s.usbHostIds = [1]
        ∧ ∀ hostId ∈ s.usbHostIds, hostId ∉ hosts wifi.connectedRuntimes := by
  have hExec : ((execIf (step (collectTokens [tokenOf 1])) keepsApart
      (start [tokenOf 1] [] (.ok [(eligibleDevice 1, true)]))
      [.usb (.ok (.arrived 7)), .queried (.ok 1), .exclude, .exclude,
        .discovery (.startRound [eligibleDevice 1]), .discovery .visit, .discovery .scan]).map
          fun s => (s.usbHostIds, s.isExcluding, s.wifiEnvironment.isSome))
      = some ([1], false, true) := by
    decide +kernel
  rcases Run.exists_of_execIf hExec with ⟨s, hRun, hState⟩
  injection hState with hUsb hState
  injection hState with hPhase hSome
  rcases Option.isSome_iff_exists.mp hSome with ⟨wifi, hWifi⟩
  refine ⟨s, wifi, hWifi, hUsb, ?_⟩
  intro hostId hMem hHost
  rcases (run_hotplug [tokenOf 1] [] (.ok [(eligibleDevice 1, true)]) _ (by decide) hRun hWifi).2 hostId hMem hHost
    with ⟨hExcluding, _⟩
  simp only [isExcluding, hExcluding, Bool.true_eq_false] at hPhase

end HotplugMonitor

end Cli
end Enody
