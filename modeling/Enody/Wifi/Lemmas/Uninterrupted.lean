import Enody.Transition.Run
import Enody.Wifi.Impl.Discovery
import Enody.Wifi.Lemmas.Reconcile

/-!
This module contains how a round of `reconcile_discovered_devices` runs in the discovery task: when no call
comes in between, the steps of the task compute what the round computes at once.
-/

namespace Enody
namespace Wifi

open Transition

/--
The discovery task is in a round that has come as far as `pass`.
-/
structure Simulates (excludedHostIds : List Identifier) (pass : Reconciliation)
    (phase : RoundPhase) (s : DiscoveryState)
    : Prop where
  listed : s.connectedRuntimes = pass.connectedRuntimes
  created : s.created = pass.created
  round : s.round = some ⟨excludedHostIds, pass.seenHostIds, pass.events, phase⟩

def TaskRun (tokens : TokenMap) (s : DiscoveryState) (labels : List DiscoveryLabel)
    (t : DiscoveryState)
    : Prop :=
  Run (DiscoveryState.step tokens) (fun _ label => WifiDiscovery.isTaskStep label = true) s labels t

namespace TaskRun

variable {tokens : TokenMap} {s t u : DiscoveryState} {labels more : List DiscoveryLabel}

theorem single {l : DiscoveryLabel} (hTask : WifiDiscovery.isTaskStep l = true)
    (hs : s.step tokens l = some t)
    : TaskRun tokens s [l] t :=
  Run.single hTask hs

theorem append (hRun : TaskRun tokens s labels t) (hMore : TaskRun tokens t more u)
    : TaskRun tokens s (labels ++ more) u :=
  Run.append hRun hMore

end TaskRun

theorem step_connected_of_absent {tokens : TokenMap} {s : DiscoveryState}
    {excludedHostIds seenHostIds : List Identifier} {events : List RuntimeEvent}
    {runtime : WifiRuntime} {devices : List WifiDiscoveredDevice}
    (hRound : s.round = some ⟨excludedHostIds, seenHostIds, events, .connecting runtime devices⟩)
    (hAbsent : runtimeHostId runtime ∉ hosts s.connectedRuntimes)
    : s.step tokens .connected
        =
      some
        { s with
          connectedRuntimes := s.connectedRuntimes ++ [⟨runtime, 0⟩]
          changes := s.changes ++ [.arrived runtime]
          round := some
            ⟨excludedHostIds, seenHostIds, events ++ [.arrived runtime], .visiting devices⟩ } := by
  simp only [DiscoveryState.step, DiscoveryState.connected, hRound]
  rw [if_neg (ne_true_of_eq_false (any_hostId_eq_false hAbsent))]

namespace Simulates

variable (tokens : List Message.Token) {excludedHostIds : List Identifier}
variable {pass : Reconciliation} {s : DiscoveryState}

theorem visit {found : WifiDiscoveredDevice × Except (Error .std) Unit}
    {devices : List WifiDiscoveredDevice}
    (h : Simulates excludedHostIds pass (.visiting (found.1 :: devices)) s)
    : ∃ labels t,
        TaskRun (collectTokens tokens) s labels t
          ∧
        Simulates excludedHostIds (pass.visit (collectTokens tokens) excludedHostIds found)
          (.visiting devices) t := by
  rcases found with ⟨device, outcome⟩
  have hVisit : s.step (collectTokens tokens) .visit
      = some (s.visitDevice (collectTokens tokens)
          ⟨excludedHostIds, pass.seenHostIds, pass.events, .visiting (device :: devices)⟩
          device devices) := by
    simp only [DiscoveryState.step, DiscoveryState.visit, h.round]
  have hFirst := TaskRun.single rfl hVisit
  unfold DiscoveryState.visitDevice at hFirst
  unfold Reconciliation.visit
  simp only at hFirst ⊢
  cases hHost : device.hostId with
  | none =>
    simp only [hHost] at hFirst ⊢
    exact ⟨_, _, hFirst, h.listed, h.created, rfl⟩
  | some hostId =>
    simp only [hHost] at hFirst ⊢
    by_cases hPassed : hostId ∈ excludedHostIds
        ∨ tokenForDiscoveredDevice (collectTokens tokens) device = none ∨ hostId ∈ pass.seenHostIds
    . rw [if_pos hPassed] at hFirst
      rw [if_pos (passedOver_iff.mpr hPassed)]
      exact ⟨_, _, hFirst, h.listed, h.created, rfl⟩
    . rw [if_neg hPassed] at hFirst
      rw [if_neg (passedOver_iff.not.mpr hPassed)]
      rw [h.listed, h.created] at hFirst
      cases hReset : resetMissed hostId pass.connectedRuntimes with
      | some kept =>
        simp only [hReset] at hFirst ⊢
        exact ⟨_, _, hFirst, rfl, rfl, rfl⟩
      | none =>
        simp only [hReset] at hFirst ⊢
        cases hMade : runtimeFromDiscoveredDevice (collectTokens tokens) excludedHostIds device
            pass.created with
        | none =>
          simp only [hMade] at hFirst ⊢
          exact ⟨_, _, hFirst, rfl, rfl, rfl⟩
        | some runtime =>
          simp only [hMade] at hFirst ⊢
          have hOwn := runtimeFromDiscoveredDevice_eq_some hMade
          cases outcome with
          | error error =>
            exact ⟨_, _, hFirst.append (.single (l := .connectFailed) rfl rfl), rfl, rfl, rfl⟩
          | ok =>
            have hAbsent := resetMissed_eq_none_iff.mp hReset
            have hHostId : runtimeHostId runtime = hostId := by
              rw [hHost] at hOwn
              injection hOwn.right with hOwn
              exact hOwn.symm
            rw [connect_ok { pass with seenHostIds := hostId :: pass.seenHostIds } hOwn.left hAbsent]
            rw [← hHostId] at hAbsent
            exact ⟨_, _, hFirst.append (.single rfl (step_connected_of_absent rfl hAbsent)),
              rfl, rfl, rfl⟩

theorem visits {devices : List (WifiDiscoveredDevice × Except (Error .std) Unit)}
    (h : Simulates excludedHostIds pass (.visiting (devices.map Prod.fst)) s)
    : ∃ labels t,
        TaskRun (collectTokens tokens) s labels t
          ∧
        Simulates excludedHostIds
          (devices.foldl (Reconciliation.visit (collectTokens tokens) excludedHostIds) pass)
          (.visiting []) t := by
  induction devices generalizing pass s with
  | nil => exact ⟨[], s, .nil, h⟩
  | cons found devices ih =>
    rcases h.visit tokens with ⟨first, next, hFirst, hNext⟩
    rcases ih hNext with ⟨more, t, hMore, hLast⟩
    exact ⟨first ++ more, t, hFirst.append hMore, hLast⟩

theorem scan (h : Simulates excludedHostIds pass (.visiting []) s)
    : let scanned := scanMissing pass.seenHostIds pass.connectedRuntimes
      ∃ labels t,
        TaskRun (collectTokens tokens) s labels t
          ∧
        Simulates excludedHostIds { pass with connectedRuntimes := scanned.1 }
          (.disconnecting scanned.2) t := by
  have hScan : s.step (collectTokens tokens) .scan = s.scan := rfl
  unfold DiscoveryState.scan at hScan
  simp only [h.round, h.listed] at hScan
  exact ⟨_, _, TaskRun.single rfl hScan, rfl, h.created, rfl⟩

theorem disconnects {missing : List WifiRuntime}
    (h : Simulates excludedHostIds pass (.disconnecting missing) s)
    : ∃ labels t,
        TaskRun (collectTokens tokens) s labels t
          ∧
        Simulates excludedHostIds (missing.foldl Reconciliation.disconnect pass)
          (.disconnecting []) t := by
  induction missing generalizing pass s with
  | nil => exact ⟨[], s, .nil, h⟩
  | cons runtime missing ih =>
    have hStep : s.step (collectTokens tokens) .disconnected = s.disconnected := rfl
    unfold DiscoveryState.disconnected at hStep
    simp only [h.round] at hStep
    rcases disconnect_fields pass runtime with ⟨hConnected, hCreated, hSeen, hEvents, _⟩
    have hNext : ∃ next,
        s.step (collectTokens tokens) .disconnected = some next
          ∧
        Simulates excludedHostIds (pass.disconnect runtime) (.disconnecting missing) next := by
      refine ⟨_, hStep, h.listed.trans hConnected.symm, h.created.trans hCreated.symm, ?_⟩
      rw [hSeen, hEvents]
    rcases hNext with ⟨next, hFirst, hNext⟩
    rcases ih hNext with ⟨more, t, hMore, hLast⟩
    exact ⟨_, t, (TaskRun.single rfl hFirst).append hMore, hLast⟩

end Simulates

theorem run_uninterrupted (tokens : List Message.Token) (before : ReconcileState)
    (round : DiscoveryRound) (s : DiscoveryState) (hIdle : s.round = none)
    (hExcluded : s.excludedHostIds = round.excludedHostIds)
    (hListed : s.connectedRuntimes = before.connectedRuntimes) (hCreated : s.created = before.created)
    : let after := before.reconcileDiscoveredDevices (collectTokens tokens) round
      ∃ labels t seenHostIds,
        TaskRun (collectTokens tokens) s labels t
          ∧ t.connectedRuntimes = after.1.connectedRuntimes
          ∧ t.created = after.1.created
          ∧ t.round
            = some ⟨round.excludedHostIds, seenHostIds, after.2, .disconnecting []⟩ := by
  have hStart : s.step (collectTokens tokens) (.startRound (round.devices.map Prod.fst))
      = s.startRound (round.devices.map Prod.fst) := rfl
  unfold DiscoveryState.startRound at hStart
  simp only [hIdle, hExcluded] at hStart
  have hStarted : ∃ next,
      s.step (collectTokens tokens) (.startRound (round.devices.map Prod.fst)) = some next
        ∧
      Simulates round.excludedHostIds ⟨before, [], []⟩ (.visiting (round.devices.map Prod.fst)) next :=
    ⟨_, hStart, hListed, hCreated, rfl⟩
  rcases hStarted with ⟨started, hFirst, hStarted⟩
  rcases hStarted.visits tokens with ⟨visits, visited, hVisits, hVisited⟩
  rcases hVisited.scan tokens with ⟨scans, scanned, hScans, hScanned⟩
  rcases hScanned.disconnects tokens with ⟨disconnects, t, hDisconnects, hLast⟩
  have hRun := (((TaskRun.single rfl hFirst).append hVisits).append hScans).append hDisconnects
  exact ⟨_, t, _, hRun, hLast.listed, hLast.created, hLast.round⟩

end Wifi
end Enody
