import Enody.Connection.Lemmas.Runtime
import Enody.Wifi.Lemmas.Eligible

/-!
This module contains the way of `reconcile_discovered_devices` through the devices of a round: what one
device does, and what the list, the events and the transports are after some of them.
-/

namespace Enody
namespace Wifi

def ConnectedWifiRuntime.sighted (connected : ConnectedWifiRuntime) : ConnectedWifiRuntime :=
  { connected with missedDiscoveries := 0 }

def ConnectedWifiRuntime.counted (connected : ConnectedWifiRuntime) (isSeen : Bool)
    : ConnectedWifiRuntime :=
  { connected with
    missedDiscoveries := if isSeen then 0 else min (connected.missedDiscoveries + 1) 255 }

def ConnectedWifiRuntime.stays (connected : ConnectedWifiRuntime) : Bool :=
  connected.missedDiscoveries < wifiDiscoveryMissesBeforeLeft

theorem resetMissed_eq_none_iff {hostId : Identifier} {connectedRuntimes : List ConnectedWifiRuntime}
    : resetMissed hostId connectedRuntimes = none ↔ hostId ∉ hosts connectedRuntimes := by
  induction connectedRuntimes with
  | nil => simp [resetMissed, hosts]
  | cons connected rest ih =>
    unfold resetMissed
    rw [hosts, List.map_cons, List.mem_cons, ← hosts, not_or]
    split
    . next hHost => simp [hHost]
    . next hHost => simp [ih, Ne.symm hHost]

theorem resetMissed_eq_some {hostId : Identifier} {connectedRuntimes kept : List ConnectedWifiRuntime}
    (hDistinct : (hosts connectedRuntimes).Nodup)
    (h : resetMissed hostId connectedRuntimes = some kept)
    : kept = connectedRuntimes.map fun connected =>
        if connected.hostId = hostId then connected.sighted else connected := by
  induction connectedRuntimes generalizing kept with
  | nil => contradiction
  | cons connected rest ih =>
    rw [hosts, List.map_cons, List.nodup_cons, ← hosts] at hDistinct
    unfold resetMissed at h
    rw [List.map_cons]
    split at h
    . next hHost =>
      injection h with h
      rw [if_pos hHost, ← h]
      -- no other runtime has the host
      have hOthers : rest.map (fun connected =>
          if connected.hostId = hostId then connected.sighted else connected) = rest.map id := by
        apply List.map_congr_left
        intro other hOther
        rw [if_neg]
        . rfl
        . intro hSame
          apply hDistinct.left
          rw [hHost, ← hSame]
          exact List.mem_map_of_mem hOther
      rw [hOthers, List.map_id]
      rfl
    . next hHost =>
      rw [Option.map_eq_some_iff] at h
      rcases h with ⟨keptRest, hRest, hEq⟩
      rw [if_neg hHost, ← hEq, ih hDistinct.right hRest]

theorem scanMissing_eq (seenHostIds : List Identifier) (connectedRuntimes : List ConnectedWifiRuntime)
    : let counted := connectedRuntimes.map fun connected =>
        connected.counted (connected.hostId ∈ seenHostIds)
      scanMissing seenHostIds connectedRuntimes
        =
      (counted.filter (·.stays), runtimes (counted.filter (!·.stays))) := by
  induction connectedRuntimes with
  | nil => rfl
  | cons connected rest ih =>
    simp only at ih
    unfold scanMissing
    simp only [ih, List.map_cons, List.filter_cons]
    by_cases hSeen : connected.hostId ∈ seenHostIds
    . simp [hSeen, ConnectedWifiRuntime.counted, ConnectedWifiRuntime.stays,
        wifiDiscoveryMissesBeforeLeft]
    . by_cases hStays : min (connected.missedDiscoveries + 1) 255 < wifiDiscoveryMissesBeforeLeft
      . have hNotGone : ¬ min (connected.missedDiscoveries + 1) 255 ≥ wifiDiscoveryMissesBeforeLeft := by
          omega
        simp [hSeen, ConnectedWifiRuntime.counted, ConnectedWifiRuntime.stays, hStays, hNotGone]
      . have hGone : min (connected.missedDiscoveries + 1) 255 ≥ wifiDiscoveryMissesBeforeLeft := by
          omega
        simp [hSeen, ConnectedWifiRuntime.counted, ConnectedWifiRuntime.stays, hStays, hGone, runtimes]

inductive VisitStep (tokens : TokenMap) (excludedHostIds : List Identifier) (pass : Reconciliation)
    (found : WifiDiscoveredDevice × Except (Error .std) Unit)
    : Reconciliation → Prop where
  | passedOver
      (hSeen : ∀ hostId, isEligible tokens excludedHostIds hostId found.1 = true →
        hostId ∈ pass.seenHostIds)
      : VisitStep tokens excludedHostIds pass found pass
  | listed {hostId : Identifier} {kept : List ConnectedWifiRuntime}
      (hEligible : isEligible tokens excludedHostIds hostId found.1 = true)
      (hUnseen : hostId ∉ pass.seenHostIds)
      (hReset : resetMissed hostId pass.connectedRuntimes = some kept)
      : VisitStep tokens excludedHostIds pass found
          { pass with seenHostIds := hostId :: pass.seenHostIds, connectedRuntimes := kept }
  | failed {hostId : Identifier} (created : Nat) (transports : Nat → Connection.RuntimeState)
      (hEligible : isEligible tokens excludedHostIds hostId found.1 = true)
      (hUnseen : hostId ∉ pass.seenHostIds)
      (hAbsent : hostId ∉ hosts pass.connectedRuntimes)
      (hFails : connectSucceeds tokens hostId found = false)
      (hCreated : pass.created ≤ created)
      (hTransports : ∀ id < pass.created, transports id = pass.transports id)
      : VisitStep tokens excludedHostIds pass found
          { pass with
            seenHostIds := hostId :: pass.seenHostIds
            created := created
            transports := transports }
  | arrived {hostId : Identifier} {runtime : WifiRuntime}
      (hEligible : isEligible tokens excludedHostIds hostId found.1 = true)
      (hUnseen : hostId ∉ pass.seenHostIds)
      (hAbsent : hostId ∉ hosts pass.connectedRuntimes)
      (hSucceeds : connectSucceeds tokens hostId found = true)
      (hId : runtime.id = pass.created)
      (hHost : runtimeHostId runtime = hostId)
      : VisitStep tokens excludedHostIds pass found
          (({ pass with
              seenHostIds := hostId :: pass.seenHostIds
              created := pass.created + 1 }.setTransport pass.created
                (Connection.RuntimeState.new.connect (.ok ())).1).push runtime)

theorem any_hostId_eq_false {connectedRuntimes : List ConnectedWifiRuntime} {hostId : Identifier}
    (hAbsent : hostId ∉ hosts connectedRuntimes)
    : connectedRuntimes.any (fun connected => connected.hostId = hostId) = false := by
  rw [List.any_eq_false]
  intro connected hMem hHere
  apply hAbsent
  rw [← of_decide_eq_true hHere]
  exact List.mem_map_of_mem hMem

theorem connect_ok (pass : Reconciliation) {hostId : Identifier} {runtime : WifiRuntime}
    (hId : runtime.id = pass.created) (hAbsent : hostId ∉ hosts pass.connectedRuntimes)
    : pass.connect hostId runtime (.ok ())
        =
      ({ pass with created := pass.created + 1 }.setTransport pass.created
        (Connection.RuntimeState.new.connect (.ok ())).1).push runtime := by
  have hNone := any_hostId_eq_false hAbsent
  have hOk : (Connection.RuntimeState.new.connect (.ok ())).2 = .ok () := rfl
  unfold Reconciliation.connect
  simp only [hOk, hId]
  rw [if_neg]
  exact ne_true_of_eq_false hNone

theorem passedOver_iff {tokens : TokenMap} {excludedHostIds seenHostIds : List Identifier}
    {device : WifiDiscoveredDevice} {hostId : Identifier}
    : (excludedHostIds.contains hostId || (tokenForDiscoveredDevice tokens device).isNone
          || seenHostIds.contains hostId) = true
        ↔
      hostId ∈ excludedHostIds ∨ tokenForDiscoveredDevice tokens device = none
        ∨ hostId ∈ seenHostIds := by
  rw [Bool.or_eq_true, Bool.or_eq_true, List.contains_iff_mem, Option.isNone_iff_eq_none,
    List.contains_iff_mem, or_assoc]

theorem visit_step (tokens : List Message.Token) (excludedHostIds : List Identifier)
    (pass : Reconciliation) (found : WifiDiscoveredDevice × Except (Error .std) Unit)
    : VisitStep (collectTokens tokens) excludedHostIds pass found
        (pass.visit (collectTokens tokens) excludedHostIds found) := by
  rcases found with ⟨device, outcome⟩
  unfold Reconciliation.visit
  simp only
  split
  . next hHost =>
    apply VisitStep.passedOver
    intro hostId hEligible
    have hOther := hostId_of_isEligible hEligible
    rw [hHost] at hOther
    contradiction
  . next hostId hHost =>
    have hEligible : isEligible (collectTokens tokens) excludedHostIds hostId device = true ↔ _ :=
      isEligible_iff hHost
    split
    . next hPassed =>
      apply VisitStep.passedOver
      intro other hOther
      have hSame := hostId_of_isEligible hOther
      rw [hHost] at hSame
      injection hSame with hSame
      subst hSame
      have hChecks := hEligible.mp hOther
      rw [passedOver_iff] at hPassed
      rcases hPassed with hExcluded | hToken | hSeen
      . exact absurd hExcluded hChecks.left
      . exact absurd hToken hChecks.right
      . exact hSeen
    . next hTried =>
      rw [passedOver_iff, not_or, not_or] at hTried
      rcases hTried with ⟨hAllowed, hToken, hUnseen⟩
      have hEligible := hEligible.mpr ⟨hAllowed, hToken⟩
      split
      . next kept hReset => exact .listed hEligible hUnseen hReset
      . next hReset =>
        have hAbsent := resetMissed_eq_none_iff.mp hReset
        rcases runtimeFromDiscoveredDevice_eligible hEligible pass.created outcome with
          ⟨runtime, hMade, hId, hOwn, hSucceeds⟩ | ⟨hMade, hFails⟩
        . simp only [hMade]
          cases outcome with
          | error error =>
            -- the attempt has taken a number and a transport that stays closed
            refine .failed (pass.created + 1) (Function.update pass.transports runtime.id _)
              hEligible hUnseen hAbsent hSucceeds (Nat.le_succ _) ?_
            intro id hBelow
            apply Function.update_of_ne
            omega
          | ok =>
            rw [connect_ok { pass with seenHostIds := hostId :: pass.seenHostIds } hId hAbsent]
            exact .arrived hEligible hUnseen hAbsent hSucceeds hId hOwn
        . simp only [hMade]
          exact .failed _ _ hEligible hUnseen hAbsent hFails (Nat.le_refl _) fun _ _ => rfl

/-
The list with the counters of the seen hosts set to 0.
-/
def marked (seenHostIds : List Identifier) (connectedRuntimes : List ConnectedWifiRuntime)
    : List ConnectedWifiRuntime :=
  connectedRuntimes.map fun connected =>
    if seenHostIds.contains connected.hostId then connected.sighted else connected

theorem hosts_marked (seenHostIds : List Identifier) (connectedRuntimes : List ConnectedWifiRuntime)
    : hosts (marked seenHostIds connectedRuntimes) = hosts connectedRuntimes := by
  unfold hosts marked
  rw [List.map_map]
  apply List.map_congr_left
  intro connected _
  simp only [Function.comp]
  split
  . rfl
  . rfl

theorem marked_cons_of_not_mem {hostId : Identifier} (seenHostIds : List Identifier)
    {connectedRuntimes : List ConnectedWifiRuntime} (h : hostId ∉ hosts connectedRuntimes)
    : marked (hostId :: seenHostIds) connectedRuntimes = marked seenHostIds connectedRuntimes := by
  unfold marked
  apply List.map_congr_left
  intro connected hMem
  have hOther : connected.hostId ≠ hostId := by
    intro hSame
    apply h
    rw [← hSame]
    exact List.mem_map_of_mem hMem
  simp [hOther]

theorem marked_cons (hostId : Identifier) (seenHostIds : List Identifier)
    (connectedRuntimes : List ConnectedWifiRuntime)
    : (marked seenHostIds connectedRuntimes).map (fun connected =>
        if connected.hostId = hostId then connected.sighted else connected)
        =
      marked (hostId :: seenHostIds) connectedRuntimes := by
  unfold marked
  rw [List.map_map]
  apply List.map_congr_left
  intro connected _
  simp only [Function.comp, List.contains_cons, Bool.or_eq_true, beq_iff_eq]
  by_cases hSeen : seenHostIds.contains connected.hostId = true
  . simp only [hSeen, or_true, ↓reduceIte]
    split
    . rfl
    . rfl
  . simp only [hSeen, or_false, Bool.false_eq_true, ↓reduceIte]

/--
The state of the round after some devices. `added` are the runtimes it has pushed.
-/
structure Visited (tokens : TokenMap) (before : ReconcileState) (round : DiscoveryRound)
    (pass : Reconciliation) (added : List WifiRuntime)
    : Prop where
  seen : ∀ hostId, hostId ∈ pass.seenHostIds ↔ round.sights tokens hostId = true
  listed : pass.connectedRuntimes
    = marked pass.seenHostIds before.connectedRuntimes ++ added.map fun runtime => ⟨runtime, 0⟩
  reported : pass.events = added.map .arrived
  arrived : ∀ hostId, hostId ∈ added.map runtimeHostId ↔
    hostId ∉ hosts before.connectedRuntimes ∧ round.firstConnects tokens hostId = true
  distinct : (added.map runtimeHostId).Nodup

structure Opened (before : ReconcileState) (pass : Reconciliation) (added : List WifiRuntime)
    : Prop where
  grown : before.created ≤ pass.created
  numbered : ∀ runtime ∈ added, before.created ≤ runtime.id ∧ runtime.id < pass.created
  distinct : (added.map WifiRuntime.id).Nodup
  kept : ∀ id < before.created, pass.transports id = before.transports id
  live : ∀ runtime ∈ added, (pass.transports runtime.id).Live

namespace Visited

variable {tokens : TokenMap} {before : ReconcileState} {round : DiscoveryRound}
variable {excludedHostIds : List Identifier}
variable {devices : List (WifiDiscoveredDevice × Except (Error .std) Unit)}
variable {found : WifiDiscoveredDevice × Except (Error .std) Unit}
variable {pass next : Reconciliation} {added : List WifiRuntime} {hostId : Identifier}

theorem hosts_eq (h : Visited tokens before round pass added)
    : hosts pass.connectedRuntimes
        = hosts before.connectedRuntimes ++ added.map runtimeHostId := by
  rw [h.listed, hosts, List.map_append, ← hosts, hosts_marked, List.map_map]
  rfl

theorem nodup (h : Visited tokens before round pass added)
    (hDistinct : (hosts before.connectedRuntimes).Nodup)
    : (hosts pass.connectedRuntimes).Nodup := by
  rw [h.hosts_eq, List.nodup_append']
  refine ⟨hDistinct, h.distinct, ?_⟩
  intro hostId hBefore hAdded
  exact ((h.arrived hostId).mp hAdded).left hBefore

theorem unsighted (h : Visited tokens before round pass added) (hUnseen : hostId ∉ pass.seenHostIds)
    : round.sights tokens hostId = false := by
  rw [h.seen] at hUnseen
  exact eq_false_of_ne_true hUnseen

theorem not_mem_added (h : Visited tokens before round pass added) (hUnseen : hostId ∉ pass.seenHostIds)
    : hostId ∉ added.map runtimeHostId := by
  intro hAdded
  have hSighted := DiscoveryRound.sights_of_firstConnects ((h.arrived hostId).mp hAdded).right
  rw [h.unsighted hUnseen] at hSighted
  contradiction

theorem not_mem_before (h : Visited tokens before round pass added)
    (hAbsent : hostId ∉ hosts pass.connectedRuntimes)
    : hostId ∉ hosts before.connectedRuntimes := by
  rw [h.hosts_eq, List.mem_append, not_or] at hAbsent
  exact hAbsent.left

theorem seen_cons (h : Visited tokens before ⟨excludedHostIds, devices⟩ pass added)
    (hEligible : isEligible tokens excludedHostIds hostId found.1 = true)
    (hUnseen : hostId ∉ pass.seenHostIds) (other : Identifier)
    : other ∈ hostId :: pass.seenHostIds
        ↔
      DiscoveryRound.sights tokens other ⟨excludedHostIds, devices ++ [found]⟩ = true := by
  rw [List.mem_cons, DiscoveryRound.sights_of_eligible hEligible (h.unsighted hUnseen), h.seen]

theorem ofPassedOver (h : Visited tokens before ⟨excludedHostIds, devices⟩ pass added)
    (hSeen : ∀ hostId, isEligible tokens excludedHostIds hostId found.1 = true →
      hostId ∈ pass.seenHostIds)
    : Visited tokens before ⟨excludedHostIds, devices ++ [found]⟩ pass added := by
  have hFirst : ∀ hostId,
      DiscoveryRound.firstEligible tokens hostId ⟨excludedHostIds, devices ++ [found]⟩
        = DiscoveryRound.firstEligible tokens hostId ⟨excludedHostIds, devices⟩ := by
    intro hostId
    apply DiscoveryRound.firstEligible_of_passedOver
    intro hostId hEligible
    rw [← h.seen]
    exact hSeen hostId hEligible
  constructor
  case seen =>
    intro hostId
    rw [h.seen, DiscoveryRound.sights, DiscoveryRound.sights, hFirst]
  case listed => exact h.listed
  case reported => exact h.reported
  case arrived =>
    intro hostId
    rw [h.arrived, DiscoveryRound.firstConnects, DiscoveryRound.firstConnects, hFirst]
  case distinct => exact h.distinct

theorem ofListed (h : Visited tokens before ⟨excludedHostIds, devices⟩ pass added)
    (hDistinct : (hosts before.connectedRuntimes).Nodup)
    (hEligible : isEligible tokens excludedHostIds hostId found.1 = true)
    (hUnseen : hostId ∉ pass.seenHostIds) {kept : List ConnectedWifiRuntime}
    (hReset : resetMissed hostId pass.connectedRuntimes = some kept)
    : Visited tokens before ⟨excludedHostIds, devices ++ [found]⟩
        { pass with seenHostIds := hostId :: pass.seenHostIds, connectedRuntimes := kept } added := by
  have hUnsighted := h.unsighted hUnseen
  have hNotAdded := h.not_mem_added hUnseen
  have hBefore : hostId ∈ hosts before.connectedRuntimes := by
    have hListed : hostId ∈ hosts pass.connectedRuntimes := by
      by_contra hAbsent
      rw [resetMissed_eq_none_iff.mpr hAbsent] at hReset
      contradiction
    rw [h.hosts_eq, List.mem_append] at hListed
    exact hListed.resolve_right hNotAdded
  constructor
  case seen => exact h.seen_cons hEligible hUnseen
  case listed =>
    simp only
    rw [resetMissed_eq_some (h.nodup hDistinct) hReset, h.listed, List.map_append, marked_cons,
      List.map_map]
    congr 1
    apply List.map_congr_left
    intro runtime _
    simp only [Function.comp]
    split
    . rfl
    . rfl
  case reported => exact h.reported
  case arrived =>
    intro other
    rw [h.arrived, DiscoveryRound.firstConnects_of_eligible hEligible hUnsighted]
    by_cases hSame : other = hostId
    . rw [hSame]
      simp [hBefore]
    . rw [if_neg hSame]
  case distinct => exact h.distinct

theorem ofFailed (h : Visited tokens before ⟨excludedHostIds, devices⟩ pass added)
    (hEligible : isEligible tokens excludedHostIds hostId found.1 = true)
    (hUnseen : hostId ∉ pass.seenHostIds) (hAbsent : hostId ∉ hosts pass.connectedRuntimes)
    (hFails : connectSucceeds tokens hostId found = false)
    (hConnected : next.connectedRuntimes = pass.connectedRuntimes)
    (hSeen : next.seenHostIds = hostId :: pass.seenHostIds) (hEvents : next.events = pass.events)
    : Visited tokens before ⟨excludedHostIds, devices ++ [found]⟩ next added := by
  have hUnsighted := h.unsighted hUnseen
  have hNotAdded := h.not_mem_added hUnseen
  have hNotBefore := h.not_mem_before hAbsent
  constructor
  case seen =>
    rw [hSeen]
    exact h.seen_cons hEligible hUnseen
  case listed =>
    rw [hConnected, hSeen, marked_cons_of_not_mem _ hNotBefore]
    exact h.listed
  case reported =>
    rw [hEvents]
    exact h.reported
  case arrived =>
    intro other
    rw [DiscoveryRound.firstConnects_of_eligible hEligible hUnsighted]
    by_cases hSame : other = hostId
    . rw [hSame, if_pos rfl, hFails]
      simp [hNotAdded]
    . rw [if_neg hSame]
      exact h.arrived other
  case distinct => exact h.distinct

theorem ofArrived (h : Visited tokens before ⟨excludedHostIds, devices⟩ pass added)
    (hEligible : isEligible tokens excludedHostIds hostId found.1 = true)
    (hUnseen : hostId ∉ pass.seenHostIds) (hAbsent : hostId ∉ hosts pass.connectedRuntimes)
    (hSucceeds : connectSucceeds tokens hostId found = true) {runtime : WifiRuntime}
    (hHost : runtimeHostId runtime = hostId)
    (hConnected : next.connectedRuntimes = pass.connectedRuntimes ++ [⟨runtime, 0⟩])
    (hSeen : next.seenHostIds = hostId :: pass.seenHostIds)
    (hEvents : next.events = pass.events ++ [.arrived runtime])
    : Visited tokens before ⟨excludedHostIds, devices ++ [found]⟩ next (added ++ [runtime]) := by
  have hUnsighted := h.unsighted hUnseen
  have hNotAdded := h.not_mem_added hUnseen
  have hNotBefore := h.not_mem_before hAbsent
  constructor
  case seen =>
    rw [hSeen]
    exact h.seen_cons hEligible hUnseen
  case listed =>
    rw [hConnected, hSeen, marked_cons_of_not_mem _ hNotBefore, h.listed, List.map_append,
      List.append_assoc]
    rfl
  case reported =>
    rw [hEvents, h.reported, List.map_append]
    rfl
  case arrived =>
    intro other
    rw [DiscoveryRound.firstConnects_of_eligible hEligible hUnsighted, List.map_append,
      List.mem_append, h.arrived, List.map_singleton, List.mem_singleton, hHost]
    by_cases hSame : other = hostId
    . rw [hSame, if_pos rfl, hSucceeds]
      simp [hNotBefore]
    . rw [if_neg hSame]
      simp [hSame]
  case distinct =>
    rw [List.map_append, List.nodup_append']
    refine ⟨h.distinct, List.nodup_singleton _, ?_⟩
    intro other hOther hNew
    rw [List.map_singleton, List.mem_singleton, hHost] at hNew
    rw [hNew] at hOther
    exact hNotAdded hOther

end Visited

theorem connect_new_live : (Connection.RuntimeState.new.connect (.ok ())).1.Live :=
  ⟨0, rfl, rfl, rfl, rfl⟩

namespace Opened

variable {before : ReconcileState} {pass next : Reconciliation} {added : List WifiRuntime}

theorem mono (h : Opened before pass added) (hCreated : pass.created ≤ next.created)
    (hTransports : ∀ id < pass.created, next.transports id = pass.transports id)
    : Opened before next added := by
  have hGrown := h.grown
  constructor
  case grown => omega
  case numbered =>
    intro runtime hMem
    have hNumber := h.numbered runtime hMem
    omega
  case distinct => exact h.distinct
  case kept =>
    intro id hBelow
    rw [hTransports id (by omega)]
    exact h.kept id hBelow
  case live =>
    intro runtime hMem
    rw [hTransports runtime.id (h.numbered runtime hMem).right]
    exact h.live runtime hMem

theorem push (h : Opened before pass added) {runtime : WifiRuntime} (hId : runtime.id = pass.created)
    (hCreated : next.created = pass.created + 1)
    (hTransports : next.transports = Function.update pass.transports pass.created
      (Connection.RuntimeState.new.connect (.ok ())).1)
    : Opened before next (added ++ [runtime]) := by
  have hMono : Opened before next added := by
    apply h.mono
    . omega
    . intro id hBelow
      rw [hTransports]
      apply Function.update_of_ne
      omega
  have hGrown := h.grown
  constructor
  case grown => exact hMono.grown
  case numbered =>
    intro other hMem
    rw [List.mem_append, List.mem_singleton] at hMem
    rcases hMem with hMem | hNew
    . exact hMono.numbered other hMem
    . rw [hNew]
      omega
  case distinct =>
    rw [List.map_append, List.nodup_append']
    refine ⟨h.distinct, List.nodup_singleton _, ?_⟩
    intro id hAdded hNew
    rw [List.map_singleton, List.mem_singleton] at hNew
    rw [List.mem_map] at hAdded
    rcases hAdded with ⟨other, hMem, hSame⟩
    have hBelow := (h.numbered other hMem).right
    omega
  case kept => exact hMono.kept
  case live =>
    intro other hMem
    rw [List.mem_append, List.mem_singleton] at hMem
    rcases hMem with hMem | hNew
    . exact hMono.live other hMem
    . rw [hNew, hTransports, hId, Function.update_self]
      exact connect_new_live

end Opened

theorem VisitStep.keeps {tokens : TokenMap} {before : ReconcileState}
    {excludedHostIds : List Identifier}
    {devices : List (WifiDiscoveredDevice × Except (Error .std) Unit)}
    {found : WifiDiscoveredDevice × Except (Error .std) Unit} {pass next : Reconciliation}
    {added : List WifiRuntime}
    (hDistinct : (hosts before.connectedRuntimes).Nodup)
    (hVisited : Visited tokens before ⟨excludedHostIds, devices⟩ pass added)
    (hOpened : Opened before pass added)
    (hStep : VisitStep tokens excludedHostIds pass found next)
    : ∃ more,
        Visited tokens before ⟨excludedHostIds, devices ++ [found]⟩ next (added ++ more)
          ∧
        Opened before next (added ++ more) := by
  cases hStep with
  | passedOver hSeen =>
    exists []
    rw [List.append_nil]
    exact ⟨hVisited.ofPassedOver hSeen, hOpened⟩
  | listed hEligible hUnseen hReset =>
    exists []
    rw [List.append_nil]
    refine ⟨hVisited.ofListed hDistinct hEligible hUnseen hReset, ?_⟩
    exact hOpened.mono (Nat.le_refl _) fun _ _ => rfl
  | failed created transports hEligible hUnseen hAbsent hFails hCreated hTransports =>
    exists []
    rw [List.append_nil]
    refine ⟨hVisited.ofFailed hEligible hUnseen hAbsent hFails rfl rfl rfl, ?_⟩
    exact hOpened.mono hCreated hTransports
  | @arrived _ runtime hEligible hUnseen hAbsent hSucceeds hId hHost =>
    exists [runtime]
    constructor
    . exact hVisited.ofArrived hEligible hUnseen hAbsent hSucceeds hHost rfl rfl rfl
    . exact hOpened.push hId rfl rfl

theorem visit_devices (tokens : List Message.Token) (before : ReconcileState)
    (round : DiscoveryRound) (hDistinct : (hosts before.connectedRuntimes).Nodup)
    : let pass := round.devices.foldl
        (Reconciliation.visit (collectTokens tokens) round.excludedHostIds) ⟨before, [], []⟩
      ∃ added,
        Visited (collectTokens tokens) before round pass added ∧ Opened before pass added := by
  rcases round with ⟨excludedHostIds, devices⟩
  simp only
  induction devices using List.reverseRecOn with
  | nil =>
    exists []
    constructor
    . constructor
      case seen => simp [DiscoveryRound.sights, DiscoveryRound.firstEligible]
      case listed => simp [marked]
      case reported => rfl
      case arrived => simp [DiscoveryRound.firstConnects, DiscoveryRound.firstEligible]
      case distinct => exact List.nodup_nil
    . constructor
      case grown => exact Nat.le_refl _
      case numbered => simp
      case distinct => exact List.nodup_nil
      case kept => simp
      case live => simp
  | append_singleton devices found ih =>
    rcases ih with ⟨added, hVisited, hOpened⟩
    rw [List.foldl_append, List.foldl_cons, List.foldl_nil]
    have hStep := visit_step tokens excludedHostIds
      (devices.foldl (Reconciliation.visit (collectTokens tokens) excludedHostIds) ⟨before, [], []⟩)
      found
    rcases hStep.keeps hDistinct hVisited hOpened with ⟨more, hNext⟩
    exact ⟨added ++ more, hNext⟩

end Wifi
end Enody
