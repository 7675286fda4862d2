import Enody.Wifi.Lemmas.Visit

/-!
This module relates the constructor of a `WifiEnvironment` to `reconcile_discovered_devices`. From an empty
list both go through the devices in lock step: the checks against the list never find the host, and every
runtime that the scan looks at has been seen.
-/

namespace Enody
namespace Wifi

variable {tokens : List Message.Token} {excludedHostIds : List Identifier} {initial : InitialPass}
  {pass : Reconciliation} {found : WifiDiscoveredDevice × Except (Error .std) Unit}

structure InLockStep (initial : InitialPass) (pass : Reconciliation) : Prop where
  seen : pass.seenHostIds = initial.seenHostIds
  listed : pass.connectedRuntimes = initial.connectedRuntimes
  created : pass.created = initial.created
  sighted : ∀ connected ∈ initial.connectedRuntimes, connected.hostId ∈ initial.seenHostIds
  fresh : ∀ connected ∈ initial.connectedRuntimes, connected.missedDiscoveries = 0

def connects (found : WifiDiscoveredDevice × Except (Error .std) Unit) : WifiDiscoveredDevice × Bool :=
  (found.1, found.2.isOk)

theorem InLockStep.absent (h : InLockStep initial pass) {hostId : Identifier}
    (hUnseen : hostId ∉ initial.seenHostIds)
    : hostId ∉ hosts pass.connectedRuntimes := by
  intro hMem
  rw [h.listed] at hMem
  rcases List.mem_map.mp hMem with ⟨connected, hConnected, hHost⟩
  have hSeen := h.sighted connected hConnected
  rw [hHost] at hSeen
  exact hUnseen hSeen

theorem InLockStep.seeing (h : InLockStep initial pass) (hostId : Identifier)
    : InLockStep { initial with seenHostIds := hostId :: initial.seenHostIds }
        { pass with seenHostIds := hostId :: pass.seenHostIds } where
  seen := by simp only [h.seen]
  listed := h.listed
  created := h.created
  sighted := by
    intro connected hMem
    exact List.mem_cons_of_mem _ (h.sighted connected hMem)
  fresh := h.fresh

theorem InLockStep.numbering (h : InLockStep initial pass) (transports : Nat → Connection.RuntimeState)
    : InLockStep { initial with created := initial.created + 1 }
        { pass with created := pass.created + 1, transports := transports } where
  seen := h.seen
  listed := h.listed
  created := by simp only [h.created]
  sighted := h.sighted
  fresh := h.fresh

theorem InLockStep.pushing (h : InLockStep initial pass) {runtime : WifiRuntime}
    (hSeen : runtimeHostId runtime ∈ initial.seenHostIds)
    : InLockStep { initial with connectedRuntimes := initial.connectedRuntimes ++ [⟨runtime, 0⟩] }
        (pass.push runtime) where
  seen := h.seen
  listed := by simp only [Reconciliation.push, h.listed]
  created := h.created
  sighted := by
    intro connected hMem
    rcases List.mem_append.mp hMem with hMem | hMem
    . exact h.sighted connected hMem
    . rw [List.mem_singleton.mp hMem]
      exact hSeen
  fresh := by
    intro connected hMem
    rcases List.mem_append.mp hMem with hMem | hMem
    . exact h.fresh connected hMem
    . rw [List.mem_singleton.mp hMem]

theorem InLockStep.connect (h : InLockStep initial pass) {hostId : Identifier} {runtime : WifiRuntime}
    (hUnseen : hostId ∉ initial.seenHostIds) (hHost : runtimeHostId runtime = hostId)
    (outcome : Except (Error .std) Unit)
    : InLockStep
        (if outcome.isOk then
          { initial with
            seenHostIds := hostId :: initial.seenHostIds
            created := initial.created + 1
            connectedRuntimes := initial.connectedRuntimes ++ [⟨runtime, 0⟩] }
        else
          { initial with
            seenHostIds := hostId :: initial.seenHostIds
            created := initial.created + 1 })
        ({ pass with seenHostIds := hostId :: pass.seenHostIds }.connect hostId runtime outcome) := by
  have hNone := any_hostId_eq_false (h.absent hUnseen)
  have hNumbered := (h.seeing hostId).numbering
  cases outcome with
  | error error => exact hNumbered _
  | ok =>
    have hPass : ({ pass with seenHostIds := hostId :: pass.seenHostIds }.connect hostId runtime (.ok ()))
        = ({ pass with
              seenHostIds := hostId :: pass.seenHostIds
              created := pass.created + 1 }.setTransport runtime.id
                (Connection.RuntimeState.new.connect (.ok ())).1).push runtime := by
      have hOk : (Connection.RuntimeState.new.connect (.ok ())).2 = .ok () := rfl
      unfold Reconciliation.connect
      simp only [hOk]
      rw [if_neg]
      exact ne_true_of_eq_false hNone
    rw [hPass]
    apply (hNumbered _).pushing
    rw [hHost]
    exact List.mem_cons_self

theorem InLockStep.visit (tokens : List Message.Token) (excludedHostIds : List Identifier)
    (h : InLockStep initial pass)
    (found : WifiDiscoveredDevice × Except (Error .std) Unit)
    : InLockStep (initial.visit (collectTokens tokens) excludedHostIds (connects found))
        (pass.visit (collectTokens tokens) excludedHostIds found) := by
  rcases found with ⟨device, outcome⟩
  unfold InitialPass.visit Reconciliation.visit connects
  cases hHost : device.hostId with
  | none =>
    simp only [hHost]
    exact h
  | some hostId =>
    simp only [hHost]
    by_cases hPassed : hostId ∈ excludedHostIds
        ∨ tokenForDiscoveredDevice (collectTokens tokens) device = none ∨ hostId ∈ initial.seenHostIds
    . rw [if_pos hPassed]
      rw [← h.seen, ← passedOver_iff] at hPassed
      rw [if_pos hPassed]
      exact h
    . have hUnseen : hostId ∉ initial.seenHostIds := (not_or.mp (not_or.mp hPassed).right).right
      rw [if_neg hPassed]
      rw [← h.seen, ← passedOver_iff] at hPassed
      rw [if_neg hPassed, resetMissed_eq_none_iff.mpr (h.absent hUnseen)]
      simp only [h.created]
      cases hMade : runtimeFromDiscoveredDevice (collectTokens tokens) excludedHostIds device
          initial.created with
      | none =>
        simp only
        exact h.seeing hostId
      | some runtime =>
        have hOwn := (runtimeFromDiscoveredDevice_eq_some hMade).right
        rw [hHost] at hOwn
        injection hOwn with hOwn
        simp only
        exact h.connect hUnseen hOwn.symm outcome

/-
Without tokens no device is eligible, so it makes no difference that the constructor does not look for any.
-/
theorem visit_noTokens (initial : InitialPass) (devices : List (WifiDiscoveredDevice × Bool))
    : devices.foldl (InitialPass.visit (collectTokens []) excludedHostIds) initial = initial := by
  have hToken (device : WifiDiscoveredDevice) : tokenForDiscoveredDevice (collectTokens []) device = none := by
    unfold tokenForDiscoveredDevice collectTokens
    split
    . rfl
    . rfl
  induction devices with
  | nil => rfl
  | cons found devices ih =>
    have hVisit : initial.visit (collectTokens []) excludedHostIds found = initial := by
      unfold InitialPass.visit
      simp only [hToken]
      split
      . rfl
      . simp
    rw [List.foldl_cons, hVisit, ih]

theorem connectedRuntimes_withExcludedHostIds (tokens : List Message.Token)
    (excludedHostIds : List Identifier) (devices : List (WifiDiscoveredDevice × Bool))
    : (withExcludedHostIds tokens excludedHostIds devices).connectedRuntimes
        = (devices.foldl (InitialPass.visit (collectTokens tokens) excludedHostIds)
            ⟨[], [], 0⟩).connectedRuntimes := by
  cases tokens with
  | nil => rw [visit_noTokens]; rfl
  | cons => rfl

theorem scanMissing_of_sighted {seenHostIds : List Identifier} {connectedRuntimes : List ConnectedWifiRuntime}
    (hSighted : ∀ connected ∈ connectedRuntimes, connected.hostId ∈ seenHostIds)
    (hFresh : ∀ connected ∈ connectedRuntimes, connected.missedDiscoveries = 0)
    : scanMissing seenHostIds connectedRuntimes = (connectedRuntimes, []) := by
  induction connectedRuntimes with
  | nil => rfl
  | cons connected rest ih =>
    have hRest := ih (fun other hMem => hSighted other (List.mem_cons_of_mem _ hMem))
      (fun other hMem => hFresh other (List.mem_cons_of_mem _ hMem))
    have hSame : ({ connected with missedDiscoveries := 0 } : ConnectedWifiRuntime) = connected := by
      rw [← hFresh connected List.mem_cons_self]
    unfold scanMissing
    rw [hRest]
    simp only [hSighted connected List.mem_cons_self, ↓reduceIte, hSame]

/--
The constructor connects the runtimes that a round of discovery connects from an empty list, in the same order
and with the same counters.
-/
theorem withExcludedHostIds_eq_reconciled (tokens : List Message.Token) (excludedHostIds : List Identifier)
    (devices : List (WifiDiscoveredDevice × Except (Error .std) Unit))
    : let initial := (withExcludedHostIds tokens excludedHostIds (devices.map connects)).connectedRuntimes
      let reconciled := (ReconcileState.empty.reconcileDiscoveredDevices (collectTokens tokens)
        ⟨excludedHostIds, devices⟩).1.connectedRuntimes
      initial = reconciled ∧ ∀ connected ∈ initial, connected.missedDiscoveries = 0 := by
  have hStart : InLockStep ⟨[], [], 0⟩ ⟨.empty, [], []⟩ := by
    constructor
    case seen => rfl
    case listed => rfl
    case created => rfl
    case sighted => simp
    case fresh => simp
  have hEnd := List.foldl_rel (l := devices) hStart fun found _ initial pass h =>
    h.visit tokens excludedHostIds found
  simp only
  rw [connectedRuntimes_withExcludedHostIds, List.foldl_map]
  unfold ReconcileState.reconcileDiscoveredDevices
  simp only
  rw [hEnd.seen, hEnd.listed, scanMissing_of_sighted hEnd.sighted hEnd.fresh]
  exact ⟨rfl, hEnd.fresh⟩

end Wifi
end Enody
