import Enody.Wifi.Impl.Reconcile
import Enody.Wifi.Lemmas.Environment

/-!
This module contains which advertisements of a round are eligible, and which one of a host is the first:
it is the only one that `reconcile_discovered_devices` acts on.
-/

namespace Enody
namespace Wifi

def isEligible (tokens : TokenMap) (excludedHostIds : List Identifier) (hostId : Identifier)
    (device : WifiDiscoveredDevice)
    : Bool :=
  device.hostId == some hostId && !excludedHostIds.contains hostId && (tokens hostId).isSome
    && device.protocol == some wifiProtocol && device.auth == some wifiAuth

def connectSucceeds (tokens : TokenMap) (hostId : Identifier)
    (found : WifiDiscoveredDevice × Except (Error .std) Unit)
    : Bool :=
  match tokens hostId with
  | none => false
  | some token => (WifiConnection.fromDiscoveredDevice token found.1).isOk && found.2.isOk

namespace DiscoveryRound

def firstEligible (tokens : TokenMap) (hostId : Identifier) (round : DiscoveryRound)
    : Option (WifiDiscoveredDevice × Except (Error .std) Unit) :=
  round.devices.find? fun found => isEligible tokens round.excludedHostIds hostId found.1

def sights (tokens : TokenMap) (hostId : Identifier) (round : DiscoveryRound) : Bool :=
  (round.firstEligible tokens hostId).isSome

def firstConnects (tokens : TokenMap) (hostId : Identifier) (round : DiscoveryRound) : Bool :=
  (round.firstEligible tokens hostId).any (connectSucceeds tokens hostId)

end DiscoveryRound

theorem hostId_of_isEligible {tokens : TokenMap} {excludedHostIds : List Identifier}
    {hostId : Identifier} {device : WifiDiscoveredDevice}
    (h : isEligible tokens excludedHostIds hostId device = true)
    : device.hostId = some hostId := by
  unfold isEligible at h
  simp only [Bool.and_eq_true, beq_iff_eq] at h
  exact h.left.left.left.left

theorem isEligible_iff {tokens : TokenMap} {excludedHostIds : List Identifier}
    {hostId : Identifier} {device : WifiDiscoveredDevice} (hHost : device.hostId = some hostId)
    : isEligible tokens excludedHostIds hostId device = true
        ↔
      hostId ∉ excludedHostIds ∧ tokenForDiscoveredDevice tokens device ≠ none := by
  unfold isEligible tokenForDiscoveredDevice
  simp only [hHost, Bool.and_eq_true, beq_self_eq_true, true_and, Bool.not_eq_true',
    List.contains_eq_mem, decide_eq_false_iff_not, beq_iff_eq]
  cases tokens hostId with
  | none => simp
  | some token =>
    simp only [Option.isSome_some, and_true]
    split
    . next hProtocol => simp [hProtocol]
    . next hProtocol =>
      split
      . next hAuth => simp [hAuth]
      . next hAuth =>
        rw [not_not] at hProtocol hAuth
        simp [hProtocol, hAuth]

theorem token_of_isEligible {tokens : TokenMap} {excludedHostIds : List Identifier}
    {hostId : Identifier} {device : WifiDiscoveredDevice}
    (h : isEligible tokens excludedHostIds hostId device = true)
    : ∃ token, tokens hostId = some token ∧ tokenForDiscoveredDevice tokens device = some token := by
  have hHost := hostId_of_isEligible h
  have hToken := ((isEligible_iff hHost).mp h).right
  unfold tokenForDiscoveredDevice at hToken ⊢
  simp only [hHost] at hToken ⊢
  cases hSaved : tokens hostId with
  | none => simp [hSaved] at hToken
  | some token =>
    simp only [hSaved] at hToken ⊢
    split at hToken
    . contradiction
    . next hProtocol =>
      split at hToken
      . contradiction
      . next hAuth => exact ⟨token, rfl, by simp [hProtocol, hAuth]⟩

theorem runtimeFromDiscoveredDevice_eligible {tokens : List Message.Token}
    {excludedHostIds : List Identifier} {hostId : Identifier} {device : WifiDiscoveredDevice}
    (h : isEligible (collectTokens tokens) excludedHostIds hostId device = true) (id : Nat)
    (outcome : Except (Error .std) Unit)
    : (∃ runtime,
        runtimeFromDiscoveredDevice (collectTokens tokens) excludedHostIds device id = some runtime
          ∧ runtime.id = id ∧ runtimeHostId runtime = hostId
          ∧ connectSucceeds (collectTokens tokens) hostId (device, outcome) = outcome.isOk)
        ∨
      (runtimeFromDiscoveredDevice (collectTokens tokens) excludedHostIds device id = none
        ∧ connectSucceeds (collectTokens tokens) hostId (device, outcome) = false) := by
  have hHost := hostId_of_isEligible h
  have hAllowed := ((isEligible_iff hHost).mp h).left
  rcases token_of_isEligible h with ⟨token, hSaved, hToken⟩
  have hSucceeds : connectSucceeds (collectTokens tokens) hostId (device, outcome)
      = ((WifiConnection.fromDiscoveredDevice token device).isOk && outcome.isOk) := by
    unfold connectSucceeds
    simp only [hSaved]
  cases hConnection : WifiConnection.fromDiscoveredDevice token device with
  | error error =>
    rw [hConnection] at hSucceeds
    refine .inr ⟨?_, hSucceeds⟩
    unfold runtimeFromDiscoveredDevice
    simp only [hHost, hAllowed, ↓reduceIte, hToken, hConnection]
  | ok connection =>
    have hMade : runtimeFromDiscoveredDevice (collectTokens tokens) excludedHostIds device id
        = some ⟨id, connection⟩ := by
      unfold runtimeFromDiscoveredDevice
      simp only [hHost, hAllowed, ↓reduceIte, hToken, hConnection]
    rw [hConnection] at hSucceeds
    have hOwn := runtimeFromDiscoveredDevice_eq_some hMade
    rw [hHost] at hOwn
    refine .inl ⟨_, hMade, hOwn.left, ?_, hSucceeds⟩
    injection hOwn.right with hOwn
    exact hOwn.symm

namespace DiscoveryRound

variable {tokens : TokenMap} {hostId : Identifier} {round : DiscoveryRound}
variable {excludedHostIds : List Identifier}
variable {devices : List (WifiDiscoveredDevice × Except (Error .std) Unit)}
variable {found : WifiDiscoveredDevice × Except (Error .std) Unit}

theorem sights_of_firstConnects (h : round.firstConnects tokens hostId = true)
    : round.sights tokens hostId = true := by
  unfold firstConnects at h
  unfold sights
  cases hFirst : round.firstEligible tokens hostId with
  | none =>
    rw [hFirst] at h
    contradiction
  | some found => rfl

theorem token_of_firstConnects (h : round.firstConnects tokens hostId = true)
    : (tokens hostId).isSome = true := by
  unfold firstConnects at h
  rw [Option.any_eq_true] at h
  rcases h with ⟨found, _, hSucceeds⟩
  unfold connectSucceeds at hSucceeds
  cases hToken : tokens hostId with
  | none =>
    rw [hToken] at hSucceeds
    contradiction
  | some token => rfl

theorem firstEligible_append
    : firstEligible tokens hostId ⟨excludedHostIds, devices ++ [found]⟩
        =
      (firstEligible tokens hostId ⟨excludedHostIds, devices⟩).or
        (if isEligible tokens excludedHostIds hostId found.1 then some found else none) := by
  unfold firstEligible
  rw [List.find?_append, List.find?_singleton]

theorem firstEligible_of_passedOver
    (hSighted : ∀ hostId, isEligible tokens excludedHostIds hostId found.1 = true →
      sights tokens hostId ⟨excludedHostIds, devices⟩ = true)
    : firstEligible tokens hostId ⟨excludedHostIds, devices ++ [found]⟩
        =
      firstEligible tokens hostId ⟨excludedHostIds, devices⟩ := by
  rw [firstEligible_append]
  split
  . next hEligible =>
    have hFirst := hSighted hostId hEligible
    unfold sights at hFirst
    rw [Option.isSome_iff_exists] at hFirst
    rcases hFirst with ⟨first, hFirst⟩
    rw [hFirst, Option.some_or]
  . rw [Option.or_none]

theorem firstEligible_of_eligible (hEligible : isEligible tokens excludedHostIds hostId found.1 = true)
    (hUnsighted : sights tokens hostId ⟨excludedHostIds, devices⟩ = false) (other : Identifier)
    : firstEligible tokens other ⟨excludedHostIds, devices ++ [found]⟩
        =
      if other = hostId then some found
      else firstEligible tokens other ⟨excludedHostIds, devices⟩ := by
  rw [firstEligible_append]
  by_cases hSame : other = hostId
  . unfold sights at hUnsighted
    rw [Option.isSome_eq_false_iff, Option.isNone_iff_eq_none] at hUnsighted
    rw [hSame, hUnsighted, if_pos hEligible, if_pos rfl, Option.none_or]
  . rw [if_neg hSame, if_neg, Option.or_none]
    intro hOtherEligible
    apply hSame
    have hHost := hostId_of_isEligible hEligible
    rw [hostId_of_isEligible hOtherEligible] at hHost
    injection hHost

theorem sights_of_eligible (hEligible : isEligible tokens excludedHostIds hostId found.1 = true)
    (hUnsighted : sights tokens hostId ⟨excludedHostIds, devices⟩ = false) (other : Identifier)
    : sights tokens other ⟨excludedHostIds, devices ++ [found]⟩ = true
        ↔
      other = hostId ∨ sights tokens other ⟨excludedHostIds, devices⟩ = true := by
  unfold sights
  rw [firstEligible_of_eligible hEligible hUnsighted]
  split
  . next hSame => simp [hSame]
  . next hOther => simp [hOther]

theorem firstConnects_of_eligible
    (hEligible : isEligible tokens excludedHostIds hostId found.1 = true)
    (hUnsighted : sights tokens hostId ⟨excludedHostIds, devices⟩ = false) (other : Identifier)
    : firstConnects tokens other ⟨excludedHostIds, devices ++ [found]⟩
        =
      if other = hostId then connectSucceeds tokens hostId found
      else firstConnects tokens other ⟨excludedHostIds, devices⟩ := by
  unfold firstConnects
  rw [firstEligible_of_eligible hEligible hUnsighted]
  split
  . next hSame => rw [hSame, Option.any_some]
  . rfl

end DiscoveryRound

end Wifi
end Enody
