import Enody.Wifi.Impl.Environment
import Mathlib.Data.List.Nodup
import Mathlib.Data.List.Perm.Basic

/-!
This module contains what each step of a `WifiEnvironment` can do: which runtimes it moves into the
list, out of it and into the round, whatever the counters are.
-/

namespace Enody
namespace Wifi

def runtimes (connectedRuntimes : List ConnectedWifiRuntime) : List WifiRuntime :=
  connectedRuntimes.map ConnectedWifiRuntime.runtime

def hosts (connectedRuntimes : List ConnectedWifiRuntime) : List Identifier :=
  connectedRuntimes.map ConnectedWifiRuntime.hostId

theorem hosts_eq (connectedRuntimes : List ConnectedWifiRuntime)
    : hosts connectedRuntimes = (runtimes connectedRuntimes).map runtimeHostId := by
  unfold hosts runtimes
  rw [List.map_map]
  rfl

theorem runtimes_push (connectedRuntimes : List ConnectedWifiRuntime) (runtime : WifiRuntime)
    : runtimes (connectedRuntimes ++ [⟨runtime, 0⟩]) = runtimes connectedRuntimes ++ [runtime] := by
  simp [runtimes]

theorem hosts_push (connectedRuntimes : List ConnectedWifiRuntime) (runtime : WifiRuntime)
    : hosts (connectedRuntimes ++ [⟨runtime, 0⟩])
        = hosts connectedRuntimes ++ [runtimeHostId runtime] := by
  simp [hosts, ConnectedWifiRuntime.hostId]

theorem hosts_perm {connectedRuntimes rest : List ConnectedWifiRuntime} {removed : List WifiRuntime}
    (h : (removed ++ runtimes rest).Perm (runtimes connectedRuntimes))
    : (removed.map runtimeHostId ++ hosts rest).Perm (hosts connectedRuntimes) := by
  rw [hosts_eq, hosts_eq, ← List.map_append]
  exact h.map _

theorem collectTokens_hostId {tokens : List Message.Token} {hostId : Identifier}
    {token : Message.Token} (h : collectTokens tokens hostId = some token)
    : token.hostId = hostId := by
  have hFound := List.find?_some h
  simpa using hFound

theorem runtimes_of_resetMissed {hostId : Identifier} {connectedRuntimes kept : List ConnectedWifiRuntime}
    (h : resetMissed hostId connectedRuntimes = some kept)
    : runtimes kept = runtimes connectedRuntimes := by
  induction connectedRuntimes generalizing kept with
  | nil => contradiction
  | cons connected rest ih =>
    unfold resetMissed at h
    split at h
    . injection h with h
      rw [← h]
      rfl
    . rw [Option.map_eq_some_iff] at h
      rcases h with ⟨keptRest, hRest, hEq⟩
      rw [← hEq]
      have hSame := ih hRest
      unfold runtimes at hSame ⊢
      rw [List.map_cons, List.map_cons, hSame]

theorem scanMissing_spec (seenHostIds : List Identifier) (connectedRuntimes : List ConnectedWifiRuntime)
    : (runtimes (scanMissing seenHostIds connectedRuntimes).1
          ++ (scanMissing seenHostIds connectedRuntimes).2).Perm (runtimes connectedRuntimes)
        ∧
      ∀ runtime ∈ (scanMissing seenHostIds connectedRuntimes).2,
        runtimeHostId runtime ∉ seenHostIds := by
  induction connectedRuntimes with
  | nil => simp [scanMissing, runtimes]
  | cons connected rest ih =>
    rcases ih with ⟨hPerm, hMissing⟩
    unfold scanMissing
    simp only
    split
    . exact ⟨hPerm.cons _, hMissing⟩
    . next hUnseen =>
      split
      . constructor
        . apply List.perm_middle.trans
          exact hPerm.cons _
        . intro runtime hMem
          rw [List.mem_cons] at hMem
          rcases hMem with hEq | hRest
          . rw [hEq]
            exact hUnseen
          . exact hMissing runtime hRest
      . exact ⟨hPerm.cons _, hMissing⟩

theorem removeConnectedRuntime_eq_none {connectedRuntimes : List ConnectedWifiRuntime}
    {hostId : Identifier} (h : removeConnectedRuntime connectedRuntimes hostId = none)
    : hostId ∉ hosts connectedRuntimes := by
  unfold removeConnectedRuntime at h
  split at h
  . next hFind =>
    rw [List.find?_eq_none] at hFind
    unfold hosts
    rw [List.mem_map]
    rintro ⟨connected, hMem, hHost⟩
    apply hFind connected hMem
    simpa using hHost
  . contradiction

theorem removeConnectedRuntime_eq_some {connectedRuntimes rest : List ConnectedWifiRuntime}
    {hostId : Identifier} {runtime : WifiRuntime}
    (h : removeConnectedRuntime connectedRuntimes hostId = some (runtime, rest))
    : runtimeHostId runtime = hostId
        ∧
      (runtime :: runtimes rest).Perm (runtimes connectedRuntimes) := by
  induction connectedRuntimes generalizing rest with
  | nil => contradiction
  | cons connected others ih =>
    unfold removeConnectedRuntime at h ih
    by_cases hHost : connected.hostId = hostId
    . rw [List.find?_cons_of_pos (by simpa using hHost),
        List.eraseP_cons_of_pos (by simpa using hHost)] at h
      injection h with h
      injection h with hRuntime hRest
      subst hRuntime hRest
      exact ⟨hHost, List.Perm.refl _⟩
    . rw [List.find?_cons_of_neg (by simpa using hHost),
        List.eraseP_cons_of_neg (by simpa using hHost)] at h
      split at h
      . contradiction
      . next found hFind =>
        injection h with h
        injection h with hRuntime hRest
        subst hRuntime hRest
        rw [hFind] at ih
        rcases ih rfl with ⟨hOwn, hPerm⟩
        refine ⟨hOwn, ?_⟩
        -- the element that stays in front is moved behind the one that goes
        apply (List.Perm.swap _ _ _).trans
        exact hPerm.cons _

theorem runtimeFromDiscoveredDevice_eq_some {tokens : List Message.Token}
    {excludedHostIds : List Identifier} {device : WifiDiscoveredDevice} {id : Nat}
    {runtime : WifiRuntime}
    (h : runtimeFromDiscoveredDevice (collectTokens tokens) excludedHostIds device id = some runtime)
    : runtime.id = id ∧ device.hostId = some (runtimeHostId runtime) := by
  unfold runtimeFromDiscoveredDevice at h
  split at h
  . contradiction
  . next hostId hDevice =>
    split at h
    . contradiction
    . split at h
      . contradiction
      . next token hToken =>
        -- the token was found under the host of the device
        have hHost : token.hostId = hostId := by
          unfold tokenForDiscoveredDevice at hToken
          simp only [hDevice] at hToken
          split at hToken
          . contradiction
          . next stored hStored =>
            split at hToken
            . contradiction
            . split at hToken
              . contradiction
              . injection hToken with hToken
                rw [← hToken]
                exact collectTokens_hostId hStored
        split at h
        . contradiction
        . next connection hConnection =>
          injection h with h
          rw [← h]
          refine ⟨rfl, ?_⟩
          unfold WifiConnection.fromDiscoveredDevice at hConnection
          split at hConnection
          . contradiction
          . unfold WifiConnection.fromEndpoint at hConnection
            split at hConnection
            . injection hConnection with hConnection
              rw [hDevice, ← hHost, ← hConnection]
              rfl
            . contradiction

theorem perm_eraseIdx {α : Type} {l : List α} {i : Nat} {a : α} (h : l[i]? = some a)
    : l.Perm (a :: l.eraseIdx i) := by
  rw [List.getElem?_eq_some_iff] at h
  rcases h with ⟨hLt, hAt⟩
  rw [← hAt]
  exact (List.getElem_cons_eraseIdx_perm hLt).symm

theorem perm_set {α : Type} {l : List α} {i : Nat} {a : α} (h : l[i]? = some a) (b : α)
    : (l.set i b).Perm (b :: l.eraseIdx i) := by
  rw [List.getElem?_eq_some_iff] at h
  rcases h with ⟨hLt, _⟩
  have hAt : (l.set i b)[i]? = some b := by
    rw [List.getElem?_set_self hLt]
  have hPerm := perm_eraseIdx hAt
  rw [List.eraseIdx_set_eq] at hPerm
  exact hPerm

def RoundPhase.missing : RoundPhase → List WifiRuntime
  | disconnecting missing => missing
  | _ => []

def Round.unsent (round : Round) : List RuntimeEvent :=
  round.events ++ round.phase.missing.map .left

namespace DiscoveryState

variable {tokens : List Message.Token} {s t : DiscoveryState} {round : Round} {label : DiscoveryLabel}

def unsent (s : DiscoveryState) : List RuntimeEvent :=
  match s.round with
  | none => []
  | some round => round.unsent

theorem unsent_eq {phase : RoundPhase} (h : s.round = some round) (hPhase : round.phase = phase)
    : s.unsent = round.events ++ phase.missing.map .left := by
  unfold unsent
  rw [h, ← hPhase]
  rfl

inductive DiscoveryStep (s : DiscoveryState) : DiscoveryLabel → DiscoveryState → Prop where
  | startRound {devices : List WifiDiscoveredDevice} :
      s.round = none →
        DiscoveryStep s (.startRound devices)
          { s with round := some ⟨s.excludedHostIds, [], [], .visiting devices⟩ }
  | skip {round : Round} {device : WifiDiscoveredDevice} {devices : List WifiDiscoveredDevice}
      {connectedRuntimes : List ConnectedWifiRuntime} {seenHostIds : List Identifier} :
      s.round = some round → round.phase = .visiting (device :: devices) →
        runtimes connectedRuntimes = runtimes s.connectedRuntimes → round.seenHostIds ⊆ seenHostIds →
          DiscoveryStep s .visit
            { s with
              connectedRuntimes := connectedRuntimes
              round := some { round with seenHostIds := seenHostIds, phase := .visiting devices } }
  | tried {round : Round} {device : WifiDiscoveredDevice} {devices : List WifiDiscoveredDevice}
      {runtime : WifiRuntime} :
      s.round = some round → round.phase = .visiting (device :: devices) →
        runtimeHostId runtime ∉ round.seenHostIds → runtime.id = s.created →
          DiscoveryStep s .visit
            { s with
              created := s.created + 1
              round := some
                { round with
                  seenHostIds := runtimeHostId runtime :: round.seenHostIds
                  phase := .connecting runtime devices } }
  | late {round : Round} {runtime : WifiRuntime} {devices : List WifiDiscoveredDevice} :
      s.round = some round → round.phase = .connecting runtime devices →
        DiscoveryStep s .connected { s with round := some { round with phase := .visiting devices } }
  | pushed {round : Round} {runtime : WifiRuntime} {devices : List WifiDiscoveredDevice} :
      s.round = some round → round.phase = .connecting runtime devices →
        runtimeHostId runtime ∉ hosts s.connectedRuntimes →
          DiscoveryStep s .connected
            { s with
              connectedRuntimes := s.connectedRuntimes ++ [⟨runtime, 0⟩]
              changes := s.changes ++ [.arrived runtime]
              round := some
                { round with
                  events := round.events ++ [.arrived runtime], phase := .visiting devices } }
  | connectFailed {round : Round} {runtime : WifiRuntime} {devices : List WifiDiscoveredDevice} :
      s.round = some round → round.phase = .connecting runtime devices →
        DiscoveryStep s .connectFailed
          { s with round := some { round with phase := .visiting devices } }
  | scanned {round : Round} {kept : List ConnectedWifiRuntime} {missing : List WifiRuntime} :
      s.round = some round → round.phase = .visiting [] →
        (missing ++ runtimes kept).Perm (runtimes s.connectedRuntimes) →
          (∀ runtime ∈ missing, runtimeHostId runtime ∉ round.seenHostIds) →
            DiscoveryStep s .scan
              { s with
                connectedRuntimes := kept
                changes := s.changes ++ missing.map .left
                round := some { round with phase := .disconnecting missing } }
  | disconnected {round : Round} {runtime : WifiRuntime} {missing : List WifiRuntime} :
      s.round = some round → round.phase = .disconnecting (runtime :: missing) →
        DiscoveryStep s .disconnected
          { s with
            round := some
              { round with
                events := round.events ++ [.left runtime], phase := .disconnecting missing } }
  | sentEvent {round : Round} {event : RuntimeEvent} {events : List RuntimeEvent}
      {runtimeEvents : Channel RuntimeEvent wifiRuntimeEventChannelSize} :
      s.round = some round → round.phase = .disconnecting [] → round.events = event :: events →
        runtimeEvents.queue = s.runtimeEvents.queue ++ [event] →
          DiscoveryStep s .sendEvent
            { s with
              runtimeEvents := runtimeEvents
              sent := s.sent ++ [event]
              round := some { round with events := events } }
  | endRound {round : Round} :
      s.round = some round → round.phase = .disconnecting [] → round.events = [] →
        DiscoveryStep s .endRound { s with round := none }
  | excludeAgain {hostId : Identifier} :
      hostId ∈ s.excludedHostIds → DiscoveryStep s (.exclude hostId) (s.returned hostId)
  | excludeNew {hostId : Identifier} :
      hostId ∉ s.excludedHostIds →
        DiscoveryStep s (.exclude hostId)
          { s with
            excludedHostIds := hostId :: s.excludedHostIds
            excluding := s.excluding ++ [.inserted hostId] }
  | removedNone {call : Nat} {hostId : Identifier} :
      s.excluding[call]? = some (.inserted hostId) → hostId ∉ hosts s.connectedRuntimes →
        DiscoveryStep s (.removeConnected call)
          ({ s with excluding := s.excluding.eraseIdx call }.returned hostId)
  | removedSome {call : Nat} {runtime : WifiRuntime} {rest : List ConnectedWifiRuntime} :
      s.excluding[call]? = some (.inserted (runtimeHostId runtime)) →
        ([runtime] ++ runtimes rest).Perm (runtimes s.connectedRuntimes) →
          DiscoveryStep s (.removeConnected call)
            { s with
              connectedRuntimes := rest
              changes := s.changes ++ [.left runtime]
              excluding := s.excluding.set call (.owing runtime) }
  | sentLeft {call : Nat} {runtime : WifiRuntime}
      {runtimeEvents : Channel RuntimeEvent wifiRuntimeEventChannelSize} :
      s.excluding[call]? = some (.owing runtime) →
        runtimeEvents.queue = s.runtimeEvents.queue ++ [.left runtime] →
          DiscoveryStep s (.sendLeft call)
            { { s with excluding := s.excluding.eraseIdx call }.returned (runtimeHostId runtime) with
              runtimeEvents := runtimeEvents
              sent := s.sent ++ [.left runtime] }
  | droppedLeft {call : Nat} {runtime : WifiRuntime} :
      s.excluding[call]? = some (.owing runtime) →
        s.runtimeEvents.queue.length = wifiRuntimeEventChannelSize →
          DiscoveryStep s (.sendLeft call)
            ({ s with excluding := s.excluding.eraseIdx call }.returned (runtimeHostId runtime))
  | removedExcluded {hostId : Identifier} :
      DiscoveryStep s (.removeExcluded hostId) (s.removeExcluded hostId)
  | received {event : RuntimeEvent}
      {runtimeEvents : Channel RuntimeEvent wifiRuntimeEventChannelSize} :
      s.runtimeEvents.queue = event :: runtimeEvents.queue →
        DiscoveryStep s .receive
          { s with runtimeEvents := runtimeEvents, received := s.received ++ [event] }

theorem visitDevice_step {device : WifiDiscoveredDevice} {devices : List WifiDiscoveredDevice}
    (hRound : s.round = some round) (hPhase : round.phase = .visiting (device :: devices))
    : DiscoveryStep s .visit (s.visitDevice (collectTokens tokens) round device devices) := by
  have hSkip : DiscoveryStep s .visit
      { s with round := some { round with phase := .visiting devices } } := by
    exact .skip hRound hPhase rfl (List.Subset.refl _)
  unfold visitDevice
  split
  . exact hSkip
  . next hostId hDevice =>
    split
    . exact hSkip
    . next hNew =>
      simp only
      split
      . next hReset =>
        apply DiscoveryStep.skip hRound hPhase
        . exact runtimes_of_resetMissed hReset
        . exact List.subset_cons_self _ _
      . split
        . apply DiscoveryStep.skip hRound hPhase
          . rfl
          . exact List.subset_cons_self _ _
        . next runtime hRuntime =>
          rcases runtimeFromDiscoveredDevice_eq_some hRuntime with ⟨hId, hHost⟩
          rw [hDevice] at hHost
          injection hHost with hHost
          subst hHost
          apply DiscoveryStep.tried hRound hPhase
          . intro hSeen
            apply hNew
            exact .inr (.inr hSeen)
          . exact hId

theorem connected_step (h : s.connected = some t) : DiscoveryStep s .connected t := by
  unfold connected at h
  split at h
  . next round hRound =>
    split at h
    . next runtime devices hPhase =>
      split at h
      . injection h with h
        subst h
        exact .late hRound hPhase
      . next hAbsent =>
        injection h with h
        subst h
        apply DiscoveryStep.pushed hRound hPhase
        intro hMem
        apply hAbsent
        unfold hosts at hMem
        rw [List.mem_map] at hMem
        rcases hMem with ⟨connected, hConnected, hHost⟩
        rw [List.any_eq_true]
        exact ⟨connected, hConnected, by simpa using hHost⟩
    . contradiction
  . contradiction

theorem scan_step (h : s.scan = some t) : DiscoveryStep s .scan t := by
  unfold scan at h
  split at h
  . next round hRound =>
    split at h
    . next hPhase =>
      injection h with h
      subst h
      rcases scanMissing_spec round.seenHostIds s.connectedRuntimes with ⟨hPerm, hMissing⟩
      exact .scanned hRound hPhase (List.perm_append_comm.trans hPerm) hMissing
    . contradiction
  . contradiction

theorem sendEvent_step (h : s.sendEvent = some t) : DiscoveryStep s .sendEvent t := by
  unfold sendEvent at h
  split at h
  . next round hRound =>
    split at h
    . next hPhase hEvents =>
      split at h
      . next hSend =>
        injection h with h
        subst h
        exact .sentEvent hRound hPhase hEvents (Channel.queue_of_trySend_eq_some hSend)
      . contradiction
    . contradiction
  . contradiction

theorem exclude_step (s : DiscoveryState) (hostId : Identifier)
    : DiscoveryStep s (.exclude hostId) (s.exclude hostId) := by
  unfold exclude
  split
  . next hMem => exact .excludeAgain hMem
  . next hMem => exact .excludeNew hMem

theorem removeConnected_step {call : Nat} (h : s.removeConnected call = some t)
    : DiscoveryStep s (.removeConnected call) t := by
  unfold removeConnected at h
  split at h
  . next hostId hCall =>
    split at h
    . next hNone =>
      injection h with h
      subst h
      exact .removedNone hCall (removeConnectedRuntime_eq_none hNone)
    . next runtime rest hSome =>
      injection h with h
      subst h
      rcases removeConnectedRuntime_eq_some hSome with ⟨hHost, hPerm⟩
      subst hHost
      exact .removedSome hCall hPerm
  . contradiction

theorem sendLeft_step {call : Nat} (h : s.sendLeft call = some t)
    : DiscoveryStep s (.sendLeft call) t := by
  unfold sendLeft at h
  split at h
  . next hCall =>
    simp only at h
    split at h
    . next hSend =>
      injection h with h
      subst h
      exact .sentLeft hCall (Channel.queue_of_trySend_eq_some hSend)
    . next hFull =>
      injection h with h
      subst h
      exact .droppedLeft hCall ((Channel.trySend_eq_none_iff _ _).mp hFull)
  . contradiction

theorem startRound_step {devices : List WifiDiscoveredDevice} (h : s.startRound devices = some t)
    : DiscoveryStep s (.startRound devices) t := by
  unfold startRound at h
  split at h
  . contradiction
  . next hRound =>
    injection h with h
    subst h
    exact .startRound hRound

theorem visit_step (h : s.visit (collectTokens tokens) = some t) : DiscoveryStep s .visit t := by
  unfold visit at h
  split at h
  . next round hRound =>
    split at h
    . next hPhase =>
      injection h with h
      subst h
      exact visitDevice_step hRound hPhase
    . contradiction
  . contradiction

theorem connectFailed_step (h : s.connectFailed = some t) : DiscoveryStep s .connectFailed t := by
  unfold connectFailed at h
  split at h
  . next round hRound =>
    split at h
    . next hPhase =>
      injection h with h
      subst h
      exact .connectFailed hRound hPhase
    . contradiction
  . contradiction

theorem disconnected_step (h : s.disconnected = some t) : DiscoveryStep s .disconnected t := by
  unfold disconnected at h
  split at h
  . next round hRound =>
    split at h
    . next hPhase =>
      injection h with h
      subst h
      exact .disconnected hRound hPhase
    . contradiction
  . contradiction

theorem endRound_step (h : s.endRound = some t) : DiscoveryStep s .endRound t := by
  unfold endRound at h
  split at h
  . next round hRound =>
    split at h
    . next hPhase hEvents =>
      injection h with h
      subst h
      exact .endRound hRound hPhase hEvents
    . contradiction
  . contradiction

theorem receive_step (h : s.receive = some t) : DiscoveryStep s .receive t := by
  unfold receive at h
  split at h
  . contradiction
  . next hRecv =>
    injection h with h
    subst h
    exact .received (Channel.queue_of_recv_eq_some hRecv)

theorem step_cases (h : s.step (collectTokens tokens) label = some t) : DiscoveryStep s label t := by
  cases label with
  | startRound devices => exact startRound_step h
  | visit => exact visit_step h
  | connected => exact connected_step h
  | connectFailed => exact connectFailed_step h
  | scan => exact scan_step h
  | disconnected => exact disconnected_step h
  | sendEvent => exact sendEvent_step h
  | endRound => exact endRound_step h
  | exclude hostId =>
    injection h with h
    subst h
    exact exclude_step s hostId
  | removeConnected call => exact removeConnected_step h
  | sendLeft call => exact sendLeft_step h
  | removeExcluded hostId =>
    injection h with h
    subst h
    exact .removedExcluded
  | receive => exact receive_step h

end DiscoveryState

structure InitialPass.WellFormed (excludedHostIds : List Identifier) (pass : InitialPass)
    : Prop where
  distinct : (hosts pass.connectedRuntimes).Nodup
  allowed : ∀ hostId ∈ hosts pass.connectedRuntimes, hostId ∉ excludedHostIds
  seen : hosts pass.connectedRuntimes ⊆ pass.seenHostIds
  numbered : ∀ runtime ∈ runtimes pass.connectedRuntimes, runtime.id < pass.created

theorem InitialPass.WellFormed.push {excludedHostIds : List Identifier} {pass : InitialPass}
    {runtime : WifiRuntime} (h : pass.WellFormed excludedHostIds)
    (hAllowed : runtimeHostId runtime ∉ excludedHostIds)
    (hUnseen : runtimeHostId runtime ∉ pass.seenHostIds) (hId : runtime.id = pass.created)
    : InitialPass.WellFormed excludedHostIds
        { seenHostIds := runtimeHostId runtime :: pass.seenHostIds
          connectedRuntimes := pass.connectedRuntimes ++ [⟨runtime, 0⟩]
          created := pass.created + 1 } := by
  constructor
  case distinct =>
    rw [hosts_push, (List.perm_append_singleton _ _).nodup_iff, List.nodup_cons]
    constructor
    . intro hMem
      apply hUnseen
      exact h.seen hMem
    . exact h.distinct
  case allowed =>
    intro hostId hMem
    rw [hosts_push, List.mem_append, List.mem_singleton] at hMem
    rcases hMem with hOld | hEq
    . exact h.allowed hostId hOld
    . rw [hEq]
      exact hAllowed
  case seen =>
    rw [hosts_push, List.append_subset]
    constructor
    . apply List.Subset.trans h.seen
      apply List.subset_cons_self
    . simp
  case numbered =>
    intro other hMem
    rw [runtimes_push, List.mem_append, List.mem_singleton] at hMem
    rcases hMem with hOld | hEq
    . have := h.numbered other hOld
      simp only
      omega
    . rw [hEq, hId]
      apply Nat.lt_succ_self

theorem InitialPass.WellFormed.visit {tokens : List Message.Token} {excludedHostIds : List Identifier}
    {pass : InitialPass} (h : pass.WellFormed excludedHostIds) (found : WifiDiscoveredDevice × Bool)
    : (InitialPass.visit (collectTokens tokens) excludedHostIds pass found).WellFormed
        excludedHostIds := by
  rcases found with ⟨device, connects⟩
  unfold InitialPass.visit
  simp only
  split
  . exact h
  . next hostId hDevice =>
    split
    . exact h
    . next hNew =>
      rw [not_or, not_or] at hNew
      rcases hNew with ⟨hAllowed, _, hUnseen⟩
      have hSeen : hosts pass.connectedRuntimes ⊆ hostId :: pass.seenHostIds := by
        apply List.Subset.trans h.seen
        apply List.subset_cons_self
      split
      . exact ⟨h.distinct, h.allowed, hSeen, h.numbered⟩
      . next runtime hRuntime =>
        rcases runtimeFromDiscoveredDevice_eq_some hRuntime with ⟨hId, hHost⟩
        rw [hDevice] at hHost
        injection hHost with hHost
        subst hHost
        split
        . exact h.push hAllowed hUnseen hId
        . -- the connect fails, and the number of the runtime is not used again
          refine ⟨h.distinct, h.allowed, hSeen, ?_⟩
          intro other hMem
          have := h.numbered other hMem
          simp only
          omega

theorem withExcludedHostIds_wellFormed (tokens : List Message.Token)
    (excludedHostIds : List Identifier) (devices : List (WifiDiscoveredDevice × Bool))
    : ∃ pass : InitialPass,
        pass.WellFormed excludedHostIds
          ∧
        withExcludedHostIds tokens excludedHostIds devices
          = .initial excludedHostIds pass.connectedRuntimes pass.created := by
  have hFold (devices : List (WifiDiscoveredDevice × Bool)) (pass : InitialPass)
      (h : pass.WellFormed excludedHostIds)
      : (devices.foldl (InitialPass.visit (collectTokens tokens) excludedHostIds) pass).WellFormed
          excludedHostIds := by
    induction devices generalizing pass with
    | nil => exact h
    | cons found devices ih =>
      apply ih
      exact h.visit found
  refine ⟨_, ?_, rfl⟩
  apply hFold
  constructor
  case distinct => exact List.nodup_nil
  case allowed => simp [hosts]
  case seen => simp [hosts]
  case numbered => simp [runtimes]

def eligibleDevice (hostId : Identifier) : WifiDiscoveredDevice :=
  ⟨"ep.local.", none, some hostId, none, some wifiProtocol, some wifiAuth⟩

def tokenOf (hostId : Identifier) : Message.Token :=
  ⟨hostId, ⟨"", by decide⟩, ⟨List.replicate 32 0, by decide⟩⟩

end Wifi
end Enody
