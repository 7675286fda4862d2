import Enody.Service.Lifecycle
import Enody.Wifi.Impl.Discovery

/-!
This module contains what the calls of `start_discovery` and `stop_discovery` do to a `WifiEnvironment`,
and the way of an event out of a round.
-/

namespace Enody
namespace Wifi
namespace WifiDiscovery

variable {s : WifiDiscovery}

def operations : Service.Operations WifiDiscovery (Error .std) where
  start := startDiscovery
  stop := stopDiscovery

/--
The events of a round reach `next_runtime_event`: the task sends them, unless the channel is full, and
`next_runtime_event` returns the first of the channel.
-/
structure Delivers (tokens : TokenMap) (s : WifiDiscovery) : Prop where
  reported : ∀ (round : Round) (event : RuntimeEvent) (events : List RuntimeEvent),
    s.state.round = some round →
    round.phase = .disconnecting [] →
    round.events = event :: events →
    s.state.runtimeEvents.queue.length < wifiRuntimeEventChannelSize →
    ∃ t,
      s.taskStep tokens .sendEvent = some t
        ∧
      t.state.runtimeEvents.queue = s.state.runtimeEvents.queue ++ [event]
  received : ∀ event rest, s.state.runtimeEvents.queue = event :: rest →
    ∃ t, s.nextRuntimeEvent = some (t, .ok event) ∧ t.state.runtimeEvents.queue = rest

def Discovers (s : WifiDiscovery) : Prop := s.discoveryTask = true

def Stopped (s : WifiDiscovery) : Prop := s.discoveryTask = false

theorem Discovers.delivers (hDiscovers : s.Discovers) (tokens : TokenMap) : s.Delivers tokens := by
  unfold Discovers at hDiscovers
  constructor
  . intro round event events hRound hPhase hEvents hRoom
    cases hSend : s.state.runtimeEvents.trySend event with
    | none =>
      rw [Channel.trySend_eq_none_iff] at hSend
      omega
    | some runtimeEvents =>
      have hStep : ∃ state,
          s.state.step tokens .sendEvent = some state
            ∧
          state.runtimeEvents.queue = s.state.runtimeEvents.queue ++ [event] := by
        simp only [DiscoveryState.step, DiscoveryState.sendEvent, hRound, hPhase, hEvents, hSend]
        exact ⟨_, rfl, Channel.queue_of_trySend_eq_some hSend⟩
      rcases hStep with ⟨state, hStep, hSent⟩
      refine ⟨{ s with state := state }, ?_, hSent⟩
      unfold taskStep isTaskStep
      simp [hDiscovers, hStep]
  . intro event rest hQueue
    rcases Channel.recv_eq_some_of_queue_eq_cons hQueue with ⟨runtimeEvents, hRecv, hRest⟩
    unfold nextRuntimeEvent DiscoveryState.receive
    simp only [hDiscovers, hRecv, ↓reduceIte]
    exact ⟨_, rfl, hRest⟩

theorem keeps (tokens : TokenMap) (s : WifiDiscovery) (call : Service.Call)
    : operations.Keeps (fun s => s.Discovers ∧ s.Delivers tokens) Stopped s call := by
  have hStart : (s.startDiscovery).2 = .ok () ∧ (s.startDiscovery).1.Discovers := by
    unfold startDiscovery
    split
    . next hTask => exact ⟨rfl, hTask⟩
    . exact ⟨rfl, rfl⟩
  have hStop : (s.stopDiscovery).2 = .ok () ∧ (s.stopDiscovery).1.Stopped := by
    unfold stopDiscovery
    split
    . exact ⟨rfl, rfl⟩
    . next hTask => exact ⟨rfl, by simpa [Stopped] using hTask⟩
  cases call with
  | start =>
    constructor
    . exact hStart.left
    . intro _
      exact ⟨hStart.right, hStart.right.delivers tokens⟩
    . intro h
      contradiction
    . intro _ hRunning
      have hTask : s.discoveryTask = true := hRunning.left
      simp [Service.Operations.perform, operations, startDiscovery, hTask]
    . intro h
      contradiction
  | stop =>
    constructor
    . exact hStop.left
    . intro h
      contradiction
    . intro _
      exact hStop.right
    . intro h
      contradiction
    . intro _ hStopped
      have hTask : s.discoveryTask = false := hStopped
      simp [Service.Operations.perform, operations, stopDiscovery, hTask]

end WifiDiscovery
end Wifi
end Enody
