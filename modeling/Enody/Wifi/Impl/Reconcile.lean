import Enody.Connection.Impl.Runtime
import Enody.Wifi.Impl.Environment

/-!
This module contains discovery rounds that run one after another: `reconcile_discovered_devices` from its
first device to its last event, without a call in between. Every runtime that is made has a transport of
its own. Between the rounds the read task of a transport can end, and its dispatch task after it.
-/

namespace Enody
namespace Wifi

/--
The copy of the exclusion set, and the devices, each with the outcome of its connect.
-/
structure DiscoveryRound where
  excludedHostIds : List Identifier
  devices : List (WifiDiscoveredDevice × Except (Error .std) Unit)

/--
`transports` are the ones of the runtimes by their number.
-/
structure ReconcileState where
  connectedRuntimes : List ConnectedWifiRuntime
  created : Nat
  transports : Nat → Connection.RuntimeState

inductive ReconcileLabel where
  | round (round : DiscoveryRound)
  | readTaskEnds (id : Nat) (result : Except (Error .std) Unit)
  | dispatchEnds (id : Nat)

structure Reconciliation extends ReconcileState where
  seenHostIds : List Identifier
  events : List RuntimeEvent

def ReconcileState.setTransport (s : ReconcileState) (id : Nat) (transport : Connection.RuntimeState)
    : ReconcileState :=
  { s with transports := Function.update s.transports id transport }

namespace Reconciliation

def setTransport (pass : Reconciliation) (id : Nat) (transport : Connection.RuntimeState)
    : Reconciliation :=
  { pass with toReconcileState := pass.toReconcileState.setTransport id transport }

def push (pass : Reconciliation) (runtime : WifiRuntime) : Reconciliation :=
  { pass with
    connectedRuntimes := pass.connectedRuntimes ++ [⟨runtime, 0⟩]
    events := pass.events ++ [.arrived runtime] }

def connect (pass : Reconciliation) (hostId : Identifier) (runtime : WifiRuntime)
    (outcome : Except (Error .std) Unit)
    : Reconciliation :=
  let (transport, result) := Connection.RuntimeState.new.connect outcome
  let pass := { pass with created := pass.created + 1 }.setTransport runtime.id transport
  match result with
  | .error _ => pass
  | .ok () =>
    if pass.connectedRuntimes.any fun connected => connected.hostId = hostId then
      pass
    else
      pass.push runtime

def visit (tokens : TokenMap) (excludedHostIds : List Identifier) (pass : Reconciliation)
    (found : WifiDiscoveredDevice × Except (Error .std) Unit)
    : Reconciliation :=
  let (device, outcome) := found
  match device.hostId with
  | none => pass
  | some hostId =>
    if excludedHostIds.contains hostId || (tokenForDiscoveredDevice tokens device).isNone
        || pass.seenHostIds.contains hostId then
      pass
    else
      let pass := { pass with seenHostIds := hostId :: pass.seenHostIds }
      match resetMissed hostId pass.connectedRuntimes with
      | some connectedRuntimes => { pass with connectedRuntimes := connectedRuntimes }
      | none =>
        match runtimeFromDiscoveredDevice tokens excludedHostIds device pass.created with
        | none => pass
        | some runtime => pass.connect hostId runtime outcome

/-
A missing runtime is disconnected when it is connected. The read task is aborted.
-/
def disconnect (pass : Reconciliation) (runtime : WifiRuntime) : Reconciliation :=
  let transport := pass.transports runtime.id
  let pass :=
    if transport.device.connection.isSome then
      pass.setTransport runtime.id (transport.disconnect .wifi (.ok ())).1
    else
      pass
  { pass with events := pass.events ++ [.left runtime] }

end Reconciliation

namespace ReconcileState

def empty : ReconcileState where
  connectedRuntimes := []
  created := 0
  transports := fun _ => .new

def reconcileDiscoveredDevices (tokens : TokenMap) (s : ReconcileState) (round : DiscoveryRound)
    : ReconcileState × List RuntimeEvent :=
  let pass := round.devices.foldl (Reconciliation.visit tokens round.excludedHostIds) ⟨s, [], []⟩
  let (kept, missing) := scanMissing pass.seenHostIds pass.connectedRuntimes
  let pass := missing.foldl Reconciliation.disconnect { pass with connectedRuntimes := kept }
  (pass.toReconcileState, pass.events)

def step (tokens : TokenMap) (s : ReconcileState) : ReconcileLabel → Option ReconcileState
  | .round round => some (s.reconcileDiscoveredDevices tokens round).1
  | .readTaskEnds id result => ((s.transports id).readTaskEnds result).map (s.setTransport id)
  | .dispatchEnds id => (s.transports id).dispatchEnds.map (s.setTransport id)

end ReconcileState

end Wifi
end Enody
