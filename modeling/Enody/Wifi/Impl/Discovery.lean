import Enody.Wifi.Impl.Environment

/-!
This module contains `start_discovery`, `stop_discovery` and `next_runtime_event` of a `WifiEnvironment`.
Both ends of the runtime event channel belong to the environment, the discovery task has a sender of its
own. Aborting the task drops the round it is in.
-/

namespace Enody
namespace Wifi

structure WifiDiscovery where
  state : DiscoveryState
  discoveryTask : Bool

namespace WifiDiscovery

def startDiscovery (s : WifiDiscovery) : WifiDiscovery × Except (Error .std) Unit :=
  if s.discoveryTask then
    (s, .ok ())
  else
    ({ s with discoveryTask := true }, .ok ())

def stopDiscovery (s : WifiDiscovery) : WifiDiscovery × Except (Error .std) Unit :=
  if s.discoveryTask then
    ({ state := { s.state with round := none }, discoveryTask := false }, .ok ())
  else
    (s, .ok ())

def isTaskStep : DiscoveryLabel → Bool
  | .startRound _ => true
  | .visit => true
  | .connected => true
  | .connectFailed => true
  | .scan => true
  | .disconnected => true
  | .sendEvent => true
  | .endRound => true
  | _ => false

def taskStep (tokens : TokenMap) (s : WifiDiscovery) (label : DiscoveryLabel) : Option WifiDiscovery :=
  if s.discoveryTask && isTaskStep label then
    (s.state.step tokens label).map fun state => { s with state := state }
  else
    none

/-
`none` waits for an event.
-/
def nextRuntimeEvent (s : WifiDiscovery)
    : Option (WifiDiscovery × Except (Error .std) RuntimeEvent) :=
  if s.discoveryTask then
    match s.state.runtimeEvents.recv, s.state.receive with
    | some (event, _), some state => some ({ s with state := state }, .ok event)
    | _, _ => none
  else
    some (s, .error (.debugText "discovery is not running; call start_discovery first"))

end WifiDiscovery

end Wifi
end Enody
