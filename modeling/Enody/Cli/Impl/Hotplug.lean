import Enody.Wifi.Impl.Environment

/-!
This module contains `hotplug_monitor` of `main.rs` together with the `WifiEnvironment` that it keeps from
connecting to hosts that are attached over USB. The discovery task of the environment goes on whatever the monitor
does; the monitor itself handles one event after the other, and waits for a query of a host and for
`exclude_host_id` in between. What is printed is left out.

The runtimes of the `UsbEnvironment` are named by the identifiers of their connections.
-/

namespace Enody
namespace Cli

open Wifi

/--
Where the loop is: at the `select!`, in the query of the host that has arrived, in `exclude_host_id`, behind the
loop, or at its end.
-/
inductive MonitorPhase where
  | waiting
  | querying (connectionId : Identifier)
  | excluding
  | stopping
  | ended (result : Except (Error .std) Unit)

structure HotplugMonitor where
  usbConnectionHostIds : List (Identifier × Identifier)
  wifiEnvironment : Option DiscoveryState
  phase : MonitorPhase

/--
`usb` and `wifi` are the events of the environments, `exclude` is the next piece of `exclude_host_id`.
-/
inductive HotplugLabel where
  | usb (event : Except (Error .std) (EnvironmentRuntimeEvent Identifier))
  | queried (result : Except (Error .std) Identifier)
  | exclude
  | wifi
  | wifiFailed (error : Error .std)
  | discovery (label : DiscoveryLabel)
  | interrupt
  | stopped (usb wifi : Except (Error .std) Unit)

def isDiscoveryTask : DiscoveryLabel → Bool
  | .exclude _ => false
  | .removeConnected _ => false
  | .sendLeft _ => false
  | .removeExcluded _ => false
  | .receive => false
  | _ => true

def insertHostId (hostIds : List (Identifier × Identifier)) (connectionId hostId : Identifier)
    : List (Identifier × Identifier) :=
  hostIds.filter (fun entry => entry.1 ≠ connectionId) ++ [(connectionId, hostId)]

def findHostId (hostIds : List (Identifier × Identifier)) (connectionId : Identifier) : Option Identifier :=
  (hostIds.find? fun entry => entry.1 = connectionId).map Prod.snd

def removeHostId (hostIds : List (Identifier × Identifier)) (connectionId : Identifier)
    : List (Identifier × Identifier) :=
  hostIds.filter fun entry => entry.1 ≠ connectionId

def insertQueried (hostIds : List (Identifier × Identifier))
    (entry : Identifier × Except (Error .std) Identifier) : List (Identifier × Identifier) :=
  match entry.2 with
  | .ok hostId => insertHostId hostIds entry.1 hostId
  | .error _ => hostIds

/-
The initial runtimes are asked for their hosts in order. Those that do not answer are left out.
-/
def queryHostIds (queried : List (Identifier × Except (Error .std) Identifier)) : List (Identifier × Identifier) :=
  queried.foldl insertQueried []

namespace HotplugMonitor

def usbHostIds (s : HotplugMonitor) : List Identifier := s.usbConnectionHostIds.map Prod.snd

/-
Up to the loop. The monitor goes on without WiFi when the environment cannot be made.
-/
def start (tokens : List Message.Token) (queried : List (Identifier × Except (Error .std) Identifier))
    (discovered : Except (Error .std) (List (WifiDiscoveredDevice × Bool)))
    : HotplugMonitor where
  usbConnectionHostIds := queryHostIds queried
  wifiEnvironment :=
    match discovered with
    | .ok devices => some (withExcludedHostIds tokens ((queryHostIds queried).map Prod.snd) devices)
    | .error _ => none
  phase := .waiting

def excluded (s : HotplugMonitor) (wifi : DiscoveryState) : HotplugMonitor :=
  { s with
    wifiEnvironment := some wifi
    phase := if wifi.excluding.isEmpty then .waiting else .excluding }

def usb (s : HotplugMonitor) (event : Except (Error .std) (EnvironmentRuntimeEvent Identifier))
    : Option HotplugMonitor :=
  match s.phase, event with
  | .waiting, .error error => some { s with phase := .ended (.error error) }
  | .waiting, .ok (.arrived connectionId) => some { s with phase := .querying connectionId }
  | .waiting, .ok (.left connectionId) =>
    match findHostId s.usbConnectionHostIds connectionId with
    | none => some s
    | some hostId =>
      some
        { s with
          usbConnectionHostIds := removeHostId s.usbConnectionHostIds connectionId
          wifiEnvironment := s.wifiEnvironment.map fun wifi => wifi.removeExcluded hostId }
  | _, _ => none

def queried (s : HotplugMonitor) (result : Except (Error .std) Identifier) : Option HotplugMonitor :=
  match s.phase, result with
  | .querying connectionId, .ok hostId =>
    let s := { s with usbConnectionHostIds := insertHostId s.usbConnectionHostIds connectionId hostId }
    match s.wifiEnvironment with
    | none => some { s with phase := .waiting }
    | some wifi => some (s.excluded (wifi.exclude hostId))
  | .querying _, .error _ => some { s with phase := .waiting }
  | _, _ => none

/-
The call has removed nothing from the list so far, or it owes the event.
-/
def exclude (s : HotplugMonitor) : Option HotplugMonitor :=
  match s.phase, s.wifiEnvironment with
  | .excluding, some wifi =>
    match wifi.excluding with
    | .inserted _ :: _ => (wifi.removeConnected 0).map s.excluded
    | .owing _ :: _ => (wifi.sendLeft 0).map s.excluded
    | [] => none
  | _, _ => none

def wifi (s : HotplugMonitor) : Option HotplugMonitor :=
  match s.phase, s.wifiEnvironment with
  | .waiting, some wifi => wifi.receive.map fun wifi => { s with wifiEnvironment := some wifi }
  | _, _ => none

def wifiFailed (s : HotplugMonitor) (error : Error .std) : Option HotplugMonitor :=
  match s.phase, s.wifiEnvironment with
  | .waiting, some _ => some { s with phase := .ended (.error error) }
  | _, _ => none

def discovery (tokens : TokenMap) (s : HotplugMonitor) (label : DiscoveryLabel) : Option HotplugMonitor :=
  match s.wifiEnvironment with
  | none => none
  | some wifi =>
    if isDiscoveryTask label then
      (wifi.step tokens label).map fun wifi => { s with wifiEnvironment := some wifi }
    else
      none

def interrupt (s : HotplugMonitor) : Option HotplugMonitor :=
  match s.phase with
  | .waiting => some { s with phase := .stopping }
  | _ => none

/-
`stop_discovery` of the two environments.
-/
def stopped (s : HotplugMonitor) (usb wifi : Except (Error .std) Unit) : Option HotplugMonitor :=
  match s.phase with
  | .stopping =>
    match usb, s.wifiEnvironment with
    | .error error, _ => some { s with phase := .ended (.error error) }
    | .ok _, some _ => some { s with phase := .ended wifi }
    | .ok _, none => some { s with phase := .ended (.ok ()) }
  | _ => none

def step (tokens : TokenMap) (s : HotplugMonitor) : HotplugLabel → Option HotplugMonitor
  | .usb event => s.usb event
  | .queried result => s.queried result
  | .exclude => s.exclude
  | .wifi => s.wifi
  | .wifiFailed error => s.wifiFailed error
  | .discovery label => s.discovery tokens label
  | .interrupt => s.interrupt
  | .stopped usb wifi => s.stopped usb wifi

end HotplugMonitor

end Cli
end Enody
