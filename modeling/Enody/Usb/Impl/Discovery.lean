import Enody.Channel.Bounded
import Enody.Usb.Impl.Environment

/-!
This module contains `start_discovery`, `stop_discovery` and `next_runtime_event` of a `UsbEnvironment`,
the tasks of its backends, and the way of an event: a backend puts it into the device event channel, the
event task handles it and sends a runtime event.

Whoever holds the receiver of the device events decides: the environment before the first start, the
event task while it runs, nobody once the task has been aborted. The outcomes of what the backends ask
the system for are arguments.
-/

namespace Enody
namespace Usb

def usbEventChannelSize : Nat := 16
def runtimeEventChannelSize : Nat := 16

abbrev DeviceEvents := Channel UsbDeviceEvent usbEventChannelSize
abbrev RuntimeEvents := Channel (EnvironmentRuntimeEvent RuntimeId) runtimeEventChannelSize

/--
`ALL_IDENTIFIERS` has one entry, so the rusb backend makes one hotplug registration at each start.
-/
inductive Backend where
  | rusb (hotplugMonitorTask : Bool) (hotplugRegistrations : Nat)
  | serialPort (pollTask : Bool)
  deriving DecidableEq

namespace Backend

def isRunning : Backend → Bool
  | rusb hotplugMonitorTask _ => hotplugMonitorTask
  | serialPort pollTask => pollTask

/-
`outcome` is the one of the registration, or of the enumeration of the ports.
-/
def startDiscovery (backend : Backend) (outcome : Except (Error .std) Unit)
    : Backend × Except (Error .std) Unit :=
  if backend.isRunning then
    (backend, .ok ())
  else
    match outcome, backend with
    | .error error, backend => (backend, .error error)
    | .ok (), .rusb _ hotplugRegistrations => (.rusb true (hotplugRegistrations + 1), .ok ())
    | .ok (), .serialPort _ => (.serialPort true, .ok ())

def stopTimeout : Backend → Error .std
  | rusb _ _ => .debugText "rusb hotplug monitor task did not stop within timeout"
  | serialPort _ => .debugText "serial discovery polling task did not stop within timeout"

/-
`finishes` says that the task ends before the deadline. It is dropped in any case.
-/
def stopDiscovery (backend : Backend) (finishes : Bool) : Backend × Except (Error .std) Unit :=
  let stopped :=
    match backend with
    | .rusb _ hotplugRegistrations => .rusb false hotplugRegistrations
    | .serialPort _ => .serialPort false
  if backend.isRunning && !finishes then
    (stopped, .error backend.stopTimeout)
  else
    (stopped, .ok ())

end Backend

/-
`enabled_backends`: the backends whose initialization succeeds, in the order of their priority.
-/
def enabledBackends (rusbInit serialPortInit : Bool) : List Backend :=
  (if rusbInit then [.rusb false 0] else []) ++ (if serialPortInit then [.serialPort false] else [])

structure UsbDiscovery where
  environment : UsbEnvironment
  backends : List Backend
  deviceEventRx : Option DeviceEvents
  eventHandlerTask : Option DeviceEvents
  runtimeEvents : RuntimeEvents

structure Outcomes where
  start : Nat → Except (Error .std) Unit
  finishes : Nat → Bool

def Outcomes.success : Outcomes where
  start := fun _ => .ok ()
  finishes := fun _ => true

namespace UsbDiscovery

def new (environment : UsbEnvironment) (rusbInit serialPortInit : Bool) : UsbDiscovery where
  environment := environment
  backends := enabledBackends rusbInit serialPortInit
  deviceEventRx := some .empty
  eventHandlerTask := none
  runtimeEvents := .empty

def startBackends (outcomes : Outcomes) (index : Nat)
    : List Backend → List Backend × Option (Nat × Error .std)
  | [] => ([], none)
  | backend :: backends =>
    match backend.startDiscovery (outcomes.start index) with
    | (backend, .error error) => (backend :: backends, some (index, error))
    | (backend, .ok ()) =>
      let (backends, failed) := startBackends outcomes (index + 1) backends
      (backend :: backends, failed)

def stopStarted (outcomes : Outcomes) (failedIndex : Nat) (backends : List Backend) : List Backend :=
  backends.mapIdx fun index backend =>
    if index < failedIndex then (backend.stopDiscovery (outcomes.finishes index)).1 else backend

/-
`debugFormat` is the `Debug` format of an error.
-/
def startDiscovery (debugFormat : Error .std → String) (outcomes : Outcomes) (s : UsbDiscovery)
    : UsbDiscovery × Except (Error .std) Unit :=
  match s.eventHandlerTask, s.deviceEventRx with
  | some _, _ => (s, .ok ())
  | none, none => (s, .error (.debugText "device event channel already consumed"))
  | none, some eventRx =>
    match startBackends outcomes 0 s.backends with
    | (backends, some (backendIndex, error)) =>
      ({ s with
          backends := stopStarted outcomes backendIndex backends
          deviceEventRx := some eventRx },
        .error (.debugText ("failed to start discovery for backend " ++ backendIndex.repr ++ ": "
          ++ debugFormat error)))
    | (backends, none) =>
      ({ s with
          backends := backends
          deviceEventRx := none
          eventHandlerTask := some eventRx }, .ok ())

def errorOf : Except (Error .std) Unit → Option (Error .std)
  | .ok () => none
  | .error error => some error

/-
All backends are stopped, the first error is returned.
-/
def stopDiscovery (outcomes : Outcomes) (s : UsbDiscovery) : UsbDiscovery × Except (Error .std) Unit :=
  let stopped := s.backends.mapIdx fun index backend =>
    backend.stopDiscovery (outcomes.finishes index)
  let firstError := stopped.findSome? fun (_, result) => errorOf result
  ({ s with
      backends := stopped.map Prod.fst
      eventHandlerTask := none },
    match firstError with
    | none => .ok ()
    | some error => .error error)

/-
A running backend tries to send an event. It is lost when the channel is full or has no receiver.
-/
def backendEvent (s : UsbDiscovery) (index : Nat) (event : UsbDeviceEvent) : Option UsbDiscovery :=
  match s.backends[index]? with
  | none => none
  | some backend =>
    if backend.isRunning then
      match s.eventHandlerTask, s.deviceEventRx with
      | some events, _ =>
        some { s with eventHandlerTask := some ((events.trySend event).getD events) }
      | none, some events =>
        some { s with deviceEventRx := some ((events.trySend event).getD events) }
      | none, none => some s
    else
      none

/-
The event task handles the next event. It waits while the channel of the runtime events is full.
-/
def handleEvent (s : UsbDiscovery) : Option UsbDiscovery :=
  match s.eventHandlerTask with
  | none => none
  | some events =>
    match events.recv with
    | none => none
    | some (event, events) =>
      let (environment, runtimeEvent) := s.environment.handleDeviceEvent event
      let handled := { s with environment := environment, eventHandlerTask := some events }
      match runtimeEvent with
      | none => some handled
      | some runtimeEvent =>
        match s.runtimeEvents.trySend runtimeEvent with
        | none => none
        | some runtimeEvents => some { handled with runtimeEvents := runtimeEvents }

/-
`none` waits for an event.
-/
def nextRuntimeEvent (s : UsbDiscovery)
    : Option (UsbDiscovery × Except (Error .std) (EnvironmentRuntimeEvent RuntimeId)) :=
  match s.eventHandlerTask with
  | none =>
    some (s, .error (.debugText "discovery is not running; call start_discovery first"))
  | some _ =>
    match s.runtimeEvents.recv with
    | none => none
    | some (runtimeEvent, runtimeEvents) =>
      some ({ s with runtimeEvents := runtimeEvents }, .ok runtimeEvent)

end UsbDiscovery

end Usb
end Enody
