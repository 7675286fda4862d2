import Enody.Basic
import Enody.Environment

/-!
This module contains the table of connected runtimes of a `UsbEnvironment`, how `new` fills it and how
the event task changes it. What the hardware answers is part of a device: its serial number before and
after it is connected, and whether the connects succeed.
-/

namespace Enody
namespace Usb

abbrev RuntimeId := Nat

structure UsbDevice where
  connectionKey : String
  serialNumber : Option String
  connect : Except (Error .std) (Option String)
  runtimeConnect : Except (Error .std) Unit

inductive UsbDeviceEvent where
  | connected (device : UsbDevice)
  | disconnected (device : UsbDevice)

structure ConnectedRuntime where
  runtime : RuntimeId
  connectionKey : String
  serialNumber : Option String
  deriving DecidableEq

/--
`created` counts the calls of `RemoteRuntime::new`.
-/
structure UsbEnvironment where
  connectedRuntimes : List ConnectedRuntime
  created : Nat
  deriving DecidableEq

/-
The serial number, read again after a connect when the first attempt yields none. The outer `none` says
that this connect has failed.
-/
def UsbDevice.readSerialNumber (device : UsbDevice) : Option (Option String) :=
  match device.serialNumber with
  | some serialNumber => some (some serialNumber)
  | none =>
    match device.connect with
    | .error _ => none
    | .ok serialNumber => some serialNumber

def connectedContainsKey (connectedRuntimes : List ConnectedRuntime) (connectionKey : String)
    (serialNumber : Option String)
    : Bool :=
  connectedRuntimes.any fun connected =>
    connected.connectionKey == connectionKey
      || (serialNumber.isSome && connected.serialNumber == serialNumber)

namespace UsbEnvironment

def empty : UsbEnvironment where
  connectedRuntimes := []
  created := 0

def connectRuntime (env : UsbEnvironment) (device : UsbDevice) (serialNumber : Option String)
    : UsbEnvironment × Option RuntimeId :=
  let runtime := env.created
  match device.runtimeConnect with
  | .error _ => ({ env with created := env.created + 1 }, none)
  | .ok () =>
    ({ connectedRuntimes :=
        env.connectedRuntimes ++ [⟨runtime, device.connectionKey, serialNumber⟩]
       created := env.created + 1 }, some runtime)

/-
The loop over the attached devices in `UsbEnvironment::new`, with the serial numbers seen so far.
-/
def attach (state : UsbEnvironment × List String) (device : UsbDevice)
    : UsbEnvironment × List String :=
  let (env, attachedSerials) := state
  match device.readSerialNumber with
  | none => (env, attachedSerials)
  | some none => ((env.connectRuntime device none).1, attachedSerials)
  | some (some serialNumber) =>
    if serialNumber ∈ attachedSerials then
      (env, attachedSerials)
    else
      ((env.connectRuntime device (some serialNumber)).1, serialNumber :: attachedSerials)

def new (devices : List UsbDevice) : UsbEnvironment :=
  (devices.foldl attach (empty, [])).1

def handleDeviceArrived (env : UsbEnvironment) (device : UsbDevice)
    : UsbEnvironment × Option (EnvironmentRuntimeEvent RuntimeId) :=
  match device.readSerialNumber with
  | none => (env, none)
  | some serialNumber =>
    if connectedContainsKey env.connectedRuntimes device.connectionKey serialNumber then
      (env, none)
    else
      let (env, runtime) := env.connectRuntime device serialNumber
      (env, runtime.map .arrived)

def handleDeviceLeft (env : UsbEnvironment) (device : UsbDevice)
    : UsbEnvironment × Option (EnvironmentRuntimeEvent RuntimeId) :=
  let hasKey (connected : ConnectedRuntime) := connected.connectionKey == device.connectionKey
  match env.connectedRuntimes.find? hasKey with
  | none => (env, none)
  | some connected =>
    ({ env with connectedRuntimes := env.connectedRuntimes.eraseP hasKey },
      some (.left connected.runtime))

def handleDeviceEvent (env : UsbEnvironment) (event : UsbDeviceEvent)
    : UsbEnvironment × Option (EnvironmentRuntimeEvent RuntimeId) :=
  match event with
  | .connected device => env.handleDeviceArrived device
  | .disconnected device => env.handleDeviceLeft device

def handleDeviceEvents (env : UsbEnvironment) (events : List UsbDeviceEvent) : UsbEnvironment :=
  events.foldl (fun env event => (env.handleDeviceEvent event).1) env

/-
The event task of `start_discovery`: it handles one event after another and sends what the handlers
return. The sender waits while the channel is full, so no runtime event is lost.
-/
def eventTask (env : UsbEnvironment)
    : List UsbDeviceEvent → UsbEnvironment × List (EnvironmentRuntimeEvent RuntimeId)
  | [] => (env, [])
  | event :: events =>
    let (env, runtimeEvent) := env.handleDeviceEvent event
    let (env, runtimeEvents) := env.eventTask events
    (env, runtimeEvent.toList ++ runtimeEvents)

def runtimes (env : UsbEnvironment) : List RuntimeId :=
  env.connectedRuntimes.map ConnectedRuntime.runtime

end UsbEnvironment

end Usb
end Enody
