import Enody.Presence.Lossy
import Enody.Usb.Impl.Discovery
import Enody.Usb.Impl.SerialPort

/-!
This module contains the polling task of `SerialPortBackend` with the device event channel it shares with
the other backends and the event task. The loops of a tick try to send one event after the other, and what
the others send and receive can come in between. `attempts` is the history of what the task has tried to
send.
-/

namespace Enody
namespace Usb

open Presence

def UsbDeviceEvent.change : UsbDeviceEvent → Change String
  | connected device => .enter device.connectionKey
  | disconnected device => .leave device.connectionKey

/--
A tick whose loops have not come to their end: the ports it has enumerated, and the events that are left
to send.
-/
structure Ticking where
  currentPorts : List SerialPort
  pending : List UsbDeviceEvent

structure PollTask where
  knownPorts : PortMap
  snapshot : List SerialPort
  ticking : Option Ticking
  deviceEvents : DeviceEvents
  attempts : List (Attempt String)

/--
`otherSent` are the senders of the other backends. An enumeration that fails ends its tick.
-/
inductive PollLabel where
  | tick (tick : Tick)
  | enumerationFailed
  | trySend
  | replaceKnownPorts
  | otherSent (event : UsbDeviceEvent)
  | received

def PollLabel.isTick : PollLabel → Bool
  | tick _ => true
  | _ => false

namespace PollTask

def start (initialPorts : List SerialPort) : PollTask where
  knownPorts := portMap initialPorts
  snapshot := initialPorts
  ticking := none
  deviceEvents := .empty
  attempts := []

/-
The result of `try_send` is only logged.
-/
def trySend (s : PollTask) (event : UsbDeviceEvent) : PollTask :=
  match s.deviceEvents.trySend event with
  | some deviceEvents =>
    { s with
        deviceEvents := deviceEvents
        attempts := s.attempts ++ [⟨event.change, true⟩] }
  | none => { s with attempts := s.attempts ++ [⟨event.change, false⟩] }

def step (s : PollTask) : PollLabel → Option PollTask
  | .tick tick =>
    let currentMap := portMap tick.currentPorts
    if s.ticking.isNone
        ∧ tick.arrived.Perm (currentMap.without s.knownPorts)
        ∧ tick.departed.Perm (s.knownPorts.without currentMap) then
      some
        { s with
            ticking := some
              ⟨tick.currentPorts, SerialPortPolling.events tick.arrived tick.departed⟩ }
    else
      none
  | .enumerationFailed => if s.ticking.isNone then some s else none
  | .trySend =>
    match s.ticking with
    | some ⟨currentPorts, event :: pending⟩ =>
      some { s.trySend event with ticking := some ⟨currentPorts, pending⟩ }
    | _ => none
  | .replaceKnownPorts =>
    match s.ticking with
    | some ⟨currentPorts, []⟩ =>
      some
        { s with
            knownPorts := portMap currentPorts
            snapshot := currentPorts
            ticking := none }
    | _ => none
  | .otherSent event =>
    match s.deviceEvents.trySend event with
    | some deviceEvents => some { s with deviceEvents := deviceEvents }
    | none => none
  | .received =>
    match s.deviceEvents.recv with
    | some (_, deviceEvents) => some { s with deviceEvents := deviceEvents }
    | none => none

end PollTask

end Usb
end Enody
