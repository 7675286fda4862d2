import Enody.Usb.Impl.Environment
import Mathlib.Data.List.Perm.Basic

/-!
This module contains the polling loop of `SerialPortBackend` together with the event task, for ports that
all connects succeed on, and an event channel that is drained between two ticks. The maps of ports are
lists of entries with distinct keys. A `HashMap` is iterated in any order, so a tick is given the order in
which it reports the arrivals and the departures.
-/

namespace Enody
namespace Usb

structure SerialPort where
  portName : String
  serialNumber : Option String
  deriving DecidableEq

namespace SerialPort

def connectionKey (port : SerialPort) : String :=
  "serialport:" ++ port.portName ++ ":" ++ port.serialNumber.getD ""

def device (port : SerialPort) : UsbDevice where
  connectionKey := port.connectionKey
  serialNumber := port.serialNumber
  connect := .ok port.serialNumber
  runtimeConnect := .ok ()

end SerialPort

abbrev PortMap := List (String × SerialPort)

namespace PortMap

def insert (map : PortMap) (key : String) (port : SerialPort) : PortMap :=
  map.filter (fun entry => entry.fst ≠ key) ++ [(key, port)]

def keys (map : PortMap) : List String := map.map Prod.fst

def without (map other : PortMap) : List SerialPort :=
  (map.filter fun entry => entry.fst ∉ other.keys).map Prod.snd

end PortMap

def portMap (ports : List SerialPort) : PortMap :=
  ports.foldl (fun map port => map.insert port.connectionKey port) []

structure SerialPortPolling where
  environment : UsbEnvironment
  knownPorts : PortMap
  snapshot : List SerialPort

structure Tick where
  currentPorts : List SerialPort
  arrived : List SerialPort
  departed : List SerialPort

namespace SerialPortPolling

/-
`UsbEnvironment::new` sees the attached ports, `start_discovery` sees the initial ports.
-/
def start (attached initial : List SerialPort) : SerialPortPolling where
  environment := .new (attached.map SerialPort.device)
  knownPorts := portMap initial
  snapshot := initial

def events (arrived departed : List SerialPort) : List UsbDeviceEvent :=
  arrived.map (fun port => .connected port.device)
    ++ departed.map (fun port => .disconnected port.device)

def tick (s : SerialPortPolling) (tick : Tick) : Option SerialPortPolling :=
  let currentMap := portMap tick.currentPorts
  if tick.arrived.Perm (currentMap.without s.knownPorts)
      ∧ tick.departed.Perm (s.knownPorts.without currentMap) then
    some
      { environment := s.environment.handleDeviceEvents (events tick.arrived tick.departed)
        knownPorts := currentMap
        snapshot := tick.currentPorts }
  else
    none

end SerialPortPolling

end Usb
end Enody
