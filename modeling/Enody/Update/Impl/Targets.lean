import Enody.Message
import Mathlib.Data.List.Infix
import Mathlib.Data.List.Sort

/-!
This module contains the update targets of `update.rs`: how `attached_raw` groups the attached ports by the
serial number of their device, and the port that a target is flashed on.
-/

namespace Enody
namespace Update

/--
`serialport::UsbPortInfo`
-/
structure UsbPortInfo where
  vid : UInt16
  pid : UInt16
  serialNumber : Option String
  manufacturer : Option String
  product : Option String
  deriving DecidableEq

abbrev Port := String × UsbPortInfo

structure EP01UpdateTarget where
  info : Message.HostInfo
  ports : List Port

namespace EP01UpdateTarget

def default : EP01UpdateTarget := ⟨⟨⟨0, 0, 0⟩, 0⟩, []⟩

def push (host : EP01UpdateTarget) (port : Port) : EP01UpdateTarget :=
  { host with ports := host.ports ++ [port] }

/-
The first host with a port of the serial number gets the port, or a new host at the end does.
-/
def addPort (serial : String) (port : Port) : List EP01UpdateTarget → List EP01UpdateTarget
  | [] => [default.push port]
  | host :: hosts =>
    if host.ports.any fun other => some serial = other.2.serialNumber then
      host.push port :: hosts
    else
      host :: addPort serial port hosts

/-
A port without a serial number is skipped, and an enumeration that fails yields no targets.
-/
def attachedRaw (attachedPorts : Except (Error .std) (List Port)) : List EP01UpdateTarget :=
  match attachedPorts with
  | .error _ => []
  | .ok ports =>
    ports.foldl (fun hosts port =>
      match port.2.serialNumber with
      | none => hosts
      | some serial => addPort serial port hosts) []

def macAddress (target : EP01UpdateTarget) : Option String :=
  target.ports.head?.bind fun port => port.2.serialNumber

/-
`contains`
-/
def containsStr (s part : String) : Bool :=
  part.toList <:+: s.toList

/-
`sort_by` keeps the order of ports with the same name. Indexing an empty list panics.
-/
def preferredPort (target : EP01UpdateTarget) : Option Port :=
  let sorted := target.ports.insertionSort fun a b => a.1 ≤ b.1
  match sorted.find? fun port => containsStr port.1 "/cu." with
  | some preferred => some preferred
  | none => sorted[0]?

end EP01UpdateTarget

end Update
end Enody
