import Enody.Update.Impl
import Enody.Update.Impl.Targets

/-!
This module contains how `update.rs` collects the `HostInfo` of a target, and how it waits for the host after
the device has been flashed: the scans that `verify_updated_host` makes until its deadline.
-/

namespace Enody
namespace Update

open Message (HostInfo)

/--
What a port answers when the targets are collected. `hostResult` is `none` when the host does not answer within
`CONNECTION_TIMEOUT`.
-/
structure Query where
  connect : Except (Error .std) Unit
  hostResult : Option (Except (Error .std) HostInfo)

namespace EP01UpdateTarget

/-
The first port of the target is asked. A target that does not answer is kept as it is.
-/
def withHostInfo (query : Port → Query) (target : EP01UpdateTarget) : EP01UpdateTarget :=
  match target.ports.head? with
  | none => target
  | some port =>
    match (query port).connect with
    | .error _ => target
    | .ok () =>
      match (query port).hostResult with
      | some (.ok host) => { target with info := host }
      | _ => target

def attached (attachedPorts : Except (Error .std) (List Port)) (query : Port → Query)
    : List EP01UpdateTarget :=
  (attachedRaw attachedPorts).map (withHostInfo query)

end EP01UpdateTarget

/--
A runtime of a scan: the serial number of its device, and what `RemoteRuntime::host` yields.
-/
structure ScannedRuntime where
  serialNumber : Option String
  host : Except (Error .std) HostInfo

abbrev Scan := List ScannedRuntime

/-
The `Duration` of a number of seconds, in nanoseconds.
-/
def fromSecs (secs : Nat) : Nat := secs * 1000000000

def verifyTimeout : Nat := fromSecs 30
def verifyInterval : Nat := fromSecs 3

/--
What happens while it is waited: what every scan finds, and the time that has passed since the start when it is
over. Between two scans lies the pause.
-/
structure Waiting where
  scan : Nat → Scan
  elapsed : Nat → Nat
  sleep : ∀ n, elapsed n + verifyInterval ≤ elapsed (n + 1)

def isUpdated (info : HostInfo) (runtime : ScannedRuntime) : Bool :=
  match runtime.host with
  | .error _ => false
  | .ok host => host.identifier == info.identifier

/-
The loop of `verify_updated_host` from the `n`-th scan on: the scans that are made, and the result.
-/
def waitForHost (info : HostInfo) (waiting : Waiting) (n : Nat) : List Scan × Except (Error .std) Unit :=
  if (waiting.scan n).any (isUpdated info) then
    ([waiting.scan n], .ok ())
  else
    if waiting.elapsed n ≥ verifyTimeout then
      ([waiting.scan n], .error (.debugText "Timed out waiting for update verification."))
    else
      let (scans, result) := waitForHost info waiting (n + 1)
      (waiting.scan n :: scans, result)
termination_by verifyTimeout - waiting.elapsed n
decreasing_by
  have hSleep := waiting.sleep n
  unfold verifyInterval verifyTimeout fromSecs at *
  omega

def scansMade (info : HostInfo) (waiting : Waiting) : List Scan := (waitForHost info waiting 0).1

def answersOf (scans : List Scan) : List (List (Except (Error .std) HostInfo)) :=
  scans.map fun scan => scan.map ScannedRuntime.host

def systemOf (http : Nat → HttpOutcome) (flash : List (UInt32 × List UInt8) → Except (Error .std) Unit)
    (info : HostInfo) (waiting : Waiting)
    : System :=
  ⟨http, flash, answersOf (scansMade info waiting)⟩

end Update
end Enody
