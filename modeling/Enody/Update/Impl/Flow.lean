import Enody.Update.Impl.Selection
import Enody.Update.Impl.Verify
import Enody.Wifi.Impl.Mdns

/-!
This module contains the update command of `update.rs`: the confirmation, the choice of a device and of its
firmware, the calls of `flash_payloads` on the port of the device, and the verification. Of what is printed the
prompts are kept, messages about the progress are left out.
-/

namespace Enody
namespace Update

def Stdio.promptLine (stdio : Stdio) (flushFailed readFailed : String) : Except (Error .std) String :=
  match stdio.flush with
  | .error detail => .error (.debugText (flushFailed ++ ": " ++ detail))
  | .ok () =>
    match stdio.readLine with
    | .error detail => .error (.debugText (readFailed ++ ": " ++ detail))
    | .ok line => .ok line

/--
`espflash::image_format::Segment`
-/
structure Segment where
  addr : UInt32
  data : List UInt8
  deriving DecidableEq

/-
The data is filled up to a multiple of four bytes.
-/
def Segment.ofPayload (payload : UInt32 × List UInt8) : Segment :=
  let size := payload.2.length
  ⟨payload.1, payload.2 ++ if size % 4 ≠ 0 then List.replicate (4 - size % 4) 0xFF else []⟩

inductive PortCall where
  | openNative (port : Port)
  | connect (port : Port)
  | writeBinsToFlash (port : Port) (segments : List Segment)
  | reopen (port : Port)
  | reset (port : Port)
  deriving DecidableEq

abbrev Espflash := PortCall → Except String Unit

def PortCall.failed (detail : String) : PortCall → String
  | .openNative port => "Failed to open serial port " ++ port.1 ++ ": " ++ detail
  | .connect port => "Failed to connect with espflash on " ++ port.1 ++ ": " ++ detail
  | .writeBinsToFlash _ _ => "Failed to flash firmware: " ++ detail
  | .reopen port => "Failed to reopen serial port " ++ port.1 ++ ": " ++ detail
  | .reset _ => "Failed to reset device into running mode after flash: " ++ detail

def perform (espflash : Espflash) : List PortCall → List PortCall × Except (Error .std) Unit
  | [] => ([], .ok ())
  | call :: calls =>
    match espflash call with
    | .error detail => ([call], .error (.debugText (call.failed detail)))
    | .ok () =>
      let (made, result) := perform espflash calls
      (call :: made, result)

def flashCalls (port : Port) (payloads : List (UInt32 × List UInt8)) : List PortCall :=
  [.openNative port, .connect port, .writeBinsToFlash port (payloads.map Segment.ofPayload), .reopen port,
    .reset port]

structure Files where
  canonicalize : String → Except String String
  isFile : String → Bool
  read : String → Except String (List UInt8)

def firmwareFlashOffset : UInt32 := 0x00020000

namespace EP01UpdateTarget

/-
There is no result when the choice of the port panics.
-/
def flashPayloads (espflash : Espflash) (target : EP01UpdateTarget) (payloads : List (UInt32 × List UInt8))
    : List PortCall × Option (Except (Error .std) Unit) :=
  if payloads.isEmpty then
    ([], some (.ok ()))
  else
    match target.preferredPort with
    | none => ([], none)
    | some port =>
      let (made, result) := perform espflash (flashCalls port payloads)
      (made, some result)

def flashFirmwareImage (espflash : Espflash) (files : Files) (target : EP01UpdateTarget) (firmwarePath : String)
    : List PortCall × Option (Except (Error .std) Unit) :=
  match files.read firmwarePath with
  | .error detail =>
    ([], some (.error (.debugText ("Failed to read firmware image " ++ firmwarePath ++ ": " ++ detail))))
  | .ok image => target.flashPayloads espflash [(firmwareFlashOffset, image)]

end EP01UpdateTarget

inductive ResolvedFirmware where
  | localFile (path : String)
  | payloads (payloads : List (UInt32 × List UInt8))

def deviceMenu (displayIdentifier : Identifier → String) (hosts : List EP01UpdateTarget) : List String :=
  hosts.zipIdx.map fun (host, idx) =>
    "  " ++ (idx + 1).repr ++ ". " ++ displayIdentifier host.info.identifier
      ++ " (version " ++ host.info.version.toString ++ ")"

def devicePrompt (count : Nat) : String :=
  "Select device" ++ (if count > 1 then " [1-" ++ count.repr else "") ++ ": "

/-
What is typed at the menu. `remove` yields the device.
-/
def chosenDevice (hosts : List EP01UpdateTarget) (line : String) : Except (Error .std) EP01UpdateTarget :=
  match parseUsize (trim line) with
  | none =>
    .error (.debugText ("Invalid selection '" ++ trim line ++ "'. Expected a number between 1 and "
      ++ hosts.length.repr ++ "."))
  | some parsed =>
    if h : parsed < 1 ∨ parsed > hosts.length then
      .error (.debugText ("Selection " ++ parsed.repr ++ " is out of range. Expected 1..="
        ++ hosts.length.repr ++ "."))
    else
      .ok (hosts.get ⟨parsed - 1, index_lt_of_inRange h⟩)

def selectUpdateTarget (displayIdentifier : Identifier → String) (stdio : Stdio) (hosts : List EP01UpdateTarget)
    : List String × Except (Error .std) EP01UpdateTarget :=
  if hosts.isEmpty then
    ([], .error (.debugText "No EP01 devices available."))
  else
    let printed := "Available devices:" :: deviceMenu displayIdentifier hosts ++ [devicePrompt hosts.length]
    match stdio.promptLine "Failed to flush stdout for selection prompt" "Failed to read host selection" with
    | .error error => (printed, .error error)
    | .ok line => (printed, chosenDevice hosts line)

def unresponsive (hosts : List EP01UpdateTarget) : List EP01UpdateTarget :=
  hosts.filter fun host => host.info.identifier == 0

def warning (unresponsive : List EP01UpdateTarget) : List String :=
  "Warning: The following device(s) did not respond to host identification:"
    :: unresponsive.map (fun host => "  - MAC address: " ++ host.macAddress.getD "unknown")
    ++ ["Verify only EP01 devices are attached to this computer before force updating.", "Continue? [y/N]: "]

/--
What the system does during the command. The three terminals are those of the confirmation, the choice of the
device, and the choice of the version.
-/
structure FlowSystem where
  attachedPorts : Except (Error .std) (List Port)
  query : Port → Query
  confirmation : Stdio
  device : Stdio
  version : Stdio
  files : Files
  http : Nat → HttpOutcome
  espflash : Espflash
  waiting : Waiting

def FlowSystem.attached (system : FlowSystem) : List EP01UpdateTarget :=
  EP01UpdateTarget.attached system.attachedPorts system.query

/--
What the command has done: what it has printed, the URLs that it has requested, and its calls on ports.
-/
structure FlowState where
  printed : List String
  requests : List String
  calls : List PortCall

/--
`exited` is `process::exit`.
-/
inductive Outcome where
  | returned (result : Except (Error .std) Unit)
  | exited (code : Nat)
  | panicked

/-
The menu of the versions that is printed, the requests, and the firmware. There is no result when an index that
is out of range panics.
-/
def resolveFirmware (crates : Crates) (system : FlowSystem) (hostIdentifier : Identifier)
    (currentVersion : Message.Version) (firmware : Option String)
    : List String × List String × Option (Except (Error .std) ResolvedFirmware) :=
  match firmware with
  | some path =>
    match system.files.canonicalize path with
    | .error detail =>
      ([], [], some (.error (.debugText ("Failed to resolve firmware image path " ++ path ++ ": " ++ detail))))
    | .ok absolutePath =>
      if system.files.isFile absolutePath then
        ([], [], some (.ok (.localFile absolutePath)))
      else
        ([], [], some (.error (.debugText ("Firmware image path is not a file: " ++ absolutePath))))
  | none =>
    match fetchFirmwareManifest crates system.http hostIdentifier .initial with
    | (s, .error error) => ([], s.requests, some (.error error))
    | (s, .ok versions) =>
      match selectFirmwareVersion system.version versions currentVersion with
      | (printed, .error error) => (printed, s.requests, some (.error error))
      | (printed, .ok selectedIdx) =>
        match versions[selectedIdx]? with
        | none => (printed, s.requests, none)
        | some selected =>
          match downloadFirmwarePayloads crates system.http hostIdentifier selected s with
          | (s, .error error) => (printed, s.requests, some (.error error))
          | (s, .ok payloads) => (printed, s.requests, some (.ok (.payloads payloads)))

def flashResolved (system : FlowSystem) (target : EP01UpdateTarget)
    : ResolvedFirmware → List PortCall × Option (Except (Error .std) Unit)
  | .localFile path => target.flashFirmwareImage system.espflash system.files path
  | .payloads payloads => target.flashPayloads system.espflash payloads

def updateSelected (crates : Crates) (system : FlowSystem) (firmware : Option String) (printed : List String)
    : FlowState × Outcome :=
  match selectUpdateTarget crates.displayIdentifier system.device system.attached with
  | (menu, .error error) => (⟨printed ++ menu, [], []⟩, .returned (.error error))
  | (menu, .ok selectedHost) =>
    let info := selectedHost.info
    match resolveFirmware crates system info.identifier info.version firmware with
    | (versions, requests, none) => (⟨printed ++ menu ++ versions, requests, []⟩, .panicked)
    | (versions, requests, some (.error _)) => (⟨printed ++ menu ++ versions, requests, []⟩, .exited 1)
    | (versions, requests, some (.ok resolved)) =>
      match flashResolved system selectedHost resolved with
      | (calls, none) => (⟨printed ++ menu ++ versions, requests, calls⟩, .panicked)
      | (calls, some (.error error)) =>
        (⟨printed ++ menu ++ versions, requests, calls⟩, .returned (.error error))
      | (calls, some (.ok ())) =>
        (⟨printed ++ menu ++ versions, requests, calls⟩, .returned (waitForHost info system.waiting 0).2)

def updateRemoteHost (crates : Crates) (system : FlowSystem) (firmware : Option String) (force : Bool)
    : FlowState × Outcome :=
  let unresponsive := unresponsive system.attached
  if !unresponsive.isEmpty && !force then
    match system.confirmation.promptLine "Failed to flush stdout" "Failed to read confirmation" with
    | .error error => (⟨warning unresponsive, [], []⟩, .returned (.error error))
    | .ok line =>
      if Wifi.eqIgnoreAsciiCase (trim line) "y" then
        updateSelected crates system firmware (warning unresponsive)
      else
        (⟨warning unresponsive ++ ["Update aborted."], [], []⟩, .returned (.ok ()))
  else
    updateSelected crates system firmware []

end Update
end Enody
