import Enody.Message

/-!
This module contains the download of a firmware version of `update.rs` and the update of a device with it.
The HTTP service is the outcome of each request, by its number. espflash, the parser of the manifest and
SHA-256 are parameters.
-/

namespace Enody
namespace Update

def firmwareBaseUrl : String := "https://firmware.enody.lighting"

structure FirmwarePayload where
  offset : UInt32
  length : UInt32
  data : String
  sha256 : String
  deriving DecidableEq

structure FirmwareVersion where
  version : String
  payload : List FirmwarePayload
  deriving DecidableEq

/--
What `update.rs` uses of other crates: the text of an identifier, the parser of a manifest, and the digest.
-/
structure Crates where
  displayIdentifier : Identifier → String
  parseManifest : List UInt8 → Option (List FirmwareVersion)
  sha256 : List UInt8 → List UInt8

/--
`body` is `none` when the connection breaks before the end of the body.
-/
inductive HttpOutcome where
  | requestError
  | response (status : Nat) (body : Option (List UInt8))
  deriving DecidableEq

def isSuccess (status : Nat) : Bool := 200 ≤ status && status < 300

/--
The URLs that have been requested, and the arguments of the calls of `flash_payloads`.
-/
structure UpdateState where
  requests : List String
  flashed : List (List (UInt32 × List UInt8))
  deriving DecidableEq

namespace UpdateState

def initial : UpdateState := ⟨[], []⟩

/-
`reqwest::get`
-/
def get (http : Nat → HttpOutcome) (url : String) (s : UpdateState) : UpdateState × HttpOutcome :=
  ({ s with requests := s.requests ++ [url] }, http s.requests.length)

end UpdateState

def lowerHexDigit (n : Nat) : Char :=
  if n < 10 then Char.ofNat (48 + n) else Char.ofNat (87 + n)

/-
The format `{:x}` of a digest.
-/
def lowerHex (bytes : List UInt8) : String :=
  String.ofList (bytes.flatMap fun byte =>
    [lowerHexDigit (byte.toNat / 16), lowerHexDigit (byte.toNat % 16)])

section Download

variable (crates : Crates) (http : Nat → HttpOutcome) (hostId : Identifier)

def manifestUrl : String :=
  firmwareBaseUrl ++ "/" ++ crates.displayIdentifier hostId ++ "/firmware.json"

def payloadUrl (payload : FirmwarePayload) : String :=
  firmwareBaseUrl ++ "/" ++ crates.displayIdentifier hostId ++ "/" ++ payload.data

def fetchFirmwareManifest (s : UpdateState)
    : UpdateState × Except (Error .std) (List FirmwareVersion) :=
  let url := manifestUrl crates hostId
  match s.get http url with
  | (s, .requestError) =>
    (s, .error (.debugText ("Failed to fetch firmware manifest from " ++ url)))
  | (s, .response status body) =>
    if isSuccess status then
      match body.bind crates.parseManifest with
      | none => (s, .error (.debugText ("Failed to parse firmware manifest from " ++ url)))
      | some versions => (s, .ok versions)
    else
      (s, .error (.debugText ("Failed to fetch firmware manifest from " ++ url)))

/-
The length is compared as a `u32`.
-/
def checkPayload (payload : FirmwarePayload) (data : List UInt8)
    : Except (Error .std) (List UInt8) :=
  if UInt32.ofNat data.length ≠ payload.length then
    .error (.debugText ("Payload " ++ payload.data ++ " size mismatch: expected "
      ++ payload.length.toNat.repr ++ " bytes, got " ++ data.length.repr))
  else
    let hash := lowerHex (crates.sha256 data)
    if hash ≠ payload.sha256 then
      .error (.debugText ("Payload " ++ payload.data ++ " SHA-256 mismatch: expected "
        ++ payload.sha256 ++ ", got " ++ hash))
    else
      .ok data

def downloadPayload (payload : FirmwarePayload) (s : UpdateState)
    : UpdateState × Except (Error .std) (List UInt8) :=
  match s.get http (payloadUrl crates hostId payload) with
  | (s, .requestError) => (s, .error (.debugText ("Failed to download payload " ++ payload.data)))
  | (s, .response status body) =>
    if isSuccess status then
      match body with
      | none => (s, .error (.debugText ("Failed to download payload " ++ payload.data)))
      | some data => (s, checkPayload crates payload data)
    else
      (s, .error (.debugText ("Failed to download payload " ++ payload.data)))

def downloadFirmwarePayloads (version : FirmwareVersion) (s : UpdateState)
    : UpdateState × Except (Error .std) (List (UInt32 × List UInt8)) :=
  go [] version.payload s
where
  go (payloads : List (UInt32 × List UInt8))
      : List FirmwarePayload → UpdateState
        → UpdateState × Except (Error .std) (List (UInt32 × List UInt8))
    | [], s => (s, .ok payloads)
    | fwPayload :: rest, s =>
      match downloadPayload crates http hostId fwPayload s with
      | (s, .error error) => (s, .error error)
      | (s, .ok data) => go (payloads ++ [(fwPayload.offset, data)]) rest s

end Download

/-
`flash` is what espflash and the serial port answer. Nothing is written when there is no payload.
-/
def flashPayloads (flash : List (UInt32 × List UInt8) → Except (Error .std) Unit)
    (payloads : List (UInt32 × List UInt8)) (s : UpdateState)
    : UpdateState × Except (Error .std) Unit :=
  ({ s with flashed := s.flashed ++ [payloads] },
    if payloads.isEmpty then .ok () else flash payloads)

/-
A scan is what the hosts of the attached runtimes answer. `scans` are those before the deadline.
-/
def verifyUpdatedHost (info : Message.HostInfo)
    (scans : List (List (Except (Error .std) Message.HostInfo)))
    : Except (Error .std) Unit :=
  let isUpdated (host : Except (Error .std) Message.HostInfo) : Bool :=
    match host with
    | .error _ => false
    | .ok host => host.identifier == info.identifier
  if scans.any fun runtimes => runtimes.any isUpdated then
    .ok ()
  else
    .error (.debugText "Timed out waiting for update verification.")

structure System where
  http : Nat → HttpOutcome
  flash : List (UInt32 × List UInt8) → Except (Error .std) Unit
  scans : List (List (Except (Error .std) Message.HostInfo))

def updateDevice (crates : Crates) (system : System) (info : Message.HostInfo) (version : String)
    : UpdateState × Except (Error .std) Unit :=
  match fetchFirmwareManifest crates system.http info.identifier .initial with
  | (s, .error error) => (s, .error error)
  | (s, .ok versions) =>
    match versions.find? fun fv => fv.version == version with
    | none => (s, .error (.debugText ("Version " ++ version ++ " not found")))
    | some selected =>
      match downloadFirmwarePayloads crates system.http info.identifier selected s with
      | (s, .error error) => (s, .error error)
      | (s, .ok payloads) =>
        match flashPayloads system.flash payloads s with
        | (s, .error error) => (s, .error error)
        | (s, .ok ()) => (s, verifyUpdatedHost info system.scans)

end Update
end Enody
