import Enody.Channel.Bounded
import Enody.Environment
import Enody.Wifi.Impl.Device

/-!
This module contains a `WifiEnvironment` with its discovery task and any number of concurrent
`exclude_host_id` and `remove_excluded_host_id` calls. A discovery round works on a copy of the exclusion
set, changes the list of connected runtimes as it goes, and sends its events at its end. A step is the
code between two await points, or under one lock: the exclusion set and the list have a lock each.

`changes`, `sent`, `received` and `excludedSince` are history variables: the changes of the list in the
order in which they happen, the events in the order in which the channel accepts and yields them, and
the hosts whose `exclude_host_id` has returned and which have not been removed since.
-/

namespace Enody
namespace Wifi

def wifiDiscoveryMissesBeforeLeft : Nat := 3
def wifiRuntimeEventChannelSize : Nat := 16

/--
A `RemoteRuntime` over a `WifiConnection`. The runtimes are numbered in the order in which they are made.
-/
structure WifiRuntime where
  id : Nat
  connection : WifiConnection
  deriving DecidableEq

def runtimeHostId (runtime : WifiRuntime) : Identifier := runtime.connection.identifier

abbrev RuntimeEvent := EnvironmentRuntimeEvent WifiRuntime

structure ConnectedWifiRuntime where
  runtime : WifiRuntime
  missedDiscoveries : Nat
  deriving DecidableEq

def ConnectedWifiRuntime.hostId (connected : ConnectedWifiRuntime) : Identifier :=
  runtimeHostId connected.runtime

inductive RoundPhase where
  | visiting (devices : List WifiDiscoveredDevice)
  | connecting (runtime : WifiRuntime) (devices : List WifiDiscoveredDevice)
  | disconnecting (missing : List WifiRuntime)
  deriving DecidableEq

structure Round where
  excludedHostIds : List Identifier
  seenHostIds : List Identifier
  events : List RuntimeEvent
  phase : RoundPhase
  deriving DecidableEq

/--
A call of `exclude_host_id` that has not returned: it has inserted the host, or it has removed the runtime
from the list and owes the event.
-/
inductive Excluding where
  | inserted (hostId : Identifier)
  | owing (runtime : WifiRuntime)
  deriving DecidableEq

def Excluding.hostId : Excluding → Identifier
  | inserted hostId => hostId
  | owing runtime => runtimeHostId runtime

structure DiscoveryState where
  excludedHostIds : List Identifier
  connectedRuntimes : List ConnectedWifiRuntime
  runtimeEvents : Channel RuntimeEvent wifiRuntimeEventChannelSize
  round : Option Round
  excluding : List Excluding
  created : Nat
  changes : List RuntimeEvent
  sent : List RuntimeEvent
  received : List RuntimeEvent
  excludedSince : List Identifier

inductive DiscoveryLabel where
  | startRound (devices : List WifiDiscoveredDevice)
  | visit
  | connected
  | connectFailed
  | scan
  | disconnected
  | sendEvent
  | endRound
  | exclude (hostId : Identifier)
  | removeConnected (call : Nat)
  | sendLeft (call : Nat)
  | removeExcluded (hostId : Identifier)
  | receive

def resetMissed (hostId : Identifier)
    : List ConnectedWifiRuntime → Option (List ConnectedWifiRuntime)
  | [] => none
  | connected :: rest =>
    if connected.hostId = hostId then
      some ({ connected with missedDiscoveries := 0 } :: rest)
    else
      (resetMissed hostId rest).map (connected :: ·)

def scanMissing (seenHostIds : List Identifier)
    : List ConnectedWifiRuntime → List ConnectedWifiRuntime × List WifiRuntime
  | [] => ([], [])
  | connected :: rest =>
    let (kept, missing) := scanMissing seenHostIds rest
    if connected.hostId ∈ seenHostIds then
      ({ connected with missedDiscoveries := 0 } :: kept, missing)
    else
      let missedDiscoveries := min (connected.missedDiscoveries + 1) 255
      if missedDiscoveries ≥ wifiDiscoveryMissesBeforeLeft then
        (kept, connected.runtime :: missing)
      else
        ({ connected with missedDiscoveries := missedDiscoveries } :: kept, missing)

def removeConnectedRuntime (connectedRuntimes : List ConnectedWifiRuntime) (hostId : Identifier)
    : Option (WifiRuntime × List ConnectedWifiRuntime) :=
  match connectedRuntimes.find? fun connected => connected.hostId = hostId with
  | none => none
  | some connected =>
    some (connected.runtime, connectedRuntimes.eraseP fun connected => connected.hostId = hostId)

/-
The runtime that is made for a device, `none` when the device is not eligible.
-/
def runtimeFromDiscoveredDevice (tokens : TokenMap) (excludedHostIds : List Identifier)
    (device : WifiDiscoveredDevice) (id : Nat)
    : Option WifiRuntime :=
  match device.hostId with
  | none => none
  | some hostId =>
    if hostId ∈ excludedHostIds then
      none
    else
      match tokenForDiscoveredDevice tokens device with
      | none => none
      | some token =>
        match WifiConnection.fromDiscoveredDevice token device with
        | .error _ => none
        | .ok connection => some ⟨id, connection⟩

namespace DiscoveryState

def initial (excludedHostIds : List Identifier) (connectedRuntimes : List ConnectedWifiRuntime)
    (created : Nat)
    : DiscoveryState where
  excludedHostIds := excludedHostIds
  connectedRuntimes := connectedRuntimes
  runtimeEvents := .empty
  round := none
  excluding := []
  created := created
  changes := []
  sent := []
  received := []
  excludedSince := []

def startRound (s : DiscoveryState) (devices : List WifiDiscoveredDevice) : Option DiscoveryState :=
  match s.round with
  | some _ => none
  | none => some { s with round := some ⟨s.excludedHostIds, [], [], .visiting devices⟩ }

/-
The round looks at its next device, up to the connect.
-/
def visitDevice (tokens : TokenMap) (s : DiscoveryState) (round : Round)
    (device : WifiDiscoveredDevice) (devices : List WifiDiscoveredDevice)
    : DiscoveryState :=
  match device.hostId with
  | none => { s with round := some { round with phase := .visiting devices } }
  | some hostId =>
    if hostId ∈ round.excludedHostIds ∨ tokenForDiscoveredDevice tokens device = none
        ∨ hostId ∈ round.seenHostIds then
      { s with round := some { round with phase := .visiting devices } }
    else
      let round := { round with seenHostIds := hostId :: round.seenHostIds }
      match resetMissed hostId s.connectedRuntimes with
      | some connectedRuntimes =>
        { s with
          connectedRuntimes := connectedRuntimes
          round := some { round with phase := .visiting devices } }
      | none =>
        match runtimeFromDiscoveredDevice tokens round.excludedHostIds device s.created with
        | none => { s with round := some { round with phase := .visiting devices } }
        | some runtime =>
          { s with
            created := s.created + 1
            round := some { round with phase := .connecting runtime devices } }

def visit (tokens : TokenMap) (s : DiscoveryState) : Option DiscoveryState :=
  match s.round with
  | some round =>
    match round.phase with
    | .visiting (device :: devices) => some (s.visitDevice tokens round device devices)
    | _ => none
  | none => none

/-
The connect has succeeded: the runtime is pushed unless the list has one of its host by now.
-/
def connected (s : DiscoveryState) : Option DiscoveryState :=
  match s.round with
  | some round =>
    match round.phase with
    | .connecting runtime devices =>
      if s.connectedRuntimes.any fun connected => connected.hostId = runtimeHostId runtime then
        some { s with round := some { round with phase := .visiting devices } }
      else
        some
          { s with
            connectedRuntimes := s.connectedRuntimes ++ [⟨runtime, 0⟩]
            changes := s.changes ++ [.arrived runtime]
            round := some
              { round with events := round.events ++ [.arrived runtime], phase := .visiting devices } }
    | _ => none
  | none => none

def connectFailed (s : DiscoveryState) : Option DiscoveryState :=
  match s.round with
  | some round =>
    match round.phase with
    | .connecting _ devices =>
      some { s with round := some { round with phase := .visiting devices } }
    | _ => none
  | none => none

def scan (s : DiscoveryState) : Option DiscoveryState :=
  match s.round with
  | some round =>
    match round.phase with
    | .visiting [] =>
      let (kept, missing) := scanMissing round.seenHostIds s.connectedRuntimes
      some
        { s with
          connectedRuntimes := kept
          changes := s.changes ++ missing.map .left
          round := some { round with phase := .disconnecting missing } }
    | _ => none
  | none => none

def disconnected (s : DiscoveryState) : Option DiscoveryState :=
  match s.round with
  | some round =>
    match round.phase with
    | .disconnecting (runtime :: missing) =>
      some
        { s with
          round := some
            { round with events := round.events ++ [.left runtime], phase := .disconnecting missing } }
    | _ => none
  | none => none

/-
The discovery task waits while the channel is full.
-/
def sendEvent (s : DiscoveryState) : Option DiscoveryState :=
  match s.round with
  | some round =>
    match round.phase, round.events with
    | .disconnecting [], event :: events =>
      match s.runtimeEvents.trySend event with
      | some runtimeEvents =>
        some
          { s with
            runtimeEvents := runtimeEvents
            sent := s.sent ++ [event]
            round := some { round with events := events } }
      | none => none
    | _, _ => none
  | none => none

def endRound (s : DiscoveryState) : Option DiscoveryState :=
  match s.round with
  | some round =>
    match round.phase, round.events with
    | .disconnecting [], [] => some { s with round := none }
    | _, _ => none
  | none => none

def returned (s : DiscoveryState) (hostId : Identifier) : DiscoveryState :=
  { s with excludedSince := hostId :: s.excludedSince }

def exclude (s : DiscoveryState) (hostId : Identifier) : DiscoveryState :=
  if hostId ∈ s.excludedHostIds then
    s.returned hostId
  else
    { s with
      excludedHostIds := hostId :: s.excludedHostIds
      excluding := s.excluding ++ [.inserted hostId] }

def removeConnected (s : DiscoveryState) (call : Nat) : Option DiscoveryState :=
  match s.excluding[call]? with
  | some (.inserted hostId) =>
    match removeConnectedRuntime s.connectedRuntimes hostId with
    | none => some ({ s with excluding := s.excluding.eraseIdx call }.returned hostId)
    | some (runtime, connectedRuntimes) =>
      some
        { s with
          connectedRuntimes := connectedRuntimes
          changes := s.changes ++ [.left runtime]
          excluding := s.excluding.set call (.owing runtime) }
  | _ => none

/-
A full channel drops the event.
-/
def sendLeft (s : DiscoveryState) (call : Nat) : Option DiscoveryState :=
  match s.excluding[call]? with
  | some (.owing runtime) =>
    let finished := { s with excluding := s.excluding.eraseIdx call }.returned (runtimeHostId runtime)
    match s.runtimeEvents.trySend (.left runtime) with
    | some runtimeEvents =>
      some { finished with runtimeEvents := runtimeEvents, sent := s.sent ++ [.left runtime] }
    | none => some finished
  | _ => none

def removeExcluded (s : DiscoveryState) (hostId : Identifier) : DiscoveryState :=
  { s with
    excludedHostIds := s.excludedHostIds.filter (· ≠ hostId)
    excludedSince := s.excludedSince.filter (· ≠ hostId) }

def receive (s : DiscoveryState) : Option DiscoveryState :=
  match s.runtimeEvents.recv with
  | none => none
  | some (event, runtimeEvents) =>
    some { s with runtimeEvents := runtimeEvents, received := s.received ++ [event] }

def step (tokens : TokenMap) (s : DiscoveryState) : DiscoveryLabel → Option DiscoveryState
  | .startRound devices => s.startRound devices
  | .visit => s.visit tokens
  | .connected => s.connected
  | .connectFailed => s.connectFailed
  | .scan => s.scan
  | .disconnected => s.disconnected
  | .sendEvent => s.sendEvent
  | .endRound => s.endRound
  | .exclude hostId => some (s.exclude hostId)
  | .removeConnected call => s.removeConnected call
  | .sendLeft call => s.sendLeft call
  | .removeExcluded hostId => some (s.removeExcluded hostId)
  | .receive => s.receive

end DiscoveryState

/--
`WifiEnvironment::with_timeout_and_excluded_host_ids`: one pass over the discovered devices, each with
the outcome of its connect. `seenHostIds` are the hosts that were tried.
-/
structure InitialPass where
  seenHostIds : List Identifier
  connectedRuntimes : List ConnectedWifiRuntime
  created : Nat

def InitialPass.visit (tokens : TokenMap) (excludedHostIds : List Identifier) (pass : InitialPass)
    (found : WifiDiscoveredDevice × Bool)
    : InitialPass :=
  let (device, connects) := found
  match device.hostId with
  | none => pass
  | some hostId =>
    if hostId ∈ excludedHostIds ∨ tokenForDiscoveredDevice tokens device = none
        ∨ hostId ∈ pass.seenHostIds then
      pass
    else
      let pass := { pass with seenHostIds := hostId :: pass.seenHostIds }
      match runtimeFromDiscoveredDevice tokens excludedHostIds device pass.created with
      | none => pass
      | some runtime =>
        let pass := { pass with created := pass.created + 1 }
        if connects then
          { pass with connectedRuntimes := pass.connectedRuntimes ++ [⟨runtime, 0⟩] }
        else
          pass

def withExcludedHostIds (tokens : List Message.Token) (excludedHostIds : List Identifier)
    (devices : List (WifiDiscoveredDevice × Bool))
    : DiscoveryState :=
  let devices := if tokens.isEmpty then [] else devices
  let pass := devices.foldl (InitialPass.visit (collectTokens tokens) excludedHostIds) ⟨[], [], 0⟩
  .initial excludedHostIds pass.connectedRuntimes pass.created

end Wifi
end Enody
