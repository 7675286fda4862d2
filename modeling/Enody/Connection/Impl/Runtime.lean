import Enody.Connection.Impl.Device
import Mathlib.Logic.Function.Basic

/-!
This module contains `RemoteRuntime::connect` and `RemoteRuntime::disconnect` over a device, one call at
a time. Between the calls the read task of the stored connection can end, and the dispatch task ends some
time after its receiver is gone or has lost its sender.

Only the read tasks of WiFi and of the serial port end by themselves, the one of `rusb` carries on after
a read error.
-/

namespace Enody
namespace Connection

inductive ReadTask where
  | running
  | ended (result : Except (Error .std) Unit)

def ReadTask.isRunning : ReadTask → Bool
  | running => true
  | ended _ => false

inductive DispatchTask where
  | absent
  | running
  | finished
  deriving DecidableEq

inductive TaskTransport where
  | wifi
  | serialPort
  deriving DecidableEq

def TaskTransport.transport : TaskTransport → Transport
  | wifi => .wifi
  | serialPort => .serialPort

structure RuntimeState where
  device : Device
  readTask : ConnectionId → ReadTask
  dispatchTask : DispatchTask

inductive RuntimeLabel where
  | connect (outcome : Except (Error .std) Unit)
  | disconnect (outcome : Except (Error .std) Unit)
  | readTaskEnds (result : Except (Error .std) Unit)
  | dispatchEnds

namespace RuntimeState

def new : RuntimeState where
  device := .new
  readTask := fun _ => .ended (.ok ())
  dispatchTask := .absent

def setReadTask (s : RuntimeState) (id : ConnectionId) (task : ReadTask) : RuntimeState :=
  { s with readTask := Function.update s.readTask id task }

def setMessageRx (s : RuntimeState) (rx : Option ConnectionId) : RuntimeState :=
  { s with device := s.device.setMessageRx rx }

/-
A task that still runs is kept, a finished one is replaced.
-/
def ensureDispatchTask (s : RuntimeState) : RuntimeState :=
  { s with
    dispatchTask :=
      match s.dispatchTask with
      | .running => .running
      | .finished => .running
      | .absent => .running }

def stopDispatchTask (s : RuntimeState) : RuntimeState :=
  { s with dispatchTask := .absent }

def connectDevice (s : RuntimeState) (outcome : Except (Error .std) Unit)
    : RuntimeState × Except (Error .std) Unit :=
  match s.device.connection with
  | some _ => (s, .ok ())
  | none =>
    match outcome with
    | .error error => (s, .error error)
    | .ok () =>
      let id := s.device.opened
      let stored := { s with device := s.device.store }.setReadTask id .running
      (stored.setMessageRx (some id), .ok ())

/-
What the read task returns when the connection is closed: a task that has ended keeps its result.
-/
def joined (s : RuntimeState) (id : ConnectionId) (outcome : Except (Error .std) Unit)
    : Except (Error .std) Unit :=
  match s.readTask id with
  | .running => outcome
  | .ended result => result

/-
`disconnect` of the device. WiFi aborts the read task and ignores its result, the serial port waits for
it and returns its error before the receiver is cleared.
-/
def disconnectDevice (transport : TaskTransport) (s : RuntimeState)
    (outcome : Except (Error .std) Unit)
    : RuntimeState × Except (Error .std) Unit :=
  match s.device.connection with
  | none =>
    match disconnectAbsent transport.transport with
    | some error => (s, .error error)
    | none => (s.setMessageRx none, .ok ())
  | some id =>
    let result := s.joined id outcome
    let taken := { s with device := s.device.take }.setReadTask id (.ended result)
    match transport, result with
    | .serialPort, .error error => (taken, .error error)
    | _, _ => (taken.setMessageRx none, .ok ())

def connect (s : RuntimeState) (outcome : Except (Error .std) Unit)
    : RuntimeState × Except (Error .std) Unit :=
  match s.connectDevice outcome with
  | (s, .error error) => (s, .error error)
  | (s, .ok ()) => (s.ensureDispatchTask, .ok ())

def disconnect (transport : TaskTransport) (s : RuntimeState)
    (outcome : Except (Error .std) Unit)
    : RuntimeState × Except (Error .std) Unit :=
  s.stopDispatchTask.disconnectDevice transport outcome

/-
The peer closes, a read fails, a frame is malformed.
-/
def readTaskEnds (s : RuntimeState) (result : Except (Error .std) Unit) : Option RuntimeState :=
  match s.device.connection with
  | none => none
  | some id =>
    match s.readTask id with
    | .running => some (s.setReadTask id (.ended result))
    | .ended _ => none

def receives (s : RuntimeState) : Bool :=
  match s.device.messageRx with
  | none => false
  | some id => (s.readTask id).isRunning

/-
`recv_message` fails and the dispatch task ends.
-/
def dispatchEnds (s : RuntimeState) : Option RuntimeState :=
  if s.dispatchTask = .running ∧ s.receives = false then
    some { s with dispatchTask := .finished }
  else
    none

def step (transport : TaskTransport) (s : RuntimeState) : RuntimeLabel → Option RuntimeState
  | .connect outcome => some (s.connect outcome).1
  | .disconnect outcome => some (s.disconnect transport outcome).1
  | .readTaskEnds result => s.readTaskEnds result
  | .dispatchEnds => s.dispatchEnds

end RuntimeState

end Connection
end Enody
