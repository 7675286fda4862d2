import Enody.Connection.Impl.Device
import Mathlib.Logic.Function.Basic

/-!
This module contains any number of overlapping `connect`, `disconnect` and `recv_message` calls on one
device. A step is the piece of code under one lock. `connect` holds the connection lock while it opens
the connection, releases it, and stores the receiver under the other lock. `disconnect` takes the
connection out, closes it without holding a lock, and then clears the receiver. `recv_message` of WiFi
and of the serial port holds the lock of the receiver until a message arrives, the one of `rusb` takes
the receiver out and puts it back.
-/

namespace Enody
namespace Connection

inductive CallPhase where
  | notCalled
  | opening
  | installing (id : ConnectionId)
  | closing (id : ConnectionId)
  | clearing
  | receiving (id : ConnectionId)
  | done (result : Except (Error .std) Unit)
  | received (result : Except (Error .std) (Message .std))

structure CallsState where
  device : Device
  connectionLock : Option CallId
  messageRxLock : Option CallId
  calls : CallId → CallPhase

inductive CallLabel where
  | connect (i : CallId)
  | opened (i : CallId)
  | openFailed (i : CallId) (error : Error .std)
  | install (i : CallId)
  | disconnect (i : CallId)
  | closed (i : CallId)
  | closeFailed (i : CallId) (error : Error .std)
  | clear (i : CallId)
  | recv (i : CallId)
  | recvDone (i : CallId) (message : Option (Message .std))

def CallPhase.inProgress : CallPhase → Bool
  | opening => true
  | installing _ => true
  | closing _ => true
  | clearing => true
  | _ => false

namespace CallsState

def initial : CallsState where
  device := .new
  connectionLock := none
  messageRxLock := none
  calls := fun _ => .notCalled

def setCall (s : CallsState) (i : CallId) (phase : CallPhase) : CallsState :=
  { s with calls := Function.update s.calls i phase }

def connect (s : CallsState) (i : CallId) : Option CallsState :=
  match s.calls i, s.connectionLock with
  | .notCalled, none =>
    match s.device.connection with
    | some _ => some (s.setCall i (.done (.ok ())))
    | none => some { s.setCall i .opening with connectionLock := some i }
  | _, _ => none

def opened (s : CallsState) (i : CallId) : Option CallsState :=
  match s.calls i with
  | .opening =>
    some
      { s.setCall i (.installing s.device.opened) with
        device := s.device.store
        connectionLock := none }
  | _ => none

def openFailed (s : CallsState) (i : CallId) (error : Error .std) : Option CallsState :=
  match s.calls i with
  | .opening => some { s.setCall i (.done (.error error)) with connectionLock := none }
  | _ => none

def install (s : CallsState) (i : CallId) : Option CallsState :=
  match s.calls i, s.messageRxLock with
  | .installing id, none =>
    some { s.setCall i (.done (.ok ())) with device := s.device.setMessageRx (some id) }
  | _, _ => none

def disconnect (transport : Transport) (s : CallsState) (i : CallId) : Option CallsState :=
  match s.calls i, s.connectionLock with
  | .notCalled, none =>
    match s.device.connection with
    | some id => some { s.setCall i (.closing id) with device := s.device.take }
    | none =>
      match disconnectAbsent transport with
      | some error => some (s.setCall i (.done (.error error)))
      | none => some (s.setCall i .clearing)
  | _, _ => none

def closed (s : CallsState) (i : CallId) : Option CallsState :=
  match s.calls i with
  | .closing _ => some (s.setCall i .clearing)
  | _ => none

/-
The `close` of a USB connection can fail, WiFi ignores the result of its read task.
-/
def closeFailed (transport : Transport) (s : CallsState) (i : CallId) (error : Error .std)
    : Option CallsState :=
  match s.calls i, transport with
  | .closing _, .wifi => none
  | .closing _, _ => some (s.setCall i (.done (.error error)))
  | _, _ => none

def clear (s : CallsState) (i : CallId) : Option CallsState :=
  match s.calls i, s.messageRxLock with
  | .clearing, none =>
    some { s.setCall i (.done (.ok ())) with device := s.device.setMessageRx none }
  | _, _ => none

def recv (transport : Transport) (s : CallsState) (i : CallId) : Option CallsState :=
  match s.calls i, s.messageRxLock with
  | .notCalled, none =>
    match s.device.messageRx with
    | none => some (s.setCall i (.received (.error (recvAbsent transport))))
    | some id =>
      match transport with
      | .rusb =>
        some { s.setCall i (.receiving id) with device := s.device.setMessageRx none }
      | _ => some { s.setCall i (.receiving id) with messageRxLock := some i }
  | _, _ => none

def recvDone (transport : Transport) (s : CallsState) (i : CallId)
    (message : Option (Message .std))
    : Option CallsState :=
  match s.calls i with
  | .receiving id =>
    let result :=
      match message with
      | some message => .ok message
      | none => .error (recvEnded transport)
    match transport with
    | .rusb =>
      some { s.setCall i (.received result) with device := s.device.setMessageRx (some id) }
    | _ => some { s.setCall i (.received result) with messageRxLock := none }
  | _ => none

def step (transport : Transport) (s : CallsState) : CallLabel → Option CallsState
  | .connect i => s.connect i
  | .opened i => s.opened i
  | .openFailed i error => s.openFailed i error
  | .install i => s.install i
  | .disconnect i => s.disconnect transport i
  | .closed i => s.closed i
  | .closeFailed i error => s.closeFailed transport i error
  | .clear i => s.clear i
  | .recv i => s.recv transport i
  | .recvDone i message => s.recvDone transport i message

def writes (transport : Transport) (s : CallsState) : CallLabel → Option (Option ConnectionId)
  | .install i =>
    match s.calls i with
    | .installing id => some (some id)
    | _ => none
  | .clear _ => some none
  | .recvDone i _ =>
    match transport, s.calls i with
    | .rusb, .receiving id => some (some id)
    | _, _ => none
  | _ => none

/-
The condition on a step under which the two halves stay together: it does not write over the receiver
of the stored connection.
-/
def keepsCurrent (transport : Transport) (s : CallsState) (label : CallLabel) : Bool :=
  match s.device.connection, s.writes transport label with
  | some id, some rx => s.device.messageRx ≠ some id || rx == some id
  | _, _ => true

end CallsState

end Connection
end Enody
