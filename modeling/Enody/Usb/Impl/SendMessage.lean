import Enody.Serialization.Message
import Enody.Transition.Run
import Mathlib.Logic.Function.Basic

/-!
This module contains `RusbDevice::send_message` as a transition system over any number of concurrent
calls on one device. A call frames its message, takes the write mutex, and writes the frame with one
`write_bulk`, which hands the bytes to the OUT endpoint in transfers and returns how many it has handed
over. A call that is past the read lock of the connection has no point where it awaits, so it cannot be
cancelled there.

`locked` is a history variable: the frames in the order in which the write mutex was taken for them.
-/

namespace Enody
namespace Usb

open Serialization

inductive RusbSendPhase where
  | notCalled
  | waitMutex (message : Message .std) (payload : UsbDataBuffer)
  | writing (message : Message .std) (payload : UsbDataBuffer) (written : Nat)
  | returned (message : Message .std) (result : Except (Error .std) Unit)

structure LockedFrame where
  call : CallId
  message : Message .std
  payload : UsbDataBuffer

structure RusbSendState where
  connected : Bool
  readers : Nat
  calls : CallId → RusbSendPhase
  writeMutex : Option CallId
  wire : List UInt8
  locked : List LockedFrame

inductive RusbSendLabel where
  | connect
  | disconnect
  | call (i : CallId) (message : Message .std)
  | lock (i : CallId)
  | transfer (i : CallId) (count : Nat)
  | writeOk (i : CallId) (count : Nat)
  | writeError (i : CallId) (detail : String)

namespace RusbSendState

def initial : RusbSendState where
  connected := false
  readers := 0
  calls := fun _ => .notCalled
  writeMutex := none
  wire := []
  locked := []

def setCall (s : RusbSendState) (i : CallId) (phase : RusbSendPhase) : RusbSendState :=
  { s with calls := Function.update s.calls i phase }

/-
`connect` and `disconnect` wait until no call holds the read lock of the connection.
-/
def setConnected (s : RusbSendState) (connected : Bool) : Option RusbSendState :=
  if s.readers = 0 then some { s with connected := connected } else none

def call (s : RusbSendState) (i : CallId) (message : Message .std) : Option RusbSendState :=
  match s.calls i with
  | .notCalled =>
    if s.connected then
      match tryFromMessage .std message with
      | none => none
      | some (.error _) => some (s.setCall i (.returned message (.error .serialization)))
      | some (.ok payload) =>
        some { s.setCall i (.waitMutex message payload) with readers := s.readers + 1 }
    else
      some (s.setCall i (.returned message (.error (.usbText "No active connection"))))
  | _ => none

def lock (s : RusbSendState) (i : CallId) : Option RusbSendState :=
  match s.calls i, s.writeMutex with
  | .waitMutex message payload, none =>
    some
      { s.setCall i (.writing message payload 0) with
        writeMutex := some i
        locked := s.locked ++ [⟨i, message, payload⟩] }
  | _, _ => none

/-
`write_bulk` hands the next `count` bytes over.
-/
def transfer (s : RusbSendState) (i : CallId) (count : Nat) : Option RusbSendState :=
  match s.calls i with
  | .writing message payload written =>
    if written + count ≤ payload.length then
      some
        { s.setCall i (.writing message payload (written + count)) with
          wire := s.wire ++ (payload.drop written).take count }
    else
      none
  | _ => none

/-
`send_message` returns, which drops the guards of the mutex and of the connection.
-/
def returns (s : RusbSendState) (i : CallId) (message : Message .std)
    (result : Except (Error .std) Unit) : RusbSendState :=
  { s.setCall i (.returned message result) with
    writeMutex := none
    readers := s.readers - 1 }

/-
`write_bulk` returns `Ok(count)`. The source drops the count.
-/
def writeOk (s : RusbSendState) (i : CallId) (count : Nat) : Option RusbSendState :=
  match s.calls i with
  | .writing message _ written =>
    if count = written then some (s.returns i message (.ok ())) else none
  | _ => none

def writeError (s : RusbSendState) (i : CallId) (detail : String) : Option RusbSendState :=
  match s.calls i with
  | .writing message _ _ => some (s.returns i message (.error (.usbText detail)))
  | _ => none

def step (s : RusbSendState) : RusbSendLabel → Option RusbSendState
  | .connect => s.setConnected true
  | .disconnect => s.setConnected false
  | .call i message => s.call i message
  | .lock i => s.lock i
  | .transfer i count => s.transfer i count
  | .writeOk i count => s.writeOk i count
  | .writeError i detail => s.writeError i detail

def wholeWrite (s : RusbSendState) : RusbSendLabel → Bool
  | .writeOk i count =>
    match s.calls i with
    | .writing _ payload _ => count == payload.length
    | _ => true
  | _ => true

end RusbSendState

end Usb
end Enody
