import Enody.Serialization.Message
import Enody.Transition.Run
import Enody.Usb.Impl.Receive

/-!
This module contains one open connection of a `SerialPortDevice` as a transition system: any number of
`send_message` and `recv_message` calls, the task that writes and reads the port, and the `disconnect` that
ends it. `send_message` holds the read lock of the connection and has no point where it awaits behind it, so
each call is one step.

`sent` is a history variable: the calls of `send_message` that have returned, with their results.
-/

namespace Enody
namespace Usb

open Serialization

/--
Where `message_rx_closure` is: in the loop over `serial_rx`, in `write_all` with the bytes that the port has
not taken yet, at the read, in the loop over the bytes of a read, at the check of the shutdown, or at its end.
-/
inductive SerialTask where
  | draining
  | writing (remaining : List UInt8)
  | reading
  | handling (bytes : List UInt8)
  | polling
  | ended (result : Except (Error .std) Unit)

structure SentMessage where
  message : Message .std
  result : Except (Error .std) Unit

structure SerialLink where
  connected : Bool
  shutdown : Bool
  serialRx : List UsbDataBuffer
  task : SerialTask
  wire : List UInt8
  receiver : Receiver
  sent : List SentMessage

inductive SerialLinkLabel where
  | sendMessage (message : Message .std)
  | recvMessage
  | disconnect
  | takePayload
  | write (count : Nat)
  | flush
  | writeError (detail : String)
  | read (bytes : List UInt8)
  | readTimeout
  | readError (detail : String)
  | handleByte
  | pollShutdown

namespace SerialLink

def initial : SerialLink where
  connected := true
  shutdown := false
  serialRx := []
  task := .draining
  wire := []
  receiver := .new
  sent := []

def isEnded (link : SerialLink) : Bool :=
  match link.task with
  | .ended _ => true
  | _ => false

def returns (link : SerialLink) (message : Message .std) (result : Except (Error .std) Unit)
    : SerialLink :=
  { link with sent := link.sent ++ [⟨message, result⟩] }

/-
A task that has ended has dropped `serial_rx`, which `send_payload` gets as an error.
-/
def sendMessage (link : SerialLink) (message : Message .std) : Option SerialLink :=
  if link.connected then
    match tryFromMessage .std message with
    | none => none
    | some (.error _) => some (link.returns message (.error .serialization))
    | some (.ok payload) =>
      if link.isEnded then
        some (link.returns message (.error (.usbText "sending on a closed channel")))
      else
        some { link.returns message (.ok ()) with serialRx := link.serialRx ++ [payload] }
  else
    some (link.returns message (.error (.usbText "No active connection")))

def recvMessage (link : SerialLink) : Option SerialLink :=
  link.receiver.recvMessage.map fun receiver => { link with receiver := receiver }

/-
`disconnect` takes the connection, and `close` sends the shutdown before it joins the task.
-/
def disconnect (link : SerialLink) : Option SerialLink :=
  if link.connected then some { link with connected := false, shutdown := true } else none

/-
`serial_rx.try_recv()`
-/
def takePayload (link : SerialLink) : Option SerialLink :=
  match link.task, link.serialRx with
  | .draining, payload :: serialRx => some { link with task := .writing payload, serialRx := serialRx }
  | .draining, [] => some { link with task := .reading }
  | _, _ => none

/-
One turn of `write_all`: the port takes the first `count` of the remaining bytes.
-/
def write (link : SerialLink) (count : Nat) : Option SerialLink :=
  match link.task with
  | .writing remaining =>
    if 0 < count ∧ count ≤ remaining.length then
      some
        { link with
          task := .writing (remaining.drop count)
          wire := link.wire ++ remaining.take count }
    else
      none
  | _ => none

def flush (link : SerialLink) : Option SerialLink :=
  match link.task with
  | .writing [] => some { link with task := .draining }
  | _ => none

/-
`write_all` or `flush` fails.
-/
def writeError (link : SerialLink) (detail : String) : Option SerialLink :=
  match link.task with
  | .writing _ => some { link with task := .ended (.error (.usbText detail)) }
  | _ => none

def read (link : SerialLink) (bytes : List UInt8) : Option SerialLink :=
  match link.task with
  | .reading => if bytes.length ≤ usbBufferSize then some { link with task := .handling bytes } else none
  | _ => none

def readTimeout (link : SerialLink) : Option SerialLink :=
  match link.task with
  | .reading => some { link with task := .polling }
  | _ => none

def readError (link : SerialLink) (detail : String) : Option SerialLink :=
  match link.task with
  | .reading => some { link with task := .ended (.error (.usbText detail)) }
  | _ => none

def handleByte (link : SerialLink) : Option SerialLink :=
  match link.task with
  | .handling [] => some { link with task := .polling }
  | .handling (byte :: bytes) =>
    (link.receiver.handleByte byte).map fun receiver =>
      { link with receiver := receiver, task := .handling bytes }
  | _ => none

def pollShutdown (link : SerialLink) : Option SerialLink :=
  match link.task with
  | .polling => some { link with task := if link.shutdown then .ended (.ok ()) else .draining }
  | _ => none

def step (link : SerialLink) : SerialLinkLabel → Option SerialLink
  | .sendMessage message => link.sendMessage message
  | .recvMessage => link.recvMessage
  | .disconnect => link.disconnect
  | .takePayload => link.takePayload
  | .write count => link.write count
  | .flush => link.flush
  | .writeError detail => link.writeError detail
  | .read bytes => link.read bytes
  | .readTimeout => link.readTimeout
  | .readError detail => link.readError detail
  | .handleByte => link.handleByte
  | .pollShutdown => link.pollShutdown

def accepted (link : SerialLink) : List (Message .std) :=
  link.sent.filterMap fun entry =>
    match entry.result with
    | .ok _ => some entry.message
    | .error _ => none

def unhandled (link : SerialLink) : List UInt8 :=
  match link.task with
  | .handling bytes => bytes
  | _ => []

def flushed (link : SerialLink) : Bool :=
  match link.task with
  | .writing _ => false
  | .ended _ => false
  | _ => link.serialRx.isEmpty

end SerialLink

end Usb
end Enody
