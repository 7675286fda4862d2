import Enody.Channel.Feed
import Enody.Transition.Run
import Enody.Wifi.Impl.Codec

/-!
This module contains `read_task` of a `WifiConnection` as a transition system: bytes arrive in any pieces, the
task reads one frame after the other, decrypts it and hands its message to the channel that `recv_message`
reads, and waits there as long as the channel is full.
-/

namespace Enody
namespace Wifi

def messageChannelSize : Nat := 64

def wifiError : WifiError → Error .std
  | .unauthorized => .permission
  | .unsupportedVersion => .unsupported
  | .badRequest => .argument
  | .runtime => .unknown

def responsePostcard : Postcard Response := postcardOf Response.codec

/-
The body of the loop after `read_frame`, up to the message. `counter` is the nonce of the receiving direction.
-/
def handleFrame (noise : Noise) (counter : Nat) : Response → Except (Error .std) (Message .std)
  | .noise payload =>
    match noise.readMessage counter payload.items with
    | .error error => .error (noiseError error)
    | .ok plaintext =>
      match Message.fromBytes .std plaintext with
      | none => .error .serialization
      | some message => .ok message
  | .pairingNoise _ => .error .unexpectedResponse
  | .error error => .error (wifiError error)

inductive ReadPhase where
  | reading
  | sending (message : Message .std)
  | ended (result : Except (Error .std) Unit)
  | aborted

/--
`socket` holds the bytes that have arrived and do not belong to a frame that has been read.
-/
structure ReadTask where
  socket : List UInt8
  closed : Bool
  counter : Nat
  phase : ReadPhase
  messages : Feed (Message .std) messageChannelSize
  receiverOpen : Bool

inductive ReadTaskLabel where
  | arrive (bytes : List UInt8)
  | close
  | socketError (detail : String)
  | readFrame
  | sendMessage
  | recvMessage
  | dropReceiver
  | abort

namespace ReadTask

def initial : ReadTask where
  socket := []
  closed := false
  counter := 0
  phase := .reading
  messages := .empty
  receiverOpen := true

def arrive (task : ReadTask) (bytes : List UInt8) : Option ReadTask :=
  if task.closed then none else some { task with socket := task.socket ++ bytes }

def socketError (task : ReadTask) (detail : String) : Option ReadTask :=
  match task.phase with
  | .reading => some { task with phase := .ended (.error (.debugText detail)) }
  | _ => none

/-
`read_frame` with the bytes of a whole frame, or with what there is when the stream has ended.
-/
def readFrame (noise : Noise) (task : ReadTask) : Option ReadTask :=
  match task.phase with
  | .reading =>
    match Wifi.readFrame responsePostcard task.socket with
    | .pending =>
      if task.closed then some { task with phase := .ended (.error earlyEof) } else none
    | .failed error => some { task with phase := .ended (.error error) }
    | .frame frame rest =>
      match handleFrame noise task.counter frame with
      | .error error => some { task with phase := .ended (.error error) }
      | .ok message =>
        some
          { task with
            socket := rest
            counter := task.counter + 1
            phase := .sending message }
  | _ => none

def sendMessage (task : ReadTask) : Option ReadTask :=
  match task.phase with
  | .sending message =>
    if task.receiverOpen then
      (task.messages.send message).map fun messages =>
        { task with phase := .reading, messages := messages }
    else
      some { task with phase := .ended (.ok ()) }
  | _ => none

def recvMessage (task : ReadTask) : Option ReadTask :=
  if task.receiverOpen then
    task.messages.recv.map fun messages => { task with messages := messages }
  else
    none

/-
`disconnect` aborts the task where it awaits.
-/
def abort (task : ReadTask) : Option ReadTask :=
  match task.phase with
  | .ended _ => none
  | _ => some { task with phase := .aborted }

def step (noise : Noise) (task : ReadTask) : ReadTaskLabel → Option ReadTask
  | .arrive bytes => task.arrive bytes
  | .close => some { task with closed := true }
  | .socketError detail => task.socketError detail
  | .readFrame => task.readFrame noise
  | .sendMessage => task.sendMessage
  | .recvMessage => task.recvMessage
  | .dropReceiver => some { task with receiverOpen := false }
  | .abort => task.abort

def blocked (task : ReadTask) : List (Message .std) :=
  match task.phase with
  | .sending message => [message]
  | _ => []

end ReadTask

end Wifi
end Enody
