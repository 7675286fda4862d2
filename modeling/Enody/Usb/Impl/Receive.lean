import Enody.Channel.Feed
import Enody.Message.Build
import Enody.Serialization.Impl

/-!
This module contains what the read tasks of `SerialPortConnection` and of `RusbDeviceConnection` do with the
bytes of a read: they push them one by one into a `MessageStream`, deserialize the payload of each frame,
and `try_send` the message into the channel that `recv_message` reads. A payload that is no message and a
message that finds the channel full are dropped.

`arrived` is a history variable: the bytes that the task has handled.
-/

namespace Enody
namespace Usb

open Serialization

def messageChannelSize : Nat := 64
def usbBufferSize : Nat := 1024

structure Receiver where
  stream : MessageStream
  messages : Feed (Message .std) messageChannelSize
  arrived : List UInt8

namespace Receiver

def new : Receiver where
  stream := .new
  messages := .empty
  arrived := []

/-
The body of the loop over the bytes of a read, `none` where it panics.
-/
def handleByte (receiver : Receiver) (byte : UInt8) : Option Receiver := do
  let (stream, payload) ← receiver.stream.pushByte .std byte
  let receiver := { receiver with stream := stream, arrived := receiver.arrived ++ [byte] }
  match payload.bind (Message.fromBytes .std) with
  | none => some receiver
  | some message => some { receiver with messages := receiver.messages.offer message }

def recvMessage (receiver : Receiver) : Option Receiver :=
  receiver.messages.recv.map fun messages => { receiver with messages := messages }

end Receiver

end Usb
end Enody
