import Enody.Runtime.Impl.Dispatch
import Enody.Serialization.Lemmas.Wire
import Enody.Usb.Impl.SerialLink

/-!
This module contains a `RemoteRuntime` on an open connection of a `SerialPortDevice` and the device at the other
end of the port as one transition system. Where `send_message` and `recv_message` meet the connection, the runtime
and the connection move together; everything else they do on their own.

The device runs the `no_std` build. Nothing is known about it but that it parses what it reads with a
`MessageStream`, sends whole frames of its own build, and sends an event in the context of a command only after it
has decoded that command.
-/

namespace Enody

/-
The identifier of a command. An event has none that a reply could refer to.
-/
def Message.commandIdentifier? {build : Build} : Message build → Option Identifier
  | .command message => some message.identifier
  | .event _ => none

namespace Runtime

def CallLabel.ofSent : Except (Error .std) Unit → CallLabel
  | .ok _ => .sent
  | .error error => .sendFailed error

def RuntimeLabel.isLocal : RuntimeLabel → Bool
  | .task _ .sent => false
  | .task _ (.sendFailed _) => false
  | .dispatch (.receive _) => false
  | _ => true

end Runtime

namespace Usb

open Serialization Enody.Runtime

/--
`taken` is how many bytes of the wire the device has read, `port` what it has sent and the host has not read.
-/
structure Device where
  stream : MessageStream
  taken : Nat
  decoded : List (Message .noStd)
  answered : List (Message .noStd)
  port : List UInt8

structure Conversation where
  runtime : RemoteRuntimeInner
  link : SerialLink
  device : Device

inductive ConversationLabel where
  | runtime (label : RuntimeLabel)
  | link (label : SerialLinkLabel)
  | send (i : CallId)
  | sendMessage (message : Message .std)
  | receive
  | read (count : Nat)
  | deviceRead (count : Nat)
  | deviceSend (message : Message .noStd)

def SerialLinkLabel.isLocal : SerialLinkLabel → Bool
  | .sendMessage _ => false
  | .recvMessage => false
  | .read _ => false
  | _ => true

namespace Device

def initial : Device where
  stream := .new
  taken := 0
  decoded := []
  answered := []
  port := []

/-
The device reads the next bytes of the wire, `none` where its parser panics.
-/
def read (device : Device) (wire : List UInt8) (count : Nat) : Option Device :=
  if device.taken + count ≤ wire.length then do
    let (stream, payloads) ← device.stream.pushBytes .noStd ((wire.drop device.taken).take count)
    some
      { device with
        stream := stream
        taken := device.taken + count
        decoded := device.decoded ++ payloads.filterMap (Message.fromBytes .noStd) }
  else
    none

def answers (device : Device) : Message .noStd → Bool
  | .command _ => true
  | .event event =>
    match event.context with
    | none => true
    | some context => (device.decoded.filterMap Message.commandIdentifier?).contains context

def send (device : Device) (message : Message .noStd) : Option Device :=
  if device.answers message then
    some
      { device with
        answered := device.answered ++ [message]
        port := device.port ++ messageFrame .noStd message }
  else
    none

end Device

namespace Conversation

/-
After `connect`.
-/
def initial : Conversation := ⟨.new, .initial, .initial⟩

def send (isTerminal : CallId → IsTerminal) (s : Conversation) (i : CallId) : Option Conversation := do
  let call ← s.runtime.calls i
  let link ← s.link.sendMessage (.command call.command)
  let entry ← link.sent.getLast?
  let runtime ← s.runtime.step isTerminal (.task i (.ofSent entry.result))
  some { s with runtime := runtime, link := link }

def receive (isTerminal : CallId → IsTerminal) (s : Conversation) : Option Conversation := do
  let (message, _) ← s.link.receiver.messages.channel.recv
  let link ← s.link.recvMessage
  let runtime ← s.runtime.step isTerminal (.dispatch (.receive message))
  some { s with runtime := runtime, link := link }

def read (s : Conversation) (count : Nat) : Option Conversation :=
  (s.link.read (s.device.port.take count)).map fun link =>
    { s with link := link, device := { s.device with port := s.device.port.drop count } }

def step (isTerminal : CallId → IsTerminal) (s : Conversation) : ConversationLabel → Option Conversation
  | .runtime label =>
    if label.isLocal then
      (s.runtime.step isTerminal label).map fun runtime => { s with runtime := runtime }
    else
      none
  | .link label =>
    if label.isLocal then (s.link.step label).map fun link => { s with link := link } else none
  | .send i => s.send isTerminal i
  | .sendMessage message => (s.link.sendMessage message).map fun link => { s with link := link }
  | .receive => s.receive isTerminal
  | .read count => s.read count
  | .deviceRead count => (s.device.read s.link.wire count).map fun device => { s with device := device }
  | .deviceSend message => (s.device.send message).map fun device => { s with device := device }

end Conversation

end Usb
end Enody
