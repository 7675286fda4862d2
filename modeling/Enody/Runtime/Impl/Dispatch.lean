import Enody.Runtime.Impl.Call
import Mathlib.Logic.Function.Basic

/-!
This module contains the shared state of a `RemoteRuntime` and everything that acts on it: any number
of calls of `execute_command_with_timeout_until`, the dispatch task, `next_message` and
`enable_logging`. A step is the piece of code between two await points, or under one lock.

`inbound`, `handled`, `nextMessages` and `log` are history variables: what the connection delivered,
where the dispatch task put each message it has finished handling, what `next_message` returned and
what the `log` crate was given.
-/

namespace Enody
namespace Runtime

def messageChannelCapacity : Nat := 64

/--
The response channels are named by the call that owns the receiver.
-/
structure CommandResponseRegistration where
  context : Identifier
  responseTx : CallId
  deriving DecidableEq

inductive Dispatch where
  | ended
  | receiving
  | lookup (event : EventMessage .std) (context : Identifier)
  | sending (event : EventMessage .std) (context : Identifier) (responseTx : CallId)
  | removing (event : EventMessage .std) (context : Identifier)
  | forwarding (message : Message .std)

inductive Place where
  | responseChannel (i : CallId)
  | messageChannel
  | logger
  | dropped
  deriving DecidableEq

structure RemoteRuntimeInner where
  pendingCommands : List CommandResponseRegistration
  messageChannel : Channel (Message .std) messageChannelCapacity
  loggingEnabled : Bool
  dispatchTask : Dispatch
  calls : CallId → Option CommandCall
  inbound : List (Message .std)
  handled : List (Message .std × Place)
  nextMessages : List (Message .std)
  log : List Message.LogEvent

inductive DispatchLabel where
  | start
  | receive (message : Message .std)
  | receiveError
  | lookup
  | send
  | remove
  | forward

inductive RuntimeLabel where
  | call (i : CallId) (command : CommandMessage)
  | task (i : CallId) (label : CallLabel)
  | dispatch (label : DispatchLabel)
  | nextMessage
  | enableLogging

/-
The message that the dispatch task has taken from the connection and not finished handling.
-/
def Dispatch.message? : Dispatch → Option (Message .std)
  | ended => none
  | receiving => none
  | lookup event _ => some (.event event)
  | sending event _ _ => some (.event event)
  | removing event _ => some (.event event)
  | forwarding message => some message

namespace RemoteRuntimeInner

def new : RemoteRuntimeInner where
  pendingCommands := []
  messageChannel := .empty
  loggingEnabled := false
  dispatchTask := .ended
  calls := fun _ => none
  inbound := []
  handled := []
  nextMessages := []
  log := []

def setCall (s : RemoteRuntimeInner) (i : CallId) (call : CommandCall) : RemoteRuntimeInner :=
  { s with calls := Function.update s.calls i (some call) }

def removePendingRegistration (s : RemoteRuntimeInner) (context : Identifier)
    : RemoteRuntimeInner :=
  { s with pendingCommands := s.pendingCommands.filter fun registration =>
      registration.context ≠ context }

/-
`is_closed` of the sender: the call that owns the receiver has returned or was cancelled.
-/
def isClosed (s : RemoteRuntimeInner) (responseTx : CallId) : Bool :=
  match s.calls responseTx with
  | none => true
  | some call => call.phase.isOver

/-
Some sender of the channel of the call still exists, in the table or in the hands of the dispatch task.
-/
def hasSender (s : RemoteRuntimeInner) (i : CallId) : Bool :=
  s.pendingCommands.any (fun registration => registration.responseTx == i)
    ||
  match s.dispatchTask with
  | .sending _ _ responseTx => responseTx == i
  | _ => false

def startCall (s : RemoteRuntimeInner) (i : CallId) (command : CommandMessage)
    : Option RemoteRuntimeInner :=
  match s.calls i with
  | some _ => none
  | none =>
    some
      { s.setCall i (.new command) with
        pendingCommands := s.pendingCommands ++ [⟨command.identifier, i⟩] }

def callStep (isTerminal : CallId → IsTerminal) (s : RemoteRuntimeInner) (i : CallId)
    (label : CallLabel)
    : Option RemoteRuntimeInner :=
  match s.calls i with
  | none => none
  | some call =>
    match call.step (isTerminal i) label with
    | none => none
    | some next =>
      match label with
      | .channelClosed => if s.hasSender i then none else some (s.setCall i next)
      | .deregister => some ((s.removePendingRegistration call.command.identifier).setCall i next)
      | _ => some (s.setCall i next)

/-
The receiver of this channel lives as long as the sender, so `try_send` never finds it closed.
-/
def sendUnmatched (s : RemoteRuntimeInner) (message : Message .std) : RemoteRuntimeInner × Place :=
  match s.messageChannel.trySend message with
  | some messageChannel => ({ s with messageChannel := messageChannel }, .messageChannel)
  | none => (s, .dropped)

def forwardUnmatchedMessage (s : RemoteRuntimeInner) (message : Message .std)
    : RemoteRuntimeInner × Place :=
  match message with
  | .event ⟨_, _, _, .runtime (.log logEvent)⟩ =>
    if s.loggingEnabled then
      ({ s with log := s.log ++ [logEvent] }, .logger)
    else
      s.sendUnmatched message
  | _ => s.sendUnmatched message

def finish (s : RemoteRuntimeInner) (message : Message .std) (place : Place) : RemoteRuntimeInner :=
  { s with handled := s.handled ++ [(message, place)], dispatchTask := .receiving }

def receive (s : RemoteRuntimeInner) (message : Message .std) : RemoteRuntimeInner :=
  { s with
    inbound := s.inbound ++ [message]
    dispatchTask :=
      match message with
      | .event event =>
        match event.context with
        | some context => .lookup event context
        | none => .forwarding message
      | .command _ => .forwarding message }

def lookup (s : RemoteRuntimeInner) (event : EventMessage .std) (context : Identifier)
    : RemoteRuntimeInner :=
  let pending := s.pendingCommands.filter fun registration => !s.isClosed registration.responseTx
  { s with
    pendingCommands := pending
    dispatchTask :=
      match pending.find? fun registration => registration.context = context with
      | some registration => .sending event context registration.responseTx
      | none => .forwarding (.event event) }

/-
The dispatch task waits while the response channel is full.
-/
def send (s : RemoteRuntimeInner) (event : EventMessage .std) (context : Identifier)
    (responseTx : CallId)
    : Option RemoteRuntimeInner :=
  match s.calls responseTx with
  | none => none
  | some call =>
    if call.phase.isOver then
      some { s with dispatchTask := .removing event context }
    else
      match call.responseRx.trySend event with
      | none => none
      | some responseRx =>
        let s := s.setCall responseTx { call with responseRx := responseRx }
        some (s.finish (.event event) (.responseChannel responseTx))

def dispatchStep (s : RemoteRuntimeInner) (label : DispatchLabel) : Option RemoteRuntimeInner :=
  match label, s.dispatchTask with
  | .start, .ended => some { s with dispatchTask := .receiving }
  | .receive message, .receiving => some (s.receive message)
  | .receiveError, .receiving => some { s with dispatchTask := .ended }
  | .lookup, .lookup event context => some (s.lookup event context)
  | .send, .sending event context responseTx => s.send event context responseTx
  | .remove, .removing event context =>
    some
      { s.removePendingRegistration context with dispatchTask := .forwarding (.event event) }
  | .forward, .forwarding message =>
    let (s, place) := s.forwardUnmatchedMessage message
    some (s.finish message place)
  | _, _ => none

def nextMessage (s : RemoteRuntimeInner) : Option RemoteRuntimeInner :=
  match s.messageChannel.recv with
  | none => none
  | some (message, messageChannel) =>
    some
      { s with messageChannel := messageChannel, nextMessages := s.nextMessages ++ [message] }

def step (isTerminal : CallId → IsTerminal) (s : RemoteRuntimeInner) (label : RuntimeLabel)
    : Option RemoteRuntimeInner :=
  match label with
  | .call i command => s.startCall i command
  | .task i label => s.callStep isTerminal i label
  | .dispatch label => s.dispatchStep label
  | .nextMessage => s.nextMessage
  | .enableLogging => some { s with loggingEnabled := true }

end RemoteRuntimeInner

end Runtime
end Enody
