import Enody.Channel.Bounded
import Enody.Message

/-!
This module contains one call of `RemoteRuntime::execute_command_with_timeout_until` from the moment
its registration is pushed until it returns. The call moves only at its await points, which are also
where its future can be dropped. `is_terminal` is a `FnMut`, so its verdict may depend on the events
it was asked about before.
-/

namespace Enody
namespace Runtime

def commandEventBuffer : Nat := 16

abbrev CommandResult := Except (Error .std) (EventMessage .std)

abbrev IsTerminal := List (EventMessage .std) → EventMessage .std → Bool

inductive CallPhase where
  | sending
  | receiving
  | removing (result : CommandResult)
  | returning (result : CommandResult)
  | returned (result : CommandResult)
  | cancelled

structure CommandCall where
  command : CommandMessage
  phase : CallPhase
  responseRx : Channel (EventMessage .std) commandEventBuffer
  received : List (EventMessage .std)

inductive CallLabel where
  | sent
  | sendFailed (error : Error .std)
  | recv
  | channelClosed
  | timeout
  | deregister
  | ret
  | cancel
  deriving DecidableEq

namespace CallPhase

def isRegistered : CallPhase → Bool
  | sending => true
  | receiving => true
  | removing _ => true
  | _ => false

/-
The receiver of the response channel is dropped.
-/
def isOver : CallPhase → Bool
  | returned _ => true
  | cancelled => true
  | _ => false

def result? : CallPhase → Option CommandResult
  | removing result => some result
  | returning result => some result
  | returned result => some result
  | _ => none

end CallPhase

namespace CommandCall

def new (command : CommandMessage) : CommandCall where
  command := command
  phase := .sending
  responseRx := .empty
  received := []

/-
The body of the loop after `response_rx.recv()` has yielded a response.
-/
def handleResponse (isTerminal : IsTerminal) (call : CommandCall) (response : EventMessage .std)
    : CallPhase :=
  let context := some call.command.identifier
  if response.context ≠ context then
    .receiving
  else
    match response.event with
    | .error error => .removing (.error error)
    | _ =>
      if isTerminal (call.received.filter fun event => event.context = context) response then
        .removing (.ok response)
      else
        .receiving

def step (isTerminal : IsTerminal) (call : CommandCall) (label : CallLabel) : Option CommandCall :=
  match label, call.phase with
  | .sent, .sending => some { call with phase := .receiving }
  | .sendFailed error, .sending => some { call with phase := .removing (.error error) }
  | .recv, .receiving =>
    match call.responseRx.recv with
    | none => none
    | some (response, responseRx) =>
      some
        { call with
          phase := call.handleResponse isTerminal response
          responseRx := responseRx
          received := call.received ++ [response] }
  | .channelClosed, .receiving =>
    match call.responseRx.recv with
    | none =>
      some { call with phase := .removing (.error (.debugText "command response channel closed")) }
    | some _ => none
  | .timeout, .receiving => some { call with phase := .removing (.error .timeout) }
  | .deregister, .removing result => some { call with phase := .returning result }
  | .ret, .returning result => some { call with phase := .returned result }
  | .cancel, .sending => some { call with phase := .cancelled }
  | .cancel, .receiving => some { call with phase := .cancelled }
  | .cancel, .removing _ => some { call with phase := .cancelled }
  | _, _ => none

end CommandCall

end Runtime
end Enody
