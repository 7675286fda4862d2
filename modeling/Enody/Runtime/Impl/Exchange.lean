import Enody.Runtime.Impl.Transition

/-!
This module contains what the operations of fixtures, sources and emitters have in common: a command to the
own resource, a call that waits for the reply, and what is made of the result of this call. Some operations
compare the resource of the reply with their own, the others do not look at it.
-/

namespace Enody
namespace Runtime

open Message

def commandTimeout : Duration := ⟨0, 500000000, by decide⟩

/--
One command of an operation. Without a timeout and a condition of its own it is executed by `execute_command`,
which returns with the first event. `answer` is the pattern of the reply.
-/
structure Exchange (α : Type) where
  resource : Identifier
  command : Command
  timeout : Duration := commandTimeout
  isTerminal : Identifier → IsTerminal := fun _ _ _ => true
  checksResource : Bool
  answer : Event .std → Option α

namespace Exchange

variable {α : Type}

def request (exchange : Exchange α) (uuid : Identifier) : CommandRequest where
  command := .root uuid exchange.command (some exchange.resource)
  timeout := exchange.timeout
  isTerminal := exchange.isTerminal uuid

def result (exchange : Exchange α) (result : CommandResult) : Except (Error .std) α :=
  match result with
  | .error error => .error error
  | .ok eventMessage =>
    if exchange.checksResource && eventMessage.resource != some exchange.resource then
      .error .unexpectedResponse
    else
      match exchange.answer eventMessage.event with
      | some a => .ok a
      | none => .error .unexpectedResponse

/-
What the operation returns when its waiting call receives the reply: `none` as long as the call waits on.
-/
def outcome (exchange : Exchange α) (uuid : Identifier) (call : CommandCall) (reply : EventMessage .std)
    : Option (Except (Error .std) α) :=
  match call.handleResponse (exchange.isTerminal uuid) reply with
  | .removing result => some (exchange.result result)
  | _ => none

end Exchange

def TransitionEndpoint.exchange {State : Type} (endpoint : TransitionEndpoint State)
    (resource : Identifier) (transition : Transition State)
    : Exchange State where
  resource := resource
  command := endpoint.transition transition
  timeout := transitionTimeout transition
  isTerminal context := endpoint.isTransitionEnd context transition
  checksResource := true
  answer event := (endpoint.transitionEnd event).map Prod.snd

end Runtime
end Enody
