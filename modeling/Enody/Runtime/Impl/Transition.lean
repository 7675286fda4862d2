import Enody.Message.Envelope
import Enody.Runtime.Impl.Deadline

/-!
This module contains what the transitions of fixtures and of sources have in common: the call that they make, and
which event ends it. `uuid` is the identifier that is drawn for the command.
-/

namespace Enody
namespace Runtime

open Message

/--
The messages of a kind of resource, and the `PartialEq` of its state.
-/
structure TransitionEndpoint (State : Type) where
  transition : Transition State → Command
  transitionEnd : Event .std → Option (Transition State × State)
  stateEq : State → State → Bool

variable {State : Type}

def transitionTimeout (transition : Transition State) : Duration :=
  transition.method.duration.saturatingAdd (.fromSecs 2)

namespace TransitionEndpoint

def isTransitionEnd (endpoint : TransitionEndpoint State) (context : Identifier)
    (expectedTransition : Transition State)
    : IsTerminal :=
  fun _ eventMessage =>
    eventMessage.context == some context
      &&
    match endpoint.transitionEnd eventMessage.event with
    | some (transition, _) => transition.eq endpoint.stateEq expectedTransition
    | none => false

def request (endpoint : TransitionEndpoint State) (resource uuid : Identifier) (transition : Transition State)
    : CommandRequest where
  command := .root uuid (endpoint.transition transition) (some resource)
  timeout := transitionTimeout transition
  isTerminal := endpoint.isTransitionEnd uuid transition

end TransitionEndpoint

end Runtime
end Enody
