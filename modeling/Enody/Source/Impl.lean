import Enody.Runtime.Impl.Exchange

/-!
This module contains `RemoteSource` of `source.rs`. `sourceId` is the identifier of the source, and a
`RemoteEmitter` is the info that it is made of.
-/

namespace Enody
namespace Source

open Message

def endpoint : Runtime.TransitionEndpoint SourceState where
  transition transition := .source (.transition transition)
  transitionEnd event :=
    match event with
    | .source (.transitionEnd transition state) => some (transition, state)
    | _ => none
  stateEq := SourceState.eq

def transitionRequest (sourceId uuid : Identifier) (transition : Transition SourceState)
    : Runtime.CommandRequest :=
  endpoint.request sourceId uuid transition

def state (sourceId : Identifier) : Runtime.Exchange SourceState where
  resource := sourceId
  command := .source .state
  checksResource := true
  answer event :=
    match event with
    | .source (.state state) => some state
    | _ => none

def emitterCount (sourceId : Identifier) : Runtime.Exchange UInt32 where
  resource := sourceId
  command := .source .emitterCount
  checksResource := false
  answer event :=
    match event with
    | .source (.emitterCount count) => some count
    | _ => none

def display (sourceId : Identifier) (config : Configuration) (targetFlux : Flux)
    : Runtime.Exchange (Configuration × Flux) where
  resource := sourceId
  command := .source (.display config targetFlux)
  checksResource := false
  answer event :=
    match event with
    | .source (.display config flux) => some (config, flux)
    | _ => none

def transition (sourceId : Identifier) (transition : Transition SourceState)
    : Runtime.Exchange SourceState :=
  endpoint.exchange sourceId transition

def emitterInfo (sourceId : Identifier) (index : UInt32) : Runtime.Exchange EmitterInfo where
  resource := sourceId
  command := .source (.emitterInfo index)
  checksResource := false
  answer event :=
    match event with
    | .source (.emitterInfo info) => some info
    | _ => none

end Source
end Enody
