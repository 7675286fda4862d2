import Enody.Runtime.Impl.Exchange

/-!
This module contains `RemoteFixture` of `fixture.rs`. `fixtureId` is the identifier of the fixture, and a
`RemoteSource` is the info that it is made of.
-/

namespace Enody
namespace Fixture

open Message

def endpoint : Runtime.TransitionEndpoint FixtureState where
  transition transition := .fixture (.transition transition)
  transitionEnd event :=
    match event with
    | .fixture (.transitionEnd transition state) => some (transition, state)
    | _ => none
  stateEq := FixtureState.eq

def transitionRequest (fixtureId uuid : Identifier) (transition : Transition FixtureState)
    : Runtime.CommandRequest :=
  endpoint.request fixtureId uuid transition

def sourceCount (fixtureId : Identifier) : Runtime.Exchange UInt32 where
  resource := fixtureId
  command := .fixture .sourceCount
  checksResource := false
  answer event :=
    match event with
    | .fixture (.sourceCount count) => some count
    | _ => none

def state (fixtureId : Identifier) : Runtime.Exchange FixtureState where
  resource := fixtureId
  command := .fixture .state
  checksResource := true
  answer event :=
    match event with
    | .fixture (.state state) => some state
    | _ => none

def sourceInfo (fixtureId : Identifier) (index : UInt32) : Runtime.Exchange SourceInfo where
  resource := fixtureId
  command := .fixture (.sourceInfo index)
  checksResource := false
  answer event :=
    match event with
    | .fixture (.sourceInfo info) => some info
    | _ => none

def display (fixtureId : Identifier) (config : Configuration) (targetFlux : Flux)
    : Runtime.Exchange (Configuration × Flux) where
  resource := fixtureId
  command := .fixture (.display config targetFlux)
  checksResource := false
  answer event :=
    match event with
    | .fixture (.display config flux) => some (config, flux)
    | _ => none

def transition (fixtureId : Identifier) (transition : Transition FixtureState)
    : Runtime.Exchange FixtureState :=
  endpoint.exchange fixtureId transition

end Fixture
end Enody
