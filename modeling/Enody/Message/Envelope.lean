import Enody.Message

/-!
This module contains how `message.rs` addresses a command and a response, and the derived `PartialEq` of the
states that a transition carries. The identifier of a message is the one that has been drawn.
-/

namespace Enody

open Message

def CommandMessage.root (identifier : Identifier) (command : Command) (resource : Option Identifier)
    : CommandMessage :=
  ⟨identifier, none, resource, command⟩

def EventMessage.responseTo {build : Build} (identifier : Identifier) (command : CommandMessage)
    (event : Event build)
    : EventMessage build :=
  ⟨identifier, some command.identifier, command.resource, event⟩

/-
All bits of the exponent are set, and one of the fraction.
-/
def Measurement.isNaN (measurement : Measurement) : Bool :=
  measurement &&& 0x7F800000 == 0x7F800000 && measurement &&& 0x007FFFFF != 0

/-
The comparison of `f32`: a NaN is not equal to itself, and the two zeros are equal.
-/
def Measurement.eq (a b : Measurement) : Bool :=
  !a.isNaN && !b.isNaN && (a == b || (a ||| b) &&& 0x7FFFFFFF == 0)

namespace Message

def Flux.eq : Flux → Flux → Bool
  | .relative a, .relative b => Measurement.eq a b

def Chromaticity.eq (a b : Chromaticity) : Bool := Measurement.eq a.x b.x && Measurement.eq a.y b.y

def Configuration.eq : Configuration → Configuration → Bool
  | .flux, .flux => true
  | .blackbody a, .blackbody b => Measurement.eq a b
  | .chromatic a, .chromatic b => a.eq b
  | .spectral, .spectral => true
  | .manual, .manual => true
  | _, _ => false

def FixtureState.eq (a b : FixtureState) : Bool := a.configuration.eq b.configuration && a.flux.eq b.flux
def SourceState.eq (a b : SourceState) : Bool := a.configuration.eq b.configuration && a.flux.eq b.flux

def TransitionMethod.duration : TransitionMethod → Duration
  | .linear duration => duration

def TransitionMethod.eq (a b : TransitionMethod) : Bool :=
  a.duration.secs == b.duration.secs && a.duration.nanos == b.duration.nanos

def Transition.eq {State : Type} (stateEq : State → State → Bool) (a b : Transition State) : Bool :=
  stateEq a.target b.target && a.method.eq b.method

end Message

end Enody
