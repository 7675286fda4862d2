import Enody.Emitter.Impl
import Enody.Fixture.Impl
import Enody.Runtime.Lemmas.Exchange
import Enody.Source.Impl

/-!
This module contains all operations that send a command to the resource that they are called on, and which of
their replies they accept.
-/

namespace Enody
namespace Remote

open Message Enody.Runtime

/--
The operations of `RemoteFixture`, `RemoteSource` and `RemoteEmitter`, one for each command. The commands of
`sources`, `emitters` and `spectral_data` are operations of their own.
-/
inductive Operation where
  | fixtureSourceCount
  | fixtureState
  | fixtureSourceInfo (index : UInt32)
  | fixtureDisplay (config : Configuration) (targetFlux : Flux)
  | fixtureTransition (transition : Transition FixtureState)
  | sourceState
  | sourceEmitterCount
  | sourceDisplay (config : Configuration) (targetFlux : Flux)
  | sourceTransition (transition : Transition SourceState)
  | sourceEmitterInfo (index : UInt32)
  | emitterState
  | emitterSetFlux (flux : Flux)
  | emitterSampleCount
  | emitterSampleBatch (offset stop : UInt32)

namespace Operation

def Answer : Operation → Type
  | fixtureSourceCount => UInt32
  | fixtureState => FixtureState
  | fixtureSourceInfo _ => SourceInfo
  | fixtureDisplay _ _ => Configuration × Flux
  | fixtureTransition _ => FixtureState
  | sourceState => SourceState
  | sourceEmitterCount => UInt32
  | sourceDisplay _ _ => Configuration × Flux
  | sourceTransition _ => SourceState
  | sourceEmitterInfo _ => EmitterInfo
  | emitterState => EmitterState
  | emitterSetFlux _ => Flux
  | emitterSampleCount => UInt32
  | emitterSampleBatch _ _ => HVec SpectralSample spectralSampleBatchSize

/-
`id` is the identifier of the fixture, source or emitter that the operation is called on.
-/
def exchange (id : Identifier) : (op : Operation) → Exchange op.Answer
  | fixtureSourceCount => Fixture.sourceCount id
  | fixtureState => Fixture.state id
  | fixtureSourceInfo index => Fixture.sourceInfo id index
  | fixtureDisplay config targetFlux => Fixture.display id config targetFlux
  | fixtureTransition transition => Fixture.transition id transition
  | sourceState => Source.state id
  | sourceEmitterCount => Source.emitterCount id
  | sourceDisplay config targetFlux => Source.display id config targetFlux
  | sourceTransition transition => Source.transition id transition
  | sourceEmitterInfo index => Source.emitterInfo id index
  | emitterState => Emitter.state id
  | emitterSetFlux flux => Emitter.setFlux id flux
  | emitterSampleCount => Emitter.spectralSampleCount id
  | emitterSampleBatch offset stop => Emitter.spectralSampleBatch id offset stop

def checksResource : Operation → Bool
  | fixtureState => true
  | fixtureTransition _ => true
  | sourceState => true
  | sourceTransition _ => true
  | emitterState => true
  | _ => false

theorem exchange_checksResource (op : Operation) (id : Identifier)
    : (op.exchange id).checksResource = op.checksResource := by
  cases op <;> rfl

theorem exchange_resource (op : Operation) (id : Identifier) : (op.exchange id).resource = id := by
  cases op <;> rfl

theorem understands (op : Operation) (id : Identifier) : (op.exchange id).Understands := by
  cases op with
  | fixtureTransition transition =>
    apply Exchange.understands_transition
    . intro event
      cases event with
      | fixture event => cases event <;> rfl
      | _ => rfl
    . rfl
  | sourceTransition transition =>
    apply Exchange.understands_transition
    . intro event
      cases event with
      | source event => cases event <;> rfl
      | _ => rfl
    . rfl
  | _ =>
    apply Exchange.understands_of_pattern
    . rfl
    . intro event
      cases event with
      | fixture event => cases event <;> rfl
      | source event => cases event <;> rfl
      | emitter event =>
        cases event with
        | spectralData event => cases event <;> rfl
        | _ => rfl
      | _ => rfl

/--
The operation accepts only its own resource when it compares the resource, when the resource is its own, or
when the reply does not respond to the command.
-/
theorem reply_acceptsOnlyOwn_iff (op : Operation) (id uuid : Identifier) (call : CommandCall)
    (reply : EventMessage .std) (hCall : call.command = ((op.exchange id).request uuid).command)
    (hContext : reply.context = some uuid)
    : (op.exchange id).AcceptsOnlyOwn uuid call reply
        ↔
      op.checksResource = true ∨ reply.resource = some id
        ∨ (op.exchange id).command.respondedBy reply.event = false := by
  rw [Exchange.acceptsOnlyOwn_iff (op.understands id) hCall hContext, exchange_checksResource,
    exchange_resource]

def waitingCall (command : CommandMessage) : CommandCall :=
  { CommandCall.new command with phase := .receiving }

theorem own_count_accepted
    : (fixtureSourceCount.exchange 1).AcceptsOnlyOwn 2
        (waitingCall ((fixtureSourceCount.exchange 1).request 2).command)
        (.responseTo 3 ((fixtureSourceCount.exchange 1).request 2).command (.fixture (.sourceCount 4))) :=
  (reply_acceptsOnlyOwn_iff fixtureSourceCount 1 2 _ _ rfl rfl).mpr (.inr (.inl rfl))

/-
The fixture with the identifier 1 takes the display of another fixture as its own.
-/
theorem not_reply_acceptsOnlyOwn
    : ¬ ∀ (op : Operation) (id uuid : Identifier) (call : CommandCall) (reply : EventMessage .std),
        call.command = ((op.exchange id).request uuid).command → reply.context = some uuid →
          (op.exchange id).AcceptsOnlyOwn uuid call reply := by
  intro hAll
  have hAccepts := hAll (.fixtureDisplay .flux (.relative 0)) 1 2
    (waitingCall (((fixtureDisplay .flux (.relative 0)).exchange 1).request 2).command)
    ⟨3, some 2, some 9, .fixture (.display .flux (.relative 0))⟩ rfl rfl
  have hOwn := (hAccepts.accepted (.flux, .relative 0) rfl).1
  have hForeign : some (9 : Identifier) ≠ some 1 := by decide
  exact hForeign hOwn

end Operation

end Remote
end Enody
