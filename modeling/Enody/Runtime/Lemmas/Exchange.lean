import Enody.Result.Basic
import Enody.Runtime.Impl.Exchange

/-!
This module contains which replies an operation accepts: what responds to a command is stated without the
operations, and an operation whose pattern and condition fit to its command accepts a foreign resource exactly
when it does not look at the resource.
-/

namespace Enody
namespace Message
namespace Command

def respondedBy (command : Command) (event : Event .std) : Bool :=
  match command, event with
  | .fixture .sourceCount, .fixture (.sourceCount _) => true
  | .fixture .state, .fixture (.state _) => true
  | .fixture (.sourceInfo _), .fixture (.sourceInfo _) => true
  | .fixture (.display _ _), .fixture (.display _ _) => true
  | .fixture (.transition expected), .fixture (.transitionEnd transition _) =>
    transition.eq FixtureState.eq expected
  | .source .state, .source (.state _) => true
  | .source .emitterCount, .source (.emitterCount _) => true
  | .source (.display _ _), .source (.display _ _) => true
  | .source (.transition expected), .source (.transitionEnd transition _) =>
    transition.eq SourceState.eq expected
  | .source (.emitterInfo _), .source (.emitterInfo _) => true
  | .emitter .state, .emitter (.state _) => true
  | .emitter (.fluxSet _), .emitter (.fluxSet _) => true
  | .emitter (.spectralData .sampleCount), .emitter (.spectralData (.sampleCount _)) => true
  | .emitter (.spectralData (.sampleBatch _ _)), .emitter (.spectralData (.sampleBatch _)) => true
  | _, _ => false

def isTransition : Command → Bool
  | .fixture (.transition _) => true
  | .source (.transition _) => true
  | _ => false

end Command
end Message

namespace Runtime

open Message

namespace CommandCall

variable {isTerminal : IsTerminal} {call : CommandCall} {response : EventMessage .std}

theorem handleResponse_of_error (hContext : response.context = some call.command.identifier)
    {error : Error .std} (hEvent : response.event = .error error)
    : call.handleResponse isTerminal response = .removing (.error error) := by
  simp [handleResponse, hContext, hEvent]

theorem handleResponse_of_event (isTerminal : IsTerminal)
    (hContext : response.context = some call.command.identifier)
    (hEvent : ∀ error, response.event ≠ .error error)
    : ∃ earlier,
        call.handleResponse isTerminal response
          =
        if isTerminal earlier response then .removing (.ok response) else .receiving := by
  exists call.received.filter fun event => event.context = some call.command.identifier
  cases hResponse : response.event with
  | error error => exact absurd hResponse (hEvent error)
  | _ => simp only [handleResponse, hContext, hResponse, ne_eq, not_true_eq_false, if_false]

end CommandCall

namespace Exchange

variable {α : Type} {exchange : Exchange α} {uuid : Identifier} {call : CommandCall}
  {reply : EventMessage .std}

/--
What an operation should make of a reply to its command. It accepts a response of its own resource, it
rejects every other reply with `UnexpectedResponse` or with the error that is the reply, and only a transition
may wait for another event.
-/
structure AcceptsOnlyOwn (exchange : Exchange α) (uuid : Identifier) (call : CommandCall)
    (reply : EventMessage .std)
    : Prop where
  accepted : ∀ a, exchange.outcome uuid call reply = some (.ok a) →
    reply.resource = some exchange.resource ∧ exchange.command.respondedBy reply.event = true
      ∧ exchange.answer reply.event = some a
  rejected : ∀ error, exchange.outcome uuid call reply = some (.error error) →
    error = .unexpectedResponse ∨ reply.event = .error error
  waiting : exchange.outcome uuid call reply = none →
    exchange.command.isTransition = true ∧ exchange.command.respondedBy reply.event = false
      ∧ ∀ error, reply.event ≠ .error error

structure Understands (exchange : Exchange α) : Prop where
  responded : ∀ uuid earlier reply, reply.context = some uuid →
    (exchange.command.respondedBy reply.event = true
        ↔
      exchange.isTerminal uuid earlier reply = true ∧ (exchange.answer reply.event).isSome = true)
  terminal : ∀ uuid earlier reply, exchange.isTerminal uuid earlier reply = false →
    exchange.command.isTransition = true

theorem respondedBy_error {event : Event .std} {error : Error .std} (hEvent : event = .error error)
    (command : Command)
    : command.respondedBy event = false := by
  subst hEvent
  cases command with
  | fixture command => cases command <;> rfl
  | source command => cases command <;> rfl
  | emitter command =>
    cases command with
    | spectralData command => cases command <;> rfl
    | _ => rfl
  | _ => rfl

theorem understands_of_pattern (hTerminal : exchange.isTerminal = fun _ _ _ => true)
    (hPattern : ∀ event, exchange.command.respondedBy event = (exchange.answer event).isSome)
    : exchange.Understands where
  responded uuid earlier reply hContext := by
    simp [hTerminal, hPattern]
  terminal uuid earlier reply hNot := by
    simp [hTerminal] at hNot

theorem understands_transition {State : Type} {endpoint : TransitionEndpoint State} {resource : Identifier}
    {transition : Transition State}
    (hPattern : ∀ event, (endpoint.transition transition).respondedBy event
      =
    match endpoint.transitionEnd event with
    | some (other, _) => other.eq endpoint.stateEq transition
    | none => false)
    (hTransition : (endpoint.transition transition).isTransition = true)
    : (endpoint.exchange resource transition).Understands where
  responded uuid earlier reply hContext := by
    simp only [TransitionEndpoint.exchange, TransitionEndpoint.isTransitionEnd, hPattern, hContext,
      beq_self_eq_true, Bool.true_and, Option.isSome_map]
    cases endpoint.transitionEnd reply.event <;> simp
  terminal _ _ _ _ := hTransition

section Result

theorem result_of_foreign (hChecks : exchange.checksResource = true)
    (hForeign : reply.resource ≠ some exchange.resource)
    : exchange.result (.ok reply) = .error .unexpectedResponse := by
  simp [result, hChecks, hForeign]

theorem result_of_answer {a : α}
    (hOwn : exchange.checksResource = true → reply.resource = some exchange.resource)
    (hAnswer : exchange.answer reply.event = some a)
    : exchange.result (.ok reply) = .ok a := by
  cases hChecks : exchange.checksResource with
  | false => simp [result, hChecks, hAnswer]
  | true => simp [result, hOwn hChecks, hAnswer]

theorem result_of_no_answer (hAnswer : exchange.answer reply.event = none)
    : exchange.result (.ok reply) = .error .unexpectedResponse := by
  simp [result, hAnswer]

theorem result_eq_ok_iff {a : α}
    : exchange.result (.ok reply) = .ok a
        ↔
      (exchange.checksResource = true → reply.resource = some exchange.resource)
        ∧ exchange.answer reply.event = some a := by
  by_cases hOwn : exchange.checksResource = true → reply.resource = some exchange.resource
  . cases hAnswer : exchange.answer reply.event with
    | none => simp [result_of_no_answer hAnswer]
    | some b => simpa [result_of_answer hOwn hAnswer] using fun _ => hOwn
  . rw [Classical.not_imp] at hOwn
    simp [result_of_foreign hOwn.1 hOwn.2, hOwn.1, hOwn.2]

theorem result_eq_error {error : Error .std} (hError : exchange.result (.ok reply) = .error error)
    : error = .unexpectedResponse := by
  by_cases hOwn : exchange.checksResource = true → reply.resource = some exchange.resource
  . cases hAnswer : exchange.answer reply.event with
    | none =>
      rw [result_of_no_answer hAnswer] at hError
      exact (Except.error.inj hError).symm
    | some b =>
      rw [result_of_answer hOwn hAnswer] at hError
      contradiction
  . rw [Classical.not_imp] at hOwn
    rw [result_of_foreign hOwn.1 hOwn.2] at hError
    exact (Except.error.inj hError).symm

end Result

section Outcome

theorem outcome_of_error (hCall : call.command = (exchange.request uuid).command)
    (hContext : reply.context = some uuid) {error : Error .std} (hEvent : reply.event = .error error)
    : exchange.outcome uuid call reply = some (.error error) := by
  have hReply : reply.context = some call.command.identifier := by
    rw [hContext, hCall]
    rfl
  rw [outcome, CommandCall.handleResponse_of_error hReply hEvent]
  rfl

theorem outcome_of_event (hCall : call.command = (exchange.request uuid).command)
    (hContext : reply.context = some uuid) (hEvent : ∀ error, reply.event ≠ .error error)
    : ∃ earlier,
        exchange.outcome uuid call reply
          =
        if exchange.isTerminal uuid earlier reply then some (exchange.result (.ok reply)) else none := by
  have hReply : reply.context = some call.command.identifier := by
    rw [hContext, hCall]
    rfl
  rcases CommandCall.handleResponse_of_event (exchange.isTerminal uuid) hReply hEvent
    with ⟨earlier, hHandle⟩
  exists earlier
  rw [outcome, hHandle]
  cases exchange.isTerminal uuid earlier reply <;> rfl

theorem acceptsOnlyOwn_of_error (hCall : call.command = (exchange.request uuid).command)
    (hContext : reply.context = some uuid) {error : Error .std} (hEvent : reply.event = .error error)
    : exchange.AcceptsOnlyOwn uuid call reply := by
  have hOutcome := outcome_of_error hCall hContext hEvent
  constructor <;> simp [hOutcome, hEvent]

theorem acceptsOnlyOwn_of_waiting (hOutcome : exchange.outcome uuid call reply = none)
    (hTransition : exchange.command.isTransition = true)
    (hNot : exchange.command.respondedBy reply.event = false) (hEvent : ∀ error, reply.event ≠ .error error)
    : exchange.AcceptsOnlyOwn uuid call reply where
  accepted := by simp [hOutcome]
  rejected := by simp [hOutcome]
  waiting := by
    intro _
    exact ⟨hTransition, hNot, hEvent⟩

theorem acceptsOnlyOwn_of_result_iff
    (hOutcome : exchange.outcome uuid call reply = some (exchange.result (.ok reply)))
    (hResponded : exchange.command.respondedBy reply.event = true
      ↔ (exchange.answer reply.event).isSome = true)
    : exchange.AcceptsOnlyOwn uuid call reply
        ↔
      exchange.checksResource = true ∨ reply.resource = some exchange.resource
        ∨ exchange.command.respondedBy reply.event = false := by
  constructor
  . intro hAccepts
    by_contra hCondition
    simp only [not_or, Bool.not_eq_true, Bool.not_eq_false] at hCondition
    rcases hCondition with ⟨hUnchecked, hForeign, hResponse⟩
    rcases Option.isSome_iff_exists.mp (hResponded.mp hResponse) with ⟨a, hAnswer⟩
    have hOk := result_of_answer (by simp [hUnchecked]) hAnswer
    exact hForeign (hAccepts.accepted a (by rw [hOutcome, hOk])).1
  . intro hCondition
    constructor
    . intro a hOk
      rw [hOutcome, Option.some.injEq, result_eq_ok_iff] at hOk
      have hResponse := hResponded.mpr (by rw [hOk.2]; rfl)
      refine ⟨?_, hResponse, hOk.2⟩
      rcases hCondition with hChecks | hOwn | hNot
      . exact hOk.1 hChecks
      . exact hOwn
      . rw [hResponse] at hNot
        contradiction
    . intro error hRejected
      rw [hOutcome, Option.some.injEq] at hRejected
      exact .inl (result_eq_error hRejected)
    . intro hNone
      rw [hOutcome] at hNone
      contradiction

/--
An operation that understands its command accepts only its own resource, unless it does not compare the
resource and the response comes from another one.
-/
theorem acceptsOnlyOwn_iff (hUnderstands : exchange.Understands)
    (hCall : call.command = (exchange.request uuid).command) (hContext : reply.context = some uuid)
    : exchange.AcceptsOnlyOwn uuid call reply
        ↔
      exchange.checksResource = true ∨ reply.resource = some exchange.resource
        ∨ exchange.command.respondedBy reply.event = false := by
  by_cases hError : ∃ error, reply.event = .error error
  . rcases hError with ⟨error, hEvent⟩
    have hAccepts := acceptsOnlyOwn_of_error hCall hContext hEvent
    have hNot := respondedBy_error hEvent exchange.command
    exact iff_of_true hAccepts (.inr (.inr hNot))
  . rw [not_exists] at hError
    rcases outcome_of_event hCall hContext hError with ⟨earlier, hOutcome⟩
    have hResponded := hUnderstands.responded uuid earlier reply hContext
    cases hTerminal : exchange.isTerminal uuid earlier reply with
    | false =>
      rw [hTerminal, if_neg Bool.false_ne_true] at hOutcome
      have hNot : exchange.command.respondedBy reply.event = false := by
        rw [Bool.eq_false_iff, ne_eq, hResponded, hTerminal]
        simp
      have hTransition := hUnderstands.terminal uuid earlier reply hTerminal
      have hAccepts := acceptsOnlyOwn_of_waiting hOutcome hTransition hNot hError
      exact iff_of_true hAccepts (.inr (.inr hNot))
    | true =>
      rw [hTerminal, if_pos rfl] at hOutcome
      simp only [hTerminal, true_and] at hResponded
      exact acceptsOnlyOwn_of_result_iff hOutcome hResponded

end Outcome

end Exchange

end Runtime
end Enody
