import Enody.Runtime.Impl.Call

/-!
This module contains what one step of a command call preserves, and that its result is decided by the
first error or terminal event among those it has received.
-/

namespace Enody
namespace Runtime

/-
The event that ends the loop of `execute_command_with_timeout_until`: the first one that is an error or
that `is_terminal` accepts, where `earlier` are the events before the given ones.
-/
def decisive (isTerminal : IsTerminal) (earlier : List (EventMessage .std))
    : List (EventMessage .std) → Option (EventMessage .std)
  | [] => none
  | response :: rest =>
    match response.event with
    | .error _ => some response
    | _ =>
      if isTerminal earlier response then
        some response
      else
        decisive isTerminal (earlier ++ [response]) rest

def resultOf (response : EventMessage .std) : CommandResult :=
  match response.event with
  | .error error => .error error
  | _ => .ok response

theorem decisive_append {isTerminal : IsTerminal} {earlier events more : List (EventMessage .std)}
    : decisive isTerminal earlier (events ++ more)
        =
      (decisive isTerminal earlier events).or (decisive isTerminal (earlier ++ events) more) := by
  induction events generalizing earlier with
  | nil => simp [decisive]
  | cons response rest ih =>
    simp only [List.cons_append, decisive]
    split
    . rfl
    . split
      . rfl
      . rw [ih]
        simp

theorem decisive_append_of_eq_some {isTerminal : IsTerminal}
    {earlier events more : List (EventMessage .std)} {response : EventMessage .std}
    (h : decisive isTerminal earlier events = some response)
    : decisive isTerminal earlier (events ++ more) = some response := by
  rw [decisive_append, h]
  rfl

namespace CommandCall

variable {isTerminal : IsTerminal} {call next : CommandCall} {label : CallLabel}

def events (call : CommandCall) : List (EventMessage .std) :=
  call.received ++ call.responseRx.queue

def hasContext (call : CommandCall) (response : EventMessage .std) : Prop :=
  response.context = some call.command.identifier

/--
A call that still waits has seen no decisive event. A result is the decisive event, a timeout before any
decisive event, or the error of `send_message` before the first event.
-/
structure ResultOk (isTerminal : IsTerminal) (failed : Error .std → Prop) (call : CommandCall)
    : Prop where
  sending : call.phase = .sending → call.received = []
  receiving : call.phase = .receiving → decisive isTerminal [] call.received = none
  result : ∀ result, call.phase.result? = some result →
    (∃ response,
      decisive isTerminal [] call.received = some response ∧ result = resultOf response)
      ∨
    (decisive isTerminal [] call.received = none ∧ result = .error .timeout)
      ∨
    (call.received = [] ∧ ∃ error, failed error ∧ result = .error error)

inductive PhaseStep : CallLabel → CallPhase → CallPhase → Prop where
  | sent : PhaseStep .sent .sending .receiving
  | sendFailed (error : Error .std) :
      PhaseStep (.sendFailed error) .sending (.removing (.error error))
  | channelClosed :
      PhaseStep .channelClosed .receiving
        (.removing (.error (.debugText "command response channel closed")))
  | timeout : PhaseStep .timeout .receiving (.removing (.error .timeout))
  | deregister (result : CommandResult) :
      PhaseStep .deregister (.removing result) (.returning result)
  | ret (result : CommandResult) : PhaseStep .ret (.returning result) (.returned result)
  | cancel (phase : CallPhase) (h : phase.isRegistered = true) :
      PhaseStep .cancel phase .cancelled

namespace PhaseStep

variable {before after : CallPhase}

theorem not_isOver (h : PhaseStep label before after) : before.isOver = false := by
  cases h with
  | cancel _ hRegistered =>
    cases before with
    | returned => contradiction
    | cancelled => contradiction
    | _ => rfl
  | _ => rfl

theorem isRegistered_of_after (h : PhaseStep label before after)
    (hAfter : after.isRegistered = true)
    : before.isRegistered = true := by
  cases h with
  | deregister => contradiction
  | ret => contradiction
  | cancel => contradiction
  | _ => rfl

theorem not_isRegistered_of_deregister (h : PhaseStep .deregister before after)
    : after.isRegistered = false ∧ before.isRegistered = true := by
  cases h
  exact ⟨rfl, rfl⟩

end PhaseStep

theorem step_cases (h : call.step isTerminal label = some next)
    : (∃ phase, next = { call with phase := phase } ∧ PhaseStep label call.phase phase)
        ∨
      (label = .recv ∧ call.phase = .receiving
        ∧ ∃ response responseRx,
            call.responseRx.recv = some (response, responseRx)
              ∧
            next =
              { call with
                phase := call.handleResponse isTerminal response
                responseRx := responseRx
                received := call.received ++ [response] }) := by
  unfold step at h
  split at h
  . next hPhase =>
    injection h with h
    exact .inl ⟨_, h.symm, hPhase ▸ .sent⟩
  . next error hPhase =>
    injection h with h
    exact .inl ⟨_, h.symm, hPhase ▸ .sendFailed error⟩
  . next hPhase =>
    split at h
    . contradiction
    . next response responseRx hRecv =>
      injection h with h
      exact .inr ⟨rfl, hPhase, response, responseRx, hRecv, h.symm⟩
  . next hPhase =>
    split at h
    . injection h with h
      exact .inl ⟨_, h.symm, hPhase ▸ .channelClosed⟩
    . contradiction
  . next hPhase =>
    injection h with h
    exact .inl ⟨_, h.symm, hPhase ▸ .timeout⟩
  . next result hPhase =>
    injection h with h
    exact .inl ⟨_, h.symm, hPhase ▸ .deregister result⟩
  . next result hPhase =>
    injection h with h
    exact .inl ⟨_, h.symm, hPhase ▸ .ret result⟩
  . next hPhase =>
    injection h with h
    exact .inl ⟨_, h.symm, .cancel _ (by rw [hPhase]; rfl)⟩
  . next hPhase =>
    injection h with h
    exact .inl ⟨_, h.symm, .cancel _ (by rw [hPhase]; rfl)⟩
  . next hPhase =>
    injection h with h
    exact .inl ⟨_, h.symm, .cancel _ (by rw [hPhase]; rfl)⟩
  . contradiction

theorem step_command (h : call.step isTerminal label = some next)
    : next.command = call.command := by
  rcases step_cases h with ⟨phase, hNext, _⟩ | ⟨_, _, response, responseRx, _, hNext⟩
  . rw [hNext]
  . rw [hNext]

theorem step_events (h : call.step isTerminal label = some next)
    : next.events = call.events := by
  rcases step_cases h with ⟨phase, hNext, _⟩ | ⟨_, _, response, responseRx, hRecv, hNext⟩
  . rw [hNext]
    rfl
  . have hQueue := Channel.queue_of_recv_eq_some hRecv
    rw [hNext]
    simp [events, hQueue]

theorem step_not_isOver (h : call.step isTerminal label = some next)
    : call.phase.isOver = false := by
  rcases step_cases h with ⟨phase, _, hPhase⟩ | ⟨_, hPhase, _⟩
  . exact hPhase.not_isOver
  . rw [hPhase]
    rfl

theorem step_ne_sending (h : call.step isTerminal label = some next) : next.phase ≠ .sending := by
  rcases step_cases h with ⟨phase, hNext, hPhase⟩ | ⟨_, _, response, responseRx, _, hNext⟩
  . rw [hNext]
    intro hSending
    simp only at hSending
    rw [hSending] at hPhase
    generalize call.phase = before at hPhase
    cases hPhase
  . rw [hNext]
    simp only [handleResponse]
    split
    . simp
    . split
      . simp
      . split <;> simp

theorem step_isRegistered (h : call.step isTerminal label = some next)
    (hNext : next.phase.isRegistered = true)
    : call.phase.isRegistered = true ∧ label ≠ .deregister := by
  rcases step_cases h with ⟨phase, hEq, hPhase⟩ | ⟨hLabel, hPhase, _⟩
  . rw [hEq] at hNext
    constructor
    . exact hPhase.isRegistered_of_after hNext
    . intro hLabel
      subst hLabel
      rw [hPhase.not_isRegistered_of_deregister.left] at hNext
      contradiction
  . rw [hPhase, hLabel]
    exact ⟨rfl, by decide⟩

theorem ResultOk.mono {failed failed' : Error .std → Prop} (h : ResultOk isTerminal failed call)
    (hFailed : ∀ error, failed error → failed' error)
    : ResultOk isTerminal failed' call where
  sending := h.sending
  receiving := h.receiving
  result := by
    intro result hResult
    rcases h.result result hResult with hDecisive | hTimeout | ⟨hNone, error, hError, hEq⟩
    . exact .inl hDecisive
    . exact .inr (.inl hTimeout)
    . exact .inr (.inr ⟨hNone, error, hFailed error hError, hEq⟩)

theorem ResultOk.new (failed : Error .std → Prop) (command : CommandMessage)
    : ResultOk isTerminal failed (new command) where
  sending := by
    intro _
    rfl
  receiving := by
    intro hPhase
    contradiction
  result := by
    intro result hResult
    contradiction

theorem ResultOk.recv {failed : Error .std → Prop} {response : EventMessage .std}
    {responseRx : Channel (EventMessage .std) commandEventBuffer}
    (h : ResultOk isTerminal failed call)
    (hPhase : call.phase = .receiving)
    (hReceived : ∀ event, event ∈ call.received → call.hasContext event)
    (hResponse : call.hasContext response)
    : ResultOk isTerminal failed
        { call with
          phase := call.handleResponse isTerminal response
          responseRx := responseRx
          received := call.received ++ [response] } := by
  -- so far no event was decisive, so the verdict is the one on `response`
  have hNone := h.receiving hPhase
  have hAll : (call.received.filter fun event => event.context = some call.command.identifier)
      = call.received := by
    rw [List.filter_eq_self]
    intro event hEvent
    simp only [decide_eq_true_eq]
    exact hReceived event hEvent
  have hDecisive : decisive isTerminal [] (call.received ++ [response])
      = decisive isTerminal call.received [response] := by
    rw [decisive_append, hNone]
    rfl
  unfold hasContext at hResponse
  unfold handleResponse
  simp only [hResponse, hAll, ne_eq, not_true_eq_false, ↓reduceIte]
  cases hEvent : response.event with
  | error error =>
    constructor
    case sending => intro hSending; contradiction
    case receiving => intro hReceiving; contradiction
    case result =>
      intro result hResult
      injection hResult with hResult
      left
      exists response
      simp [hDecisive, decisive, resultOf, hEvent, ← hResult]
  | _ =>
    cases hTerminal : isTerminal call.received response with
    | true =>
      constructor
      case sending => intro hSending; contradiction
      case receiving => intro hReceiving; contradiction
      case result =>
        intro result hResult
        injection hResult with hResult
        left
        exists response
        simp [hDecisive, decisive, resultOf, hEvent, hTerminal, ← hResult]
    | false =>
      constructor
      case sending => intro hSending; contradiction
      case receiving =>
        intro _
        simp [hDecisive, decisive, hEvent, hTerminal]
      case result => intro result hResult; contradiction

theorem ResultOk.phaseStep {failed : Error .std → Prop} {phase : CallPhase}
    (h : ResultOk isTerminal failed call)
    (hStep : PhaseStep label call.phase phase)
    (hClosed : label ≠ .channelClosed)
    (hFailed : ∀ error, label = .sendFailed error → failed error)
    : ResultOk isTerminal failed { call with phase := phase } := by
  have hResult (result : CommandResult) (hOld : call.phase.result? = some result) :=
    h.result result hOld
  have hSending := h.sending
  have hReceiving := h.receiving
  generalize call.phase = before at hStep hResult hSending hReceiving
  cases hStep with
  | sent =>
    constructor
    case sending => intro hPhase; contradiction
    case receiving =>
      intro _
      rw [hSending rfl]
      rfl
    case result => intro result hSome; contradiction
  | sendFailed error =>
    constructor
    case sending => intro hPhase; contradiction
    case receiving => intro hPhase; contradiction
    case result =>
      intro result hSome
      injection hSome with hSome
      exact .inr (.inr ⟨hSending rfl, error, hFailed error rfl, hSome.symm⟩)
  | channelClosed => exact absurd rfl hClosed
  | timeout =>
    constructor
    case sending => intro hPhase; contradiction
    case receiving => intro hPhase; contradiction
    case result =>
      intro result hSome
      injection hSome with hSome
      exact .inr (.inl ⟨hReceiving rfl, hSome.symm⟩)
  | deregister =>
    constructor
    case sending => intro hPhase; contradiction
    case receiving => intro hPhase; contradiction
    case result => exact hResult
  | ret =>
    constructor
    case sending => intro hPhase; contradiction
    case receiving => intro hPhase; contradiction
    case result => exact hResult
  | cancel =>
    constructor
    case sending => intro hPhase; contradiction
    case receiving => intro hPhase; contradiction
    case result => intro result hSome; contradiction

theorem ResultOk.step {failed : Error .std → Prop} (h : ResultOk isTerminal failed call)
    (hStep : call.step isTerminal label = some next)
    (hEvents : ∀ event, event ∈ call.events → call.hasContext event)
    (hClosed : label ≠ .channelClosed)
    (hFailed : ∀ error, label = .sendFailed error → failed error)
    : ResultOk isTerminal failed next := by
  rcases step_cases hStep with ⟨phase, hNext, hPhase⟩ | ⟨_, hPhase, response, responseRx, hRecv, hNext⟩
  . rw [hNext]
    exact h.phaseStep hPhase hClosed hFailed
  . have hQueue := Channel.queue_of_recv_eq_some hRecv
    rw [hNext]
    apply h.recv hPhase
    . intro event hEvent
      apply hEvents
      exact List.mem_append_left _ hEvent
    . apply hEvents
      apply List.mem_append_right
      rw [hQueue]
      exact List.mem_cons_self

theorem ResultOk.decided {failed : Error .std → Prop} (h : ResultOk isTerminal failed call)
    {result : CommandResult} (hResult : call.phase.result? = some result)
    : (∃ response,
        decisive isTerminal [] call.events = some response ∧ result = resultOf response)
        ∨
      (decisive isTerminal [] call.received = none ∧ result = .error .timeout)
        ∨
      (call.received = [] ∧ ∃ error, failed error ∧ result = .error error) := by
  rcases h.result result hResult with ⟨response, hDecisive, hEq⟩ | hOther
  . left
    exists response
    constructor
    . apply decisive_append_of_eq_some
      exact hDecisive
    . exact hEq
  . exact .inr hOther

end CommandCall
end Runtime
end Enody
