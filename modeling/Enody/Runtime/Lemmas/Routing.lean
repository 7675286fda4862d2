import Enody.Runtime.Lemmas.Step
import Mathlib.Data.List.Basic

/-!
This module contains the routing of the dispatch task: whatever the interleaving, each handled message
is in exactly one place, and only events with the identifier of a call are in its response channel.
-/

namespace Enody
namespace Runtime
namespace RemoteRuntimeInner

variable {isTerminal : CallId → IsTerminal} {s t : RemoteRuntimeInner} {i : CallId}

def sentTo (i : CallId) : Message .std × Place → Option (EventMessage .std)
  | (.event event, .responseChannel j) => if j = i then some event else none
  | _ => none

def unmatched : Message .std × Place → Option (Message .std)
  | (message, .messageChannel) => some message
  | _ => none

def logged : Message .std × Place → Option Message.LogEvent
  | (message, .logger) => logEvent? message
  | _ => none

def RegistrationOk (s : RemoteRuntimeInner) (registration : CommandResponseRegistration) : Prop :=
  ∃ call,
    s.calls registration.responseTx = some call
      ∧
    call.command.identifier = registration.context

def DispatchOk (s : RemoteRuntimeInner) : Dispatch → Prop
  | .lookup event context => event.context = some context
  | .sending event context responseTx =>
    event.context = some context ∧ s.RegistrationOk ⟨context, responseTx⟩
  | .removing event context => event.context = some context
  | _ => True

def EntryOk (s : RemoteRuntimeInner) (entry : Message .std × Place) : Prop :=
  ∀ i, entry.snd = .responseChannel i →
    ∃ call event,
      s.calls i = some call ∧ entry.fst = .event event ∧ call.hasContext event

structure Routed (s : RemoteRuntimeInner) : Prop where
  pending : ∀ registration, registration ∈ s.pendingCommands → s.RegistrationOk registration
  dispatch : s.DispatchOk s.dispatchTask
  handled : ∀ entry, entry ∈ s.handled → s.EntryOk entry

theorem RegistrationOk.mono {registration : CommandResponseRegistration}
    (h : s.RegistrationOk registration) (hCalls : CallsExtend s t)
    : t.RegistrationOk registration := by
  rcases h with ⟨call, hCall, hContext⟩
  rcases hCalls _ _ hCall with ⟨next, hNext, hCommand, _⟩
  exists next
  rw [hCommand]
  exact ⟨hNext, hContext⟩

theorem DispatchOk.mono {dispatch : Dispatch} (h : s.DispatchOk dispatch)
    (hCalls : CallsExtend s t)
    : t.DispatchOk dispatch := by
  cases dispatch with
  | sending => exact ⟨h.left, h.right.mono hCalls⟩
  | _ => exact h

theorem EntryOk.mono {entry : Message .std × Place} (h : s.EntryOk entry)
    (hCalls : CallsExtend s t)
    : t.EntryOk entry := by
  intro i hPlace
  rcases h i hPlace with ⟨call, event, hCall, hMessage, hContext⟩
  rcases hCalls _ _ hCall with ⟨next, hNext, hCommand, _⟩
  exists next, event
  unfold CommandCall.hasContext at hContext ⊢
  rw [hCommand]
  exact ⟨hNext, hMessage, hContext⟩

namespace Routed

theorem new : Routed new where
  pending := by
    intro registration hMem
    contradiction
  dispatch := trivial
  handled := by
    intro entry hMem
    contradiction

theorem mono (h : Routed s) (hCalls : CallsExtend s t)
    (hPending : ∀ registration, registration ∈ t.pendingCommands →
      registration ∈ s.pendingCommands ∨ t.RegistrationOk registration)
    (hDispatch : t.dispatchTask = s.dispatchTask ∨ t.DispatchOk t.dispatchTask)
    (hHandled : ∀ entry, entry ∈ t.handled → entry ∈ s.handled ∨ t.EntryOk entry)
    : Routed t where
  pending := by
    intro registration hMem
    rcases hPending registration hMem with hOld | hNew
    . exact (h.pending registration hOld).mono hCalls
    . exact hNew
  dispatch := by
    rcases hDispatch with hOld | hNew
    . rw [hOld]
      exact h.dispatch.mono hCalls
    . exact hNew
  handled := by
    intro entry hMem
    rcases hHandled entry hMem with hOld | hNew
    . exact (h.handled entry hOld).mono hCalls
    . exact hNew

theorem startCall (h : Routed s) {command : CommandMessage}
    (hStep : s.startCall i command = some t)
    : Routed t := by
  have hCalls := CallsExtend.startCall hStep
  rcases startCall_eq_some hStep with ⟨_, hEq⟩
  subst hEq
  apply h.mono hCalls
  . intro registration hMem
    rw [List.mem_append, List.mem_singleton] at hMem
    rcases hMem with hOld | hNew
    . exact .inl hOld
    . right
      rw [hNew]
      exists .new command
      unfold setCall
      simp [CommandCall.new]
  . exact .inl rfl
  . intro entry hMem
    exact .inl hMem

theorem callStep (h : Routed s) {label : CallLabel}
    (hStep : s.callStep isTerminal i label = some t)
    : Routed t := by
  have hCalls := CallsExtend.callStep hStep
  rcases callStep_eq_some hStep with ⟨call, next, pending, _, _, hEq, hKeep, hRemove, _⟩
  subst hEq
  apply h.mono hCalls
  . intro registration hMem
    left
    by_cases hLabel : label = .deregister
    . rw [hRemove hLabel] at hMem
      exact List.mem_of_mem_filter hMem
    . rw [hKeep hLabel] at hMem
      exact hMem
  . exact .inl rfl
  . intro entry hMem
    exact .inl hMem

theorem dispatchOk_receive (s : RemoteRuntimeInner) (message : Message .std)
    : (s.receive message).DispatchOk (s.receive message).dispatchTask := by
  unfold receive
  split
  . split
    . next hContext => exact hContext
    . trivial
  . trivial

theorem lookup (h : Routed s) {event : EventMessage .std} {context : Identifier}
    (hTask : s.dispatchTask = .lookup event context)
    : Routed (s.lookup event context) := by
  have hContext := h.dispatch
  rw [hTask] at hContext
  have hCalls : CallsExtend s (s.lookup event context) := CallsExtend.of_eq rfl
  apply h.mono hCalls
  . intro registration hMem
    left
    exact List.mem_of_mem_filter hMem
  . right
    unfold RemoteRuntimeInner.lookup
    simp only
    split
    . next registration hFind =>
      have hFound := List.find?_some hFind
      simp only [decide_eq_true_eq] at hFound
      refine ⟨hContext, ?_⟩
      rw [← hFound]
      apply h.pending
      apply List.mem_of_mem_filter
      exact List.mem_of_find?_eq_some hFind
    . trivial
  . intro entry hMem
    exact .inl hMem

theorem dispatchStep (h : Routed s) {label : DispatchLabel} (hStep : DispatchStep s label t)
    : Routed t := by
  have hCalls := hStep.callsExtend
  cases hStep with
  | start => exact h.mono hCalls (fun _ => .inl) (.inr trivial) (fun _ => .inl)
  | receive message =>
    exact h.mono hCalls (fun _ => .inl) (.inr (dispatchOk_receive s message)) (fun _ => .inl)
  | receiveError => exact h.mono hCalls (fun _ => .inl) (.inr trivial) (fun _ => .inl)
  | lookup event context hTask => exact h.lookup hTask
  | closed event context responseTx call hTask =>
    have hContext := h.dispatch
    rw [hTask] at hContext
    exact h.mono hCalls (fun _ => .inl) (.inr hContext.left) (fun _ => .inl)
  | send event context responseTx call responseRx hTask hCall =>
    have hContext := h.dispatch
    rw [hTask] at hContext
    -- the registration that was found named the call by its identifier
    rcases hContext with ⟨hContext, other, hOther, hIdentifier⟩
    rw [hCall] at hOther
    injection hOther with hOther
    subst hOther
    apply h.mono hCalls (fun _ => .inl) (.inr trivial)
    intro entry hMem
    unfold finish at hMem
    rw [List.mem_append, List.mem_singleton] at hMem
    rcases hMem with hOld | hNew
    . exact .inl hOld
    . right
      intro j hPlace
      rw [hNew] at hPlace ⊢
      injection hPlace with hPlace
      subst hPlace
      exists { call with responseRx := responseRx }, event
      refine ⟨?_, rfl, ?_⟩
      . simp [finish, setCall]
      . unfold CommandCall.hasContext
        rw [hContext]
        exact congrArg some hIdentifier.symm
  | remove event context =>
    apply h.mono hCalls _ (.inr trivial) (fun _ => .inl)
    intro registration hMem
    left
    exact List.mem_of_mem_filter hMem
  | forward message place next _ hForwarded =>
    apply h.mono hCalls _ (.inr trivial)
    . intro entry hMem
      unfold finish at hMem
      rw [List.mem_append, List.mem_singleton, hForwarded.handled] at hMem
      rcases hMem with hOld | hNew
      . exact .inl hOld
      . right
        intro j hPlace
        rw [hNew] at hPlace
        cases hForwarded with
        | logger => contradiction
        | messageChannel => contradiction
        | dropped => contradiction
    . intro registration hMem
      unfold finish at hMem
      rw [hForwarded.pendingCommands] at hMem
      exact .inl hMem

theorem step (h : Routed s) {label : RuntimeLabel} (hStep : s.step isTerminal label = some t)
    : Routed t := by
  cases label with
  | call i command => exact h.startCall hStep
  | task i label => exact h.callStep hStep
  | dispatch label => exact h.dispatchStep (dispatchStep_cases hStep)
  | nextMessage =>
    rcases nextMessage_eq_some hStep with ⟨message, channel, _, hEq⟩
    subst hEq
    exact h.mono (CallsExtend.of_eq rfl) (fun _ => .inl) (.inl rfl) (fun _ => .inl)
  | enableLogging =>
    injection hStep with hStep
    subst hStep
    exact h.mono (CallsExtend.of_eq rfl) (fun _ => .inl) (.inl rfl) (fun _ => .inl)

end Routed

end RemoteRuntimeInner
end Runtime
end Enody
