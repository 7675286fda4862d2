import Enody.Runtime.Lemmas.Accounting

/-!
This module contains the table of pending commands: as long as no two calls in flight share an
identifier, and the dispatch task removes nothing that belongs to a call in flight, every call is
registered until it removes its own registration.
-/

namespace Enody
namespace Runtime
namespace RemoteRuntimeInner

variable {isTerminal : CallId → IsTerminal} {s t : RemoteRuntimeInner} {i : CallId}
variable {label : RuntimeLabel}

theorem isOver_of_isRegistered {phase : CallPhase} (h : phase.isRegistered = true)
    : phase.isOver = false := by
  cases phase with
  | returned => contradiction
  | cancelled => contradiction
  | _ => rfl

theorem calls_of_step (hStep : s.step isTerminal label = some t) {call : CommandCall}
    (hCall : t.calls i = some call)
    : (∃ command, label = .call i command ∧ s.calls i = none ∧ call = .new command)
        ∨
      ∃ old,
        s.calls i = some old
          ∧ call.command = old.command
          ∧ (old.phase.isOver = true → call.phase.isOver = true)
          ∧ (call.phase.isRegistered = true → old.phase.isRegistered = true) := by
  have hSame (hEq : t.calls = s.calls) : ∃ old,
      s.calls i = some old
        ∧ call.command = old.command
        ∧ (old.phase.isOver = true → call.phase.isOver = true)
        ∧ (call.phase.isRegistered = true → old.phase.isRegistered = true) := by
    rw [hEq] at hCall
    exact ⟨call, hCall, rfl, fun h => h, fun h => h⟩
  cases label with
  | call j command =>
    rcases startCall_eq_some hStep with ⟨hNone, hEq⟩
    subst hEq
    rcases calls_setCall hCall with ⟨hEq, hNew⟩ | hOld
    . rw [hEq]
      exact .inl ⟨command, rfl, hNone, hNew⟩
    . exact .inr ⟨call, hOld, rfl, fun h => h, fun h => h⟩
  | task j label =>
    right
    rcases callStep_eq_some hStep with ⟨old, next, pending, hOld, hNext, hEq, _⟩
    subst hEq
    rcases calls_setCall hCall with ⟨hEq, hNew⟩ | hOther
    . rw [hNew, hEq]
      refine ⟨old, hOld, CommandCall.step_command hNext, ?_, ?_⟩
      . rw [CommandCall.step_not_isOver hNext]
        intro hOver
        contradiction
      . intro hRegistered
        exact (CommandCall.step_isRegistered hNext hRegistered).left
    . exact ⟨call, hOther, rfl, fun h => h, fun h => h⟩
  | dispatch label =>
    right
    cases dispatchStep_cases hStep with
    | send event context responseTx old responseRx _ hOld =>
      rcases calls_setCall hCall with ⟨hEq, hNew⟩ | hOther
      . rw [hNew, hEq]
        exact ⟨old, hOld, rfl, fun h => h, fun h => h⟩
      . exact ⟨call, hOther, rfl, fun h => h, fun h => h⟩
    | forward message place next _ hForwarded => exact hSame hForwarded.calls
    | _ => exact hSame rfl
  | nextMessage =>
    rcases nextMessage_eq_some hStep with ⟨message, channel, _, hEq⟩
    subst hEq
    exact .inr (hSame rfl)
  | enableLogging =>
    injection hStep with hStep
    subst hStep
    exact .inr (hSame rfl)

theorem sending_of_step (hStep : s.step isTerminal label = some t) {call : CommandCall}
    (hCall : t.calls i = some call) (hPhase : call.phase = .sending)
    : (∃ command, label = .call i command ∧ call = .new command)
        ∨
      ∃ old, s.calls i = some old ∧ old.command = call.command ∧ old.phase = .sending := by
  have hSame (hEq : t.calls = s.calls)
      : ∃ old, s.calls i = some old ∧ old.command = call.command ∧ old.phase = .sending := by
    rw [hEq] at hCall
    exact ⟨call, hCall, rfl, hPhase⟩
  cases label with
  | call j command =>
    rcases startCall_eq_some hStep with ⟨_, hEq⟩
    subst hEq
    rcases calls_setCall hCall with ⟨hEq, hNew⟩ | hOld
    . rw [hEq]
      exact .inl ⟨command, rfl, hNew⟩
    . exact .inr ⟨call, hOld, rfl, hPhase⟩
  | task j label =>
    right
    rcases callStep_eq_some hStep with ⟨old, next, pending, _, hNext, hEq, _⟩
    subst hEq
    rcases calls_setCall hCall with ⟨_, hNew⟩ | hOther
    . exact absurd (hNew ▸ hPhase) (CommandCall.step_ne_sending hNext)
    . exact ⟨call, hOther, rfl, hPhase⟩
  | dispatch label =>
    right
    cases dispatchStep_cases hStep with
    | send event context responseTx old responseRx _ hOld =>
      rcases calls_setCall hCall with ⟨hEq, hNew⟩ | hOther
      . rw [hNew] at hPhase ⊢
        rw [hEq]
        exact ⟨old, hOld, rfl, hPhase⟩
      . exact ⟨call, hOther, rfl, hPhase⟩
    | forward message place next _ hForwarded => exact hSame hForwarded.calls
    | _ => exact hSame rfl
  | nextMessage =>
    rcases nextMessage_eq_some hStep with ⟨message, channel, _, hEq⟩
    subst hEq
    exact .inr (hSame rfl)
  | enableLogging =>
    injection hStep with hStep
    subst hStep
    exact .inr (hSame rfl)

/-
A new call does not reuse the identifier of a call in flight.
-/
def FreshInFlight (s : RemoteRuntimeInner) (label : RuntimeLabel) : Prop :=
  ∀ i command, label = .call i command →
    ∀ j other, s.calls j = some other → other.phase.isOver = false →
      other.command.identifier ≠ command.identifier

/-
The dispatch task does not remove the registration of a call in flight.
-/
def RemovesDropped (s : RemoteRuntimeInner) (label : RuntimeLabel) : Prop :=
  label = .dispatch .remove →
    ∀ event context, s.dispatchTask = .removing event context →
      ∀ i call, s.calls i = some call → call.command.identifier = context →
        call.phase.isRegistered = false

structure Registrations (s : RemoteRuntimeInner) : Prop where
  registered : ∀ i call, s.calls i = some call → call.phase.isRegistered = true →
    ⟨call.command.identifier, i⟩ ∈ s.pendingCommands
  unique : ∀ i j call other, s.calls i = some call → s.calls j = some other →
    call.phase.isOver = false → other.phase.isOver = false →
      call.command.identifier = other.command.identifier → i = j

namespace Registrations

theorem new : Registrations new where
  registered := by
    intro i call hCall
    contradiction
  unique := by
    intro i j call other hCall
    contradiction

theorem not_isOver_of_imp {before after : CallPhase}
    (hOver : before.isOver = true → after.isOver = true) (hAfter : after.isOver = false)
    : before.isOver = false := by
  cases hBefore : before.isOver with
  | false => rfl
  | true =>
    rw [hOver hBefore] at hAfter
    contradiction

theorem unique_step (h : Registrations s) (hFresh : FreshInFlight s label)
    (hStep : s.step isTerminal label = some t) {i j : CallId} {call other : CommandCall}
    (hCall : t.calls i = some call) (hOther : t.calls j = some other)
    (hOpen : call.phase.isOver = false) (hOpenOther : other.phase.isOver = false)
    (hEq : call.command.identifier = other.command.identifier)
    : i = j := by
  rcases calls_of_step hStep hCall with
    ⟨command, hLabel, _, hNew⟩ | ⟨old, hOld, hCommand, hOver, _⟩
  . rcases calls_of_step hStep hOther with
      ⟨command', hLabel', _, _⟩ | ⟨old', hOld', hCommand', hOver', _⟩
    . rw [hLabel] at hLabel'
      injection hLabel'
    . have hNe := hFresh i command hLabel j old' hOld' (not_isOver_of_imp hOver' hOpenOther)
      rw [hNew, hCommand'] at hEq
      exact absurd hEq.symm hNe
  . rcases calls_of_step hStep hOther with
      ⟨command', hLabel', _, hNew'⟩ | ⟨old', hOld', hCommand', hOver', _⟩
    . have hNe := hFresh j command' hLabel' i old hOld (not_isOver_of_imp hOver hOpen)
      rw [hNew', hCommand] at hEq
      exact absurd hEq hNe
    . rw [hCommand, hCommand'] at hEq
      exact h.unique i j old old' hOld hOld' (not_isOver_of_imp hOver hOpen)
        (not_isOver_of_imp hOver' hOpenOther) hEq

theorem pending_step (h : Registrations s) (hRemove : RemovesDropped s label)
    (hStep : s.step isTerminal label = some t) {call old : CommandCall}
    (hCall : t.calls i = some call) (hRegistered : call.phase.isRegistered = true)
    (hOld : s.calls i = some old) (hOldRegistered : old.phase.isRegistered = true)
    : ⟨old.command.identifier, i⟩ ∈ t.pendingCommands := by
  have hMem := h.registered i old hOld hOldRegistered
  cases label with
  | call j command =>
    rcases startCall_eq_some hStep with ⟨_, hEq⟩
    subst hEq
    exact List.mem_append_left _ hMem
  | task j label =>
    rcases callStep_eq_some hStep with ⟨own, next, pending, hOwn, hNext, hEq, hKeep, hFilter, _⟩
    subst hEq
    by_cases hLabel : label = .deregister
    . simp only [hFilter hLabel, List.mem_filter, decide_eq_true_eq]
      refine ⟨hMem, ?_⟩
      intro hIdentifier
      -- the call that removes its registration is the only one in flight with that identifier
      have hEq : i = j := by
        apply h.unique i j old own hOld hOwn
        . exact isOver_of_isRegistered hOldRegistered
        . exact CommandCall.step_not_isOver hNext
        . exact hIdentifier
      simp only [setCall, hEq, Function.update_self] at hCall
      injection hCall with hCall
      rw [← hCall] at hRegistered
      exact (CommandCall.step_isRegistered hNext hRegistered).right hLabel
    . rw [hKeep hLabel]
      exact hMem
  | dispatch label =>
    cases dispatchStep_cases hStep with
    | lookup event context =>
      unfold RemoteRuntimeInner.lookup
      simp only [List.mem_filter, Bool.not_eq_eq_eq_not, Bool.not_true]
      refine ⟨hMem, ?_⟩
      unfold isClosed
      rw [hOld]
      exact isOver_of_isRegistered hOldRegistered
    | remove event context hTask =>
      unfold removePendingRegistration
      simp only [List.mem_filter, decide_eq_true_eq]
      refine ⟨hMem, ?_⟩
      intro hIdentifier
      -- here the condition on `remove` is needed: the identifier alone does not tell two calls apart
      have hNot := hRemove rfl event context hTask i old hOld hIdentifier
      rw [hOldRegistered] at hNot
      contradiction
    | forward message place next _ hForwarded =>
      unfold finish
      rw [hForwarded.pendingCommands]
      exact hMem
    | _ => exact hMem
  | nextMessage =>
    rcases nextMessage_eq_some hStep with ⟨message, channel, _, hEq⟩
    subst hEq
    exact hMem
  | enableLogging =>
    injection hStep with hStep
    subst hStep
    exact hMem

theorem step (h : Registrations s) (hFresh : FreshInFlight s label)
    (hRemove : RemovesDropped s label) (hStep : s.step isTerminal label = some t)
    : Registrations t where
  registered := by
    intro i call hCall hRegistered
    rcases calls_of_step hStep hCall with
      ⟨command, hLabel, _, hNew⟩ | ⟨old, hOld, hCommand, _, hBack⟩
    . subst hLabel
      rcases startCall_eq_some hStep with ⟨_, hEq⟩
      subst hEq
      rw [hNew]
      apply List.mem_append_right
      exact List.mem_singleton_self _
    . rw [hCommand]
      exact h.pending_step hRemove hStep hCall hRegistered hOld (hBack hRegistered)
  unique := by
    intro i j call other hCall hOther hOpen hOpenOther hEq
    exact h.unique_step hFresh hStep hCall hOther hOpen hOpenOther hEq

/-
So a call never finds its channel closed.
-/
theorem channelClosed (h : Registrations s) : s.step isTerminal (.task i .channelClosed) = none := by
  cases hStep : s.step isTerminal (.task i .channelClosed) with
  | none => rfl
  | some t =>
    rcases callStep_eq_some hStep with ⟨call, next, pending, hCall, hNext, _, _, _, hSender⟩
    have hRegistered : call.phase.isRegistered = true := by
      rcases CommandCall.step_cases hNext with ⟨phase, _, hPhase⟩ | ⟨hLabel, _⟩
      . generalize call.phase = before at hPhase
        cases hPhase
        rfl
      . contradiction
    -- its own registration holds a sender
    have hMem := h.registered i call hCall hRegistered
    have hNone := hSender rfl
    unfold hasSender at hNone
    rw [Bool.or_eq_false_iff, List.any_eq_false] at hNone
    have hNot := hNone.left _ hMem
    simp at hNot

end Registrations

end RemoteRuntimeInner
end Runtime
end Enody
