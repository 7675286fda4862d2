import Enody.Runtime.Lemmas.Registration
import Enody.Runtime.Lemmas.Routing
import Enody.Transition.Run

/-!
This module contains who takes a registration out of the table of pending commands when an identifier is
used again: the dispatch task removes by identifier after a failed send, so the registration of a retry
is safe exactly as long as it is not pushed between the end of the first attempt and that removal.
-/

namespace Enody
namespace Runtime

open Transition

namespace CommandCall

variable {isTerminal : IsTerminal} {call next : CommandCall} {label : CallLabel}

theorem handleResponse_isRegistered (response : EventMessage .std)
    : (call.handleResponse isTerminal response).isRegistered = true := by
  unfold handleResponse
  simp only
  split
  . rfl
  . split
    . rfl
    . split
      . rfl
      . rfl

theorem step_mayRegister (h : call.step isTerminal label = some next)
    (hPhase : call.phase.isRegistered = true ∨ call.phase = .cancelled)
    (hLabel : label ≠ .deregister)
    : next.phase.isRegistered = true ∨ next.phase = .cancelled := by
  rcases step_cases h with ⟨phase, hNext, hStep⟩ | ⟨_, _, response, responseRx, _, hNext⟩
  . rw [hNext]
    generalize call.phase = before at hStep hPhase
    cases hStep with
    | sent => exact .inl rfl
    | sendFailed => exact .inl rfl
    | channelClosed => exact .inl rfl
    | timeout => exact .inl rfl
    | deregister => exact absurd rfl hLabel
    | ret =>
      rcases hPhase with hRegistered | hCancelled
      . contradiction
      . contradiction
    | cancel => exact .inr rfl
  . rw [hNext]
    exact .inl (handleResponse_isRegistered response)

end CommandCall

namespace RemoteRuntimeInner

variable {isTerminal : CallId → IsTerminal} {s t : RemoteRuntimeInner} {i : CallId}
variable {label : RuntimeLabel} {labels : List RuntimeLabel}

/-
No registration outlives the removal by its own call. A cancelled call leaves its registration behind.
-/
def Held (s : RemoteRuntimeInner) : Prop :=
  ∀ registration, registration ∈ s.pendingCommands →
    ∀ call, s.calls registration.responseTx = some call →
      call.phase.isRegistered = true ∨ call.phase = .cancelled

namespace Held

theorem new : Held new := by
  intro registration hMem
  contradiction

theorem mono (h : Held s) (hCalls : t.calls = s.calls)
    (hPending : ∀ registration, registration ∈ t.pendingCommands →
      registration ∈ s.pendingCommands)
    : Held t := by
  intro registration hMem call hCall
  rw [hCalls] at hCall
  exact h registration (hPending registration hMem) call hCall

theorem startCall (h : Held s) (hRouted : Routed s) {command : CommandMessage}
    (hStep : s.startCall i command = some t)
    : Held t := by
  rcases startCall_eq_some hStep with ⟨hNone, hEq⟩
  subst hEq
  intro registration hMem call hCall
  rw [List.mem_append, List.mem_singleton] at hMem
  rcases hMem with hOld | hNew
  . rcases hRouted.pending registration hOld with ⟨owner, hOwner, _⟩
    have hNe : registration.responseTx ≠ i := by
      intro hEq
      rw [hEq, hNone] at hOwner
      contradiction
    simp only [setCall, Function.update_of_ne hNe] at hCall
    exact h registration hOld call hCall
  . rw [hNew] at hCall
    simp only [setCall, Function.update_self] at hCall
    injection hCall with hCall
    rw [← hCall]
    exact .inl rfl

theorem callStep (h : Held s) (hRouted : Routed s) {label : CallLabel}
    (hStep : s.callStep isTerminal i label = some t)
    : Held t := by
  rcases callStep_eq_some hStep with ⟨old, next, pending, hOld, hNext, hEq, hKeep, hFilter, _⟩
  subst hEq
  intro registration hMem call hCall
  simp only at hMem
  by_cases hLabel : label = .deregister
  . rw [hFilter hLabel, List.mem_filter, decide_eq_true_eq] at hMem
    rcases hMem with ⟨hMem, hContext⟩
    -- the registration is not one of the call that deregisters: that one has its identifier
    have hNe : registration.responseTx ≠ i := by
      intro hEq
      rcases hRouted.pending registration hMem with ⟨owner, hOwner, hIdentifier⟩
      rw [hEq, hOld] at hOwner
      injection hOwner with hOwner
      rw [hOwner] at hContext
      exact hContext hIdentifier.symm
    simp only [setCall, Function.update_of_ne hNe] at hCall
    exact h registration hMem call hCall
  . rw [hKeep hLabel] at hMem
    rcases calls_setCall hCall with ⟨hEq, hNew⟩ | hOther
    . rw [hNew]
      apply CommandCall.step_mayRegister hNext _ hLabel
      apply h registration hMem
      rw [hEq]
      exact hOld
    . exact h registration hMem call hOther

theorem dispatchStep (h : Held s) {label : DispatchLabel} (hStep : DispatchStep s label t)
    : Held t := by
  cases hStep with
  | lookup => exact h.mono rfl fun _ hMem => List.mem_of_mem_filter hMem
  | remove => exact h.mono rfl fun _ hMem => List.mem_of_mem_filter hMem
  | send event context responseTx old responseRx _ hOld =>
    intro registration hMem call hCall
    rcases calls_setCall hCall with ⟨hEq, hNew⟩ | hOther
    . rw [hNew]
      rw [← hEq] at hOld
      exact h registration hMem old hOld
    . exact h registration hMem call hOther
  | forward message place next _ hForwarded =>
    apply h.mono hForwarded.calls
    intro registration hMem
    rw [← hForwarded.pendingCommands]
    exact hMem
  | _ => exact h.mono rfl fun _ hMem => hMem

theorem step (h : Held s) (hRouted : Routed s) (hStep : s.step isTerminal label = some t)
    : Held t := by
  cases label with
  | call i command => exact h.startCall hRouted hStep
  | task i label => exact h.callStep hRouted hStep
  | dispatch label => exact h.dispatchStep (dispatchStep_cases hStep)
  | nextMessage =>
    rcases nextMessage_eq_some hStep with ⟨message, channel, _, hEq⟩
    subst hEq
    exact h.mono rfl fun _ hMem => hMem
  | enableLogging =>
    injection hStep with hStep
    subst hStep
    exact h.mono rfl fun _ hMem => hMem

end Held

structure Owned (isTerminal : CallId → IsTerminal) (ok : RemoteRuntimeInner → RuntimeLabel → Prop)
    (s : RemoteRuntimeInner)
    : Prop where
  registered : ∀ i call, s.calls i = some call → call.phase.isRegistered = true →
    ⟨call.command.identifier, i⟩ ∈ s.pendingCommands
  removed : ∀ label t registration, ok s label → s.step isTerminal label = some t →
    registration ∈ s.pendingCommands → registration ∉ t.pendingCommands →
      s.isClosed registration.responseTx = false →
        label = .task registration.responseTx .deregister
  channelOpen : ∀ i, s.step isTerminal (.task i .channelClosed) = none
  returned : ∀ i call result, s.calls i = some call → call.phase = .returned result →
    ∀ registration, registration ∈ s.pendingCommands → registration.responseTx ≠ i

/-
At most one call per identifier is in flight, and the dispatch task does not remove by an identifier
that is registered again.
-/
def RetryAfterRemoval (s : RemoteRuntimeInner) (label : RuntimeLabel) : Prop :=
  FreshInFlight s label ∧ RemovesDropped s label

structure OwnedInv (s : RemoteRuntimeInner) : Prop where
  routed : Routed s
  registrations : Registrations s
  held : Held s

namespace OwnedInv

theorem new : OwnedInv new := ⟨Routed.new, Registrations.new, Held.new⟩

theorem step (h : OwnedInv s) (hok : RetryAfterRemoval s label)
    (hStep : s.step isTerminal label = some t)
    : OwnedInv t where
  routed := h.routed.step hStep
  registrations := h.registrations.step hok.left hok.right hStep
  held := h.held.step h.routed hStep

theorem owner (h : OwnedInv s) {registration : CommandResponseRegistration}
    (hMem : registration ∈ s.pendingCommands) (hOpen : s.isClosed registration.responseTx = false)
    : ∃ call,
        s.calls registration.responseTx = some call
          ∧
        call.command.identifier = registration.context
          ∧
        call.phase.isRegistered = true := by
  rcases h.routed.pending registration hMem with ⟨call, hCall, hContext⟩
  refine ⟨call, hCall, hContext, ?_⟩
  rcases h.held registration hMem call hCall with hRegistered | hCancelled
  . exact hRegistered
  . unfold isClosed at hOpen
    simp only [hCall, hCancelled] at hOpen
    contradiction

theorem removed (h : OwnedInv s) (hRemove : RemovesDropped s label)
    (hStep : s.step isTerminal label = some t) {registration : CommandResponseRegistration}
    (hMem : registration ∈ s.pendingCommands) (hNot : registration ∉ t.pendingCommands)
    (hOpen : s.isClosed registration.responseTx = false)
    : label = .task registration.responseTx .deregister := by
  rcases h.owner hMem hOpen with ⟨call, hCall, hContext, hRegistered⟩
  cases label with
  | call i command =>
    rcases startCall_eq_some hStep with ⟨_, hEq⟩
    subst hEq
    exact absurd (List.mem_append_left _ hMem) hNot
  | task i label =>
    rcases callStep_eq_some hStep with ⟨own, next, pending, hOwn, hNext, hEq, hKeep, hFilter, _⟩
    subst hEq
    by_cases hLabel : label = .deregister
    . simp only [hFilter hLabel, List.mem_filter, decide_eq_true_eq, not_and, not_not] at hNot
      have hEq : registration.responseTx = i := by
        apply h.registrations.unique _ _ call own hCall hOwn
        . exact isOver_of_isRegistered hRegistered
        . exact CommandCall.step_not_isOver hNext
        . rw [hContext]
          exact hNot hMem
      rw [hEq, hLabel]
    . rw [hKeep hLabel] at hNot
      exact absurd hMem hNot
  | dispatch label =>
    cases dispatchStep_cases hStep with
    | lookup event context =>
      unfold RemoteRuntimeInner.lookup at hNot
      simp only [List.mem_filter, hOpen, Bool.not_false, and_true] at hNot
      exact absurd hMem hNot
    | remove event context hTask =>
      unfold removePendingRegistration at hNot
      simp only [List.mem_filter, decide_eq_true_eq, not_and, not_not] at hNot
      rw [hNot hMem] at hContext
      have hDropped := hRemove rfl event context hTask _ call hCall hContext
      rw [hRegistered] at hDropped
      contradiction
    | forward message place next _ hForwarded =>
      unfold finish at hNot
      rw [hForwarded.pendingCommands] at hNot
      exact absurd hMem hNot
    | _ => exact absurd hMem hNot
  | nextMessage =>
    rcases nextMessage_eq_some hStep with ⟨message, channel, _, hEq⟩
    subst hEq
    exact absurd hMem hNot
  | enableLogging =>
    injection hStep with hStep
    subst hStep
    exact absurd hMem hNot

theorem owned (h : OwnedInv s) : Owned isTerminal RetryAfterRemoval s where
  registered := h.registrations.registered
  removed := by
    intro label t registration hok hStep hMem hNot hOpen
    exact h.removed hok.right hStep hMem hNot hOpen
  channelOpen := by
    intro i
    exact h.registrations.channelClosed
  returned := by
    intro i call result hCall hPhase registration hMem hEq
    rw [← hEq] at hCall
    have hHeld := h.held registration hMem call hCall
    rw [hPhase] at hHeld
    rcases hHeld with hRegistered | hCancelled
    . contradiction
    . contradiction

end OwnedInv

theorem run_owned (isTerminal : CallId → IsTerminal) (labels : List RuntimeLabel)
    (s : RemoteRuntimeInner)
    (hRun : Run (step isTerminal) RetryAfterRemoval new labels s)
    : Owned isTerminal RetryAfterRemoval s := by
  have hInv : OwnedInv s := by
    apply hRun.invariant OwnedInv.new
    intro s label t h hok hStep
    exact h.step hok hStep
  exact hInv.owned

def callsBelow (bound : Nat) (s : RemoteRuntimeInner) (p : CommandCall → Bool) : Bool :=
  (List.range bound).all fun i =>
    match s.calls i with
    | none => true
    | some call => p call

def freshBelow (bound : Nat) (s : RemoteRuntimeInner) : RuntimeLabel → Bool
  | .call i command =>
    decide (i < bound)
      &&
    s.callsBelow bound fun other =>
      other.phase.isOver || other.command.identifier != command.identifier
  | _ => true

def removesBelow (bound : Nat) (s : RemoteRuntimeInner) (label : RuntimeLabel) : Bool :=
  match label, s.dispatchTask with
  | .dispatch .remove, .removing _ context =>
    s.callsBelow bound fun call =>
      call.command.identifier != context || !call.phase.isRegistered
  | _, _ => true

theorem of_callsBelow {bound : Nat} {p : CommandCall → Bool} (h : s.callsBelow bound p = true)
    (hNone : ∀ i, bound ≤ i → s.calls i = none) {call : CommandCall} (hCall : s.calls i = some call)
    : p call = true := by
  have hBelow : i < bound := by
    by_contra hNot
    rw [hNone i (Nat.le_of_not_lt hNot)] at hCall
    contradiction
  unfold callsBelow at h
  rw [List.all_eq_true] at h
  have hCheck := h i (List.mem_range.mpr hBelow)
  rw [hCall] at hCheck
  exact hCheck

theorem freshInFlight_of_freshBelow {bound : Nat} (h : s.freshBelow bound label = true)
    (hNone : ∀ i, bound ≤ i → s.calls i = none)
    : FreshInFlight s label := by
  intro i command hLabel j other hOther hOpen
  subst hLabel
  unfold freshBelow at h
  rw [Bool.and_eq_true] at h
  have hCheck := of_callsBelow h.right hNone hOther
  simpa [hOpen] using hCheck

theorem removesDropped_of_removesBelow {bound : Nat} (h : s.removesBelow bound label = true)
    (hNone : ∀ i, bound ≤ i → s.calls i = none)
    : RemovesDropped s label := by
  intro hLabel event context hTask i call hCall hIdentifier
  subst hLabel
  unfold removesBelow at h
  simp only [hTask] at h
  have hCheck := of_callsBelow h hNone hCall
  simpa [hIdentifier] using hCheck

theorem run_of_freshBelow (bound : Nat) {ok : RemoteRuntimeInner → RuntimeLabel → Prop}
    {check : RemoteRuntimeInner → RuntimeLabel → Bool}
    (hFresh : ∀ s label, check s label = true → s.freshBelow bound label = true)
    (hok : ∀ s label, check s label = true → (∀ i, bound ≤ i → s.calls i = none) → ok s label)
    (hRun : Run (step isTerminal) (fun s label => check s label = true) new labels s)
    : Run (step isTerminal) ok new labels s := by
  have hBoth : Run (step isTerminal) ok new labels s ∧ ∀ i, bound ≤ i → s.calls i = none := by
    apply hRun.invariant_of_labels (motive := fun labels s =>
      Run (step isTerminal) ok new labels s ∧ ∀ i, bound ≤ i → s.calls i = none)
    . exact ⟨.nil, fun _ _ => rfl⟩
    . intro labels s label t ih hCheck hStep
      refine ⟨ih.left.snoc (hok s label hCheck ih.right) hStep, ?_⟩
      intro i hBound
      cases hCall : t.calls i with
      | none => rfl
      | some call =>
        rcases calls_of_step hStep hCall with ⟨command, hLabel, _⟩ | ⟨old, hOld, _⟩
        . have hBelow := hFresh s label hCheck
          rw [hLabel] at hBelow
          unfold freshBelow at hBelow
          rw [Bool.and_eq_true] at hBelow
          have hLt := of_decide_eq_true hBelow.left
          exact absurd hBound (Nat.not_le_of_lt hLt)
        . rw [ih.right i hBound] at hOld
          contradiction
  exact hBoth.left

/-
The first attempt times out while the dispatch task sends to it. The retry is pushed after the removal
and gets its response.
-/
theorem run_owned_retry
    : ∃ s : RemoteRuntimeInner,
        s.handled.map Prod.snd = [.messageChannel, .responseChannel 1]
          ∧
        Owned (fun _ _ _ => true) RetryAfterRemoval s := by
  have hExec : (execIf (step fun _ _ _ => true)
      (fun s label => s.freshBelow 2 label && s.removesBelow 2 label) new
      [.dispatch .start, .call 0 ⟨7, none, none, .internal⟩, .task 0 .sent,
        .dispatch (.receive (.event ⟨9, some 7, none, .internal⟩)), .dispatch .lookup,
        .task 0 .timeout, .task 0 .deregister, .task 0 .ret, .dispatch .send, .dispatch .remove,
        .dispatch .forward, .call 1 ⟨7, none, none, .internal⟩, .task 1 .sent,
        .dispatch (.receive (.event ⟨10, some 7, none, .internal⟩)), .dispatch .lookup,
        .dispatch .send, .task 1 .recv, .task 1 .deregister, .task 1 .ret]).map
          (fun s => s.handled.map Prod.snd)
      = some [.messageChannel, .responseChannel 1] := by
    decide
  rcases Run.exists_of_execIf hExec with ⟨s, hChecked, hHandled⟩
  refine ⟨s, hHandled, run_owned _ _ s (run_of_freshBelow 2 ?_ ?_ hChecked)⟩
  . intro s label hCheck
    rw [Bool.and_eq_true] at hCheck
    exact hCheck.left
  . intro s label hCheck hNone
    rw [Bool.and_eq_true] at hCheck
    constructor
    . exact freshInFlight_of_freshBelow hCheck.left hNone
    . exact removesDropped_of_removesBelow hCheck.right hNone

/-
The retry is pushed between the failed send to the first attempt and the removal. The removal takes the
registration of the retry, and the retry finds its channel closed.
-/
theorem not_run_owned
    : ¬ ∀ isTerminal labels s, Run (step isTerminal) FreshInFlight new labels s →
        Owned isTerminal FreshInFlight s := by
  intro hOwned
  have hExec : (execIf (step fun _ _ _ => true) (fun s label => s.freshBelow 2 label) new
      [.dispatch .start, .call 0 ⟨7, none, none, .internal⟩, .task 0 .sent,
        .dispatch (.receive (.event ⟨9, some 7, none, .internal⟩)), .dispatch .lookup,
        .task 0 .timeout, .task 0 .deregister, .task 0 .ret, .dispatch .send,
        .call 1 ⟨7, none, none, .internal⟩, .task 1 .sent, .dispatch .remove]).map
          (fun s => (s.step (fun _ _ _ => true) (.task 1 .channelClosed)).isSome)
      = some true := by
    decide
  rcases Run.exists_of_execIf hExec with ⟨s, hChecked, hClosed⟩
  have hRun : Run (step fun _ _ _ => true) FreshInFlight new _ s :=
    run_of_freshBelow 2 (fun _ _ hCheck => hCheck)
      (fun _ _ hCheck hNone => freshInFlight_of_freshBelow hCheck hNone) hChecked
  have hNone := (hOwned _ _ s hRun).channelOpen 1
  rw [hNone] at hClosed
  contradiction

end RemoteRuntimeInner
end Runtime
end Enody
