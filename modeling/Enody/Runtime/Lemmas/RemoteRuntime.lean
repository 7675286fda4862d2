import Enody.Runtime.Lemmas.Registration
import Enody.Transition.Run

/-!
This module contains the runs of a `RemoteRuntime` in which every call has an identifier of its own:
no message is lost or duplicated, an event for a registered call goes to that call, and the result of a
call is decided by the events sent to it.
-/

namespace Enody
namespace Runtime
namespace RemoteRuntimeInner

open Transition

variable {isTerminal : CallId → IsTerminal} {s t : RemoteRuntimeInner} {i : CallId}
variable {label : RuntimeLabel} {labels : List RuntimeLabel}

def identifier? : RuntimeLabel → Option Identifier
  | .call _ command => some command.identifier
  | _ => none

def NewIdentifier (s : RemoteRuntimeInner) (label : RuntimeLabel) : Prop :=
  ∀ i command, label = .call i command →
    ∀ j other, s.calls j = some other → other.command.identifier ≠ command.identifier

structure Distinct (s : RemoteRuntimeInner) : Prop where
  identifiers : ∀ i j call other, s.calls i = some call → s.calls j = some other →
    call.command.identifier = other.command.identifier → i = j
  removing : ∀ event context, s.dispatchTask = .removing event context →
    ∃ i call,
      s.calls i = some call ∧ call.command.identifier = context ∧ call.phase.isOver = true

namespace Distinct

theorem new : Distinct new where
  identifiers := by
    intro i j call other hCall
    contradiction
  removing := by
    intro event context hTask
    contradiction

theorem freshInFlight (hNew : NewIdentifier s label) : FreshInFlight s label := by
  intro i command hLabel j other hOther _
  exact hNew i command hLabel j other hOther

theorem removesDropped (h : Distinct s) : RemovesDropped s label := by
  intro _ event context hTask i call hCall hContext
  rcases h.removing event context hTask with ⟨j, other, hOther, hIdentifier, hOver⟩
  have hEq : i = j := by
    apply h.identifiers i j call other hCall hOther
    rw [hContext, hIdentifier]
  rw [hEq, hOther] at hCall
  injection hCall with hCall
  rw [← hCall]
  cases hRegistered : other.phase.isRegistered with
  | false => rfl
  | true =>
    rw [isOver_of_isRegistered hRegistered] at hOver
    contradiction

theorem identifiers_step (h : Distinct s) (hNew : NewIdentifier s label)
    (hStep : s.step isTerminal label = some t) {i j : CallId} {call other : CommandCall}
    (hCall : t.calls i = some call) (hOther : t.calls j = some other)
    (hEq : call.command.identifier = other.command.identifier)
    : i = j := by
  rcases calls_of_step hStep hCall with
    ⟨command, hLabel, _, hCallNew⟩ | ⟨old, hOld, hCommand, _⟩
  . rcases calls_of_step hStep hOther with
      ⟨command', hLabel', _, _⟩ | ⟨old', hOld', hCommand', _⟩
    . rw [hLabel] at hLabel'
      injection hLabel'
    . have hNe := hNew i command hLabel j old' hOld'
      rw [hCallNew, hCommand'] at hEq
      exact absurd hEq.symm hNe
  . rcases calls_of_step hStep hOther with
      ⟨command', hLabel', _, hOtherNew⟩ | ⟨old', hOld', hCommand', _⟩
    . have hNe := hNew j command' hLabel' i old hOld
      rw [hOtherNew, hCommand] at hEq
      exact absurd hEq hNe
    . rw [hCommand, hCommand'] at hEq
      exact h.identifiers i j old old' hOld hOld' hEq

theorem removing_step (hRouted : Routed s) (hStep : s.step isTerminal label = some t)
    {event : EventMessage .std} {context : Identifier}
    (hTask : t.dispatchTask = .removing event context)
    : s.dispatchTask = .removing event context
        ∨
      ∃ i call,
        s.calls i = some call ∧ call.command.identifier = context ∧ call.phase.isOver = true := by
  cases label with
  | call i command =>
    rcases startCall_eq_some hStep with ⟨_, hEq⟩
    subst hEq
    exact .inl hTask
  | task i label =>
    rcases callStep_eq_some hStep with ⟨call, next, pending, _, _, hEq, _⟩
    subst hEq
    exact .inl hTask
  | nextMessage =>
    rcases nextMessage_eq_some hStep with ⟨message, channel, _, hEq⟩
    subst hEq
    exact .inl hTask
  | enableLogging =>
    injection hStep with hStep
    subst hStep
    exact .inl hTask
  | dispatch label =>
    cases dispatchStep_cases hStep with
    | start => contradiction
    | receive message =>
      unfold receive at hTask
      simp only at hTask
      split at hTask
      . split at hTask
        . contradiction
        . contradiction
      . contradiction
    | receiveError => contradiction
    | lookup =>
      unfold lookup at hTask
      simp only at hTask
      split at hTask
      . contradiction
      . contradiction
    | closed event' context' responseTx call hSending hCall hOver =>
      right
      injection hTask with hEvent hContext
      have hOk := hRouted.dispatch
      rw [hSending] at hOk
      rcases hOk.right with ⟨other, hOther, hIdentifier⟩
      rw [hCall] at hOther
      injection hOther with hOther
      subst hOther hContext
      exact ⟨responseTx, call, hCall, hIdentifier, hOver⟩
    | send => contradiction
    | remove => contradiction
    | forward => contradiction

theorem step (h : Distinct s) (hRouted : Routed s) (hNew : NewIdentifier s label)
    (hStep : s.step isTerminal label = some t)
    : Distinct t where
  identifiers := by
    intro i j call other hCall hOther hEq
    exact h.identifiers_step hNew hStep hCall hOther hEq
  removing := by
    intro event context hTask
    have hOver : ∃ i call,
        s.calls i = some call ∧ call.command.identifier = context ∧ call.phase.isOver = true := by
      rcases removing_step hRouted hStep hTask with hOld | hOver
      . exact h.removing event context hOld
      . exact hOver
    rcases hOver with ⟨i, call, hCall, hIdentifier, hOver⟩
    rcases CallsExtend.step hStep i call hCall with ⟨next, hNext, hCommand, hKeep⟩
    exists i, next
    rw [hCommand]
    exact ⟨hNext, hIdentifier, hKeep hOver⟩

end Distinct

structure Inv (s : RemoteRuntimeInner) : Prop where
  routed : Routed s
  accounted : Accounted s
  registrations : Registrations s
  distinct : Distinct s

theorem Inv.new : Inv new := ⟨Routed.new, Accounted.new, Registrations.new, Distinct.new⟩

theorem Inv.step (h : Inv s) (hNew : NewIdentifier s label)
    (hStep : s.step isTerminal label = some t)
    : Inv t where
  routed := h.routed.step hStep
  accounted := h.accounted.step h.routed hStep
  registrations :=
    h.registrations.step (Distinct.freshInFlight hNew) h.distinct.removesDropped hStep
  distinct := h.distinct.step h.routed hNew hStep

theorem Inv.hasContext (h : Inv s) {call : CommandCall} (hCall : s.calls i = some call)
    (event : EventMessage .std) (hEvent : event ∈ call.events)
    : call.hasContext event := by
  rw [h.accounted.calls i call hCall, List.mem_filterMap] at hEvent
  rcases hEvent with ⟨⟨message, place⟩, hMem, hSent⟩
  unfold sentTo at hSent
  split at hSent
  . next event' j hEntry =>
    split at hSent
    . next hEq =>
      injection hSent with hSent
      rw [hEntry] at hMem
      rcases h.routed.handled _ hMem j rfl with ⟨other, event'', hOther, hMessage, hContext⟩
      injection hMessage with hMessage
      rw [hEq, hCall] at hOther
      injection hOther with hOther
      rw [hOther, ← hSent, hMessage]
      exact hContext
    . contradiction
  . contradiction

/-
The error of a failed `send_message` of the call.
-/
def SendFailed (labels : List RuntimeLabel) (i : CallId) (error : Error .std) : Prop :=
  .task i (.sendFailed error) ∈ labels

def Results (isTerminal : CallId → IsTerminal) (labels : List RuntimeLabel)
    (s : RemoteRuntimeInner) : Prop :=
  ∀ i call, s.calls i = some call → call.ResultOk (isTerminal i) (SendFailed labels i)

theorem Results.step (h : Results isTerminal labels s) (hInv : Inv s)
    (hStep : s.step isTerminal label = some t)
    : Results isTerminal (labels ++ [label]) t := by
  have hOld (j : CallId) (call : CommandCall) (hCall : s.calls j = some call)
      : call.ResultOk (isTerminal j) (SendFailed (labels ++ [label]) j) := by
    apply (h j call hCall).mono
    intro error hError
    exact List.mem_append_left _ hError
  cases label with
  | call j command =>
    rcases startCall_eq_some hStep with ⟨_, hEq⟩
    subst hEq
    intro i call hCall
    rcases calls_setCall hCall with ⟨_, hNew⟩ | hOther
    . rw [hNew]
      apply CommandCall.ResultOk.new
    . exact hOld i call hOther
  | task j callLabel =>
    rcases callStep_eq_some hStep with ⟨old, next, pending, hCall, hNext, hEq, _⟩
    subst hEq
    intro i call hCall'
    rcases calls_setCall hCall' with ⟨hEq, hNew⟩ | hOther
    . rw [hNew, hEq]
      apply (hOld j old hCall).step hNext
      . exact hInv.hasContext hCall
      -- the registration keeps a sender alive
      . intro hClosed
        rw [hClosed, hInv.registrations.channelClosed] at hStep
        contradiction
      . intro error hError
        rw [hError]
        exact List.mem_append_right _ (List.mem_singleton_self _)
    . exact hOld i call hOther
  | dispatch dispatchLabel =>
    cases dispatchStep_cases hStep with
    | send event context responseTx old responseRx _ hCall =>
      intro i call hCall'
      rcases calls_setCall hCall' with ⟨hEq, hNew⟩ | hOther
      . rw [hNew, hEq]
        have hOk := hOld responseTx old hCall
        exact ⟨hOk.sending, hOk.receiving, hOk.result⟩
      . exact hOld i call hOther
    | forward message place next _ hForwarded =>
      intro i call hCall
      unfold finish at hCall
      rw [hForwarded.calls] at hCall
      exact hOld i call hCall
    | _ => exact hOld
  | nextMessage =>
    rcases nextMessage_eq_some hStep with ⟨message, channel, _, hEq⟩
    subst hEq
    exact hOld
  | enableLogging =>
    injection hStep with hStep
    subst hStep
    exact hOld

structure Awaits (i : CallId) (event : EventMessage .std) (inbound : List (Message .std))
    (s : RemoteRuntimeInner)
    : Prop where
  call : ∃ call, s.calls i = some call ∧ call.hasContext event
  arrived : inbound <+: s.inbound
  task : s.inbound = inbound →
    (∀ call, s.calls i = some call → call.phase.isRegistered = true) →
      s.dispatchTask = .receiving
        ∨
      s.dispatchTask = .ended
        ∨
      ∃ context,
        event.context = some context
          ∧
        (s.dispatchTask = .lookup event context ∨ s.dispatchTask = .sending event context i)

namespace Awaits

variable {event : EventMessage .std} {inbound : List (Message .std)}

theorem receive {call : CommandCall} (hCall : s.calls i = some call)
    (hContext : call.hasContext event)
    : Awaits i event (s.receive (.event event)).inbound (s.receive (.event event)) where
  call := ⟨call, hCall, hContext⟩
  arrived := List.prefix_refl _
  task := by
    intro _ _
    right
    right
    exists call.command.identifier
    unfold CommandCall.hasContext at hContext
    unfold RemoteRuntimeInner.receive
    simp [hContext]

theorem lookup (hInv : Inv s) {call : CommandCall} {context : Identifier}
    (hCall : s.calls i = some call) (hRegistered : call.phase.isRegistered = true)
    (hContext : call.command.identifier = context)
    : (s.lookup event context).dispatchTask = .sending event context i := by
  have hMem := hInv.registrations.registered i call hCall hRegistered
  unfold RemoteRuntimeInner.lookup
  simp only
  split
  . next registration hFind =>
    have hFound := List.find?_some hFind
    simp only [decide_eq_true_eq] at hFound
    have hTable : registration ∈ s.pendingCommands := by
      apply List.mem_of_mem_filter
      exact List.mem_of_find?_eq_some hFind
    rcases hInv.routed.pending registration hTable with ⟨other, hOther, hIdentifier⟩
    have hEq : registration.responseTx = i := by
      apply hInv.distinct.identifiers _ i other call hOther hCall
      rw [hIdentifier, hFound, hContext]
    rw [hEq]
  . next hFind =>
    rw [List.find?_eq_none] at hFind
    have hNot := hFind ⟨call.command.identifier, i⟩ (by
      rw [List.mem_filter]
      refine ⟨hMem, ?_⟩
      simp [isClosed, hCall, isOver_of_isRegistered hRegistered])
    simp [hContext] at hNot

theorem dispatchStep (h : Awaits i event inbound s) (hInv : Inv s) {label : DispatchLabel}
    (hStep : DispatchStep s label t)
    (hRegistered : ∀ call, s.calls i = some call → call.phase.isRegistered = true)
    (hInbound : t.inbound = inbound)
    : t.dispatchTask = .receiving
        ∨
      t.dispatchTask = .ended
        ∨
      ∃ context,
        event.context = some context
          ∧
        (t.dispatchTask = .lookup event context ∨ t.dispatchTask = .sending event context i) := by
  rcases h.call with ⟨call, hCall, hContext⟩
  cases hStep with
  | start => exact .inl rfl
  | receive message hTask =>
    -- another message has arrived, so there is nothing to show
    have hLength := h.arrived.length_le
    have hEq := congrArg List.length hInbound
    unfold RemoteRuntimeInner.receive at hEq
    simp only [List.length_append, List.length_singleton] at hEq
    omega
  | receiveError => exact .inr (.inl rfl)
  | lookup event' context' hTask =>
    rcases h.task hInbound hRegistered with hIdle | hIdle | ⟨context, hEvent, hBusy | hBusy⟩
    . rw [hTask] at hIdle
      contradiction
    . rw [hTask] at hIdle
      contradiction
    . rw [hTask] at hBusy
      injection hBusy with hEvent' hContext'
      subst hEvent' hContext'
      right
      right
      refine ⟨context', hEvent, .inr ?_⟩
      apply lookup hInv hCall (hRegistered call hCall)
      unfold CommandCall.hasContext at hContext
      rw [hEvent] at hContext
      injection hContext with hContext
      exact hContext.symm
    . rw [hTask] at hBusy
      contradiction
  | closed event' context' responseTx other hTask hOther hOver =>
    rcases h.task hInbound hRegistered with hIdle | hIdle | ⟨context, hEvent, hBusy | hBusy⟩
    . rw [hTask] at hIdle
      contradiction
    . rw [hTask] at hIdle
      contradiction
    . rw [hTask] at hBusy
      contradiction
    . rw [hTask] at hBusy
      injection hBusy with _ _ hTx
      subst hTx
      -- the receiver is gone, but the call is still registered
      have hOpen := isOver_of_isRegistered (hRegistered other hOther)
      rw [hOver] at hOpen
      contradiction
  | send => exact .inl rfl
  | remove event' context' hTask =>
    rcases h.task hInbound hRegistered with hIdle | hIdle | ⟨context, hEvent, hBusy | hBusy⟩
    all_goals
      rw [hTask] at *
      contradiction
  | forward => exact .inl rfl

theorem registered_of_step (h : Awaits i event inbound s)
    (hStep : s.step isTerminal label = some t)
    (hRegistered : ∀ call, t.calls i = some call → call.phase.isRegistered = true)
    : ∀ call, s.calls i = some call → call.phase.isRegistered = true := by
  rcases h.call with ⟨call, hCall, _⟩
  rcases CallsExtend.step hStep i call hCall with ⟨next, hNext, _⟩
  have hAfter := hRegistered next hNext
  intro call' hCall'
  rcases calls_of_step hStep hNext with ⟨command, _, hNone, _⟩ | ⟨old, hOld, _, _, hBack⟩
  . rw [hCall] at hNone
    contradiction
  . rw [hCall'] at hOld
    injection hOld with hOld
    rw [hOld]
    exact hBack hAfter

theorem step (h : Awaits i event inbound s) (hInv : Inv s)
    (hStep : s.step isTerminal label = some t)
    : Awaits i event inbound t where
  call := by
    rcases h.call with ⟨call, hCall, hContext⟩
    rcases CallsExtend.step hStep i call hCall with ⟨next, hNext, hCommand, _⟩
    exists next
    unfold CommandCall.hasContext at hContext ⊢
    rw [hCommand]
    exact ⟨hNext, hContext⟩
  arrived := by
    apply h.arrived.trans
    exact inbound_prefix_of_step hStep
  task := by
    intro hInbound hRegistered
    have hBefore := h.registered_of_step hStep hRegistered
    cases label with
    | call j command =>
      rcases startCall_eq_some hStep with ⟨_, hEq⟩
      subst hEq
      exact h.task hInbound hBefore
    | task j label =>
      rcases callStep_eq_some hStep with ⟨call, next, pending, _, _, hEq, _⟩
      subst hEq
      exact h.task hInbound hBefore
    | nextMessage =>
      rcases nextMessage_eq_some hStep with ⟨message, channel, _, hEq⟩
      subst hEq
      exact h.task hInbound hBefore
    | enableLogging =>
      injection hStep with hStep
      subst hStep
      exact h.task hInbound hBefore
    | dispatch label =>
      exact h.dispatchStep hInv (dispatchStep_cases hStep) hBefore hInbound

end Awaits

theorem place_of_awaits {event : EventMessage .std} {inbound : List (Message .std)}
    (h : Awaits i event inbound s) (hInbound : s.inbound = inbound)
    (hRegistered : ∀ call, s.calls i = some call → call.phase.isRegistered = true)
    (hStep : s.step isTerminal label = some t) {message : Message .std} {place : Place}
    (hHandled : t.handled = s.handled ++ [(message, place)])
    : message = .event event ∧ place = .responseChannel i := by
  have hBusy := h.task hInbound hRegistered
  have hChanged : t.handled ≠ s.handled := by
    rw [hHandled]
    simp
  cases label with
  | call j command =>
    rcases startCall_eq_some hStep with ⟨_, hEq⟩
    subst hEq
    contradiction
  | task j label =>
    rcases callStep_eq_some hStep with ⟨call, next, pending, _, _, hEq, _⟩
    subst hEq
    contradiction
  | nextMessage =>
    rcases nextMessage_eq_some hStep with ⟨message, channel, _, hEq⟩
    subst hEq
    contradiction
  | enableLogging =>
    injection hStep with hStep
    subst hStep
    contradiction
  | dispatch label =>
    cases dispatchStep_cases hStep with
    | send event' context' responseTx call responseRx hTask =>
      rw [hTask] at hBusy
      rcases hBusy with hIdle | hIdle | ⟨context, _, hLookup | hSending⟩
      . contradiction
      . contradiction
      . contradiction
      . injection hSending with hEvent _ hTx
        subst hEvent hTx
        -- the dispatch task has the event in its hands, and only for this channel
        have hEntry := List.append_cancel_left hHandled
        injection hEntry with hEntry
        injection hEntry with hMessage hPlace
        exact ⟨hMessage.symm, hPlace.symm⟩
    | forward message' place' next hTask =>
      rw [hTask] at hBusy
      rcases hBusy with hIdle | hIdle | ⟨context, _, hLookup | hSending⟩
      . contradiction
      . contradiction
      . contradiction
      . contradiction
    | _ => contradiction

structure Dispatched (isTerminal : CallId → IsTerminal) (labels : List RuntimeLabel)
    (s : RemoteRuntimeInner)
    : Prop where
  accounted : s.Accounted
  justified : ∀ label t, s.step isTerminal label = some t →
    t.handled = s.handled
      ∨
    ∃ message place,
      t.handled = s.handled ++ [(message, place)]
        ∧ s.dispatchTask.message? = some message ∧ s.Justified message place
  owner : ∀ message i, (message, .responseChannel i) ∈ s.handled →
    ∃ call event,
      s.calls i = some call
        ∧ message = .event event
        ∧ call.hasContext event
        ∧ ∀ j other, s.calls j = some other → other.hasContext event → j = i
  registered : ∀ before event more r i call,
    labels = before ++ .dispatch (.receive (.event event)) :: more →
      Run (step isTerminal) anyStep new before r →
        r.calls i = some call → call.phase.isRegistered = true → call.hasContext event →
          s.inbound = r.inbound ++ [.event event] →
            (∀ now, s.calls i = some now → now.phase.isRegistered = true) →
              ∀ label t message place, s.step isTerminal label = some t →
                t.handled = s.handled ++ [(message, place)] →
                  message = .event event ∧ place = .responseChannel i
  results : ∀ i call result, s.calls i = some call → call.phase.result? = some result →
    (∃ response,
      decisive (isTerminal i) [] call.events = some response ∧ result = resultOf response)
      ∨
    (decisive (isTerminal i) [] call.received = none ∧ result = .error .timeout)
      ∨
    (call.received = [] ∧ ∃ error, SendFailed labels i error ∧ result = .error error)
  channelOpen : ∀ i, s.step isTerminal (.task i .channelClosed) = none

theorem inv_of_run (hRun : Run (step isTerminal) NewIdentifier new labels s) : Inv s := by
  apply hRun.invariant Inv.new
  intro s label t h hNew hStep
  exact h.step hNew hStep

theorem results_of_run (hRun : Run (step isTerminal) NewIdentifier new labels s)
    : Results isTerminal labels s := by
  have hBoth : Inv s ∧ Results isTerminal labels s := by
    apply hRun.invariant_of_labels (motive := fun labels s => Inv s ∧ Results isTerminal labels s)
    . constructor
      . exact Inv.new
      . intro i call hCall
        contradiction
    . intro labels s label t h hNew hStep
      exact ⟨h.left.step hNew hStep, h.right.step h.left hStep⟩
  exact hBoth.right

theorem awaits_of_run (hRun : Run (step isTerminal) NewIdentifier new labels s)
    {before more : List RuntimeLabel} {event : EventMessage .std} {r : RemoteRuntimeInner}
    {call : CommandCall}
    (hLabels : labels = before ++ .dispatch (.receive (.event event)) :: more)
    (hBefore : Run (step isTerminal) anyStep new before r)
    (hCall : r.calls i = some call) (hContext : call.hasContext event)
    : Awaits i event (r.inbound ++ [.event event]) s := by
  rw [hLabels] at hRun
  rcases hRun.split with ⟨r', hRun', hRest⟩
  rcases hRest.uncons with ⟨u, hNew, hStep, hMore⟩
  have hEq : r = r' := hRun'.unique hBefore
  subst hEq
  have hInv : Inv u := (inv_of_run hRun').step hNew hStep
  have hReceive : u = r.receive (.event event) := by
    cases dispatchStep_cases hStep
    rfl
  have hBoth : Inv s ∧ Awaits i event (r.inbound ++ [.event event]) s := by
    apply hMore.invariant
    . constructor
      . exact hInv
      . rw [hReceive]
        exact Awaits.receive hCall hContext
    . intro s label t h hNew hStep
      exact ⟨h.left.step hNew hStep, h.right.step h.left hStep⟩
  exact hBoth.right

theorem newIdentifier_of_nodup (hRun : Run (step isTerminal) anyStep new labels s)
    (hDistinct : (labels.filterMap identifier?).Nodup)
    : Run (step isTerminal) NewIdentifier new labels s := by
  have hBoth : (labels.filterMap identifier?).Nodup →
      Run (step isTerminal) NewIdentifier new labels s
        ∧
      ∀ i call, s.calls i = some call →
        call.command.identifier ∈ labels.filterMap identifier? := by
    apply hRun.invariant_of_labels (motive := fun labels s =>
      (labels.filterMap identifier?).Nodup →
        Run (step isTerminal) NewIdentifier new labels s
          ∧
        ∀ i call, s.calls i = some call →
          call.command.identifier ∈ labels.filterMap identifier?)
    . intro _
      constructor
      . exact .nil
      . intro i call hCall
        contradiction
    . intro labels s label t ih _ hStep hNodup
      rw [List.filterMap_append, List.nodup_append] at hNodup
      rcases hNodup with ⟨hBefore, _, hDisjoint⟩
      rcases ih hBefore with ⟨hRun, hKnown⟩
      constructor
      . apply hRun.snoc _ hStep
        intro i command hLabel j other hOther
        apply hDisjoint
        . exact hKnown j other hOther
        . rw [hLabel]
          exact List.mem_singleton_self _
      . intro i call hCall
        rw [List.filterMap_append]
        rcases calls_of_step hStep hCall with ⟨command, hLabel, _, hNew⟩ | ⟨old, hOld, hCommand, _⟩
        . apply List.mem_append_right
          rw [hLabel, hNew]
          exact List.mem_singleton_self _
        . apply List.mem_append_left
          rw [hCommand]
          exact hKnown i old hOld
  exact (hBoth hDistinct).left

theorem run_dispatched (isTerminal : CallId → IsTerminal) (labels : List RuntimeLabel)
    (s : RemoteRuntimeInner)
    (hRun : Run (step isTerminal) anyStep new labels s)
    (hDistinct : (labels.filterMap identifier?).Nodup)
    : Dispatched isTerminal labels s := by
  have hRunNew := newIdentifier_of_nodup hRun hDistinct
  have hInv := inv_of_run hRunNew
  constructor
  case accounted => exact hInv.accounted
  case justified =>
    intro label t hStep
    exact justified_of_step hInv.routed hStep
  case owner =>
    intro message i hMem
    rcases hInv.routed.handled _ hMem i rfl with ⟨call, event, hCall, hMessage, hContext⟩
    refine ⟨call, event, hCall, hMessage, hContext, ?_⟩
    intro j other hOther hContext'
    apply hInv.distinct.identifiers j i other call hOther hCall
    unfold CommandCall.hasContext at hContext hContext'
    rw [hContext] at hContext'
    injection hContext' with hContext'
    exact hContext'.symm
  case registered =>
    intro before event more r i call hLabels hBefore hCall _ hContext hInbound hNow label t message
      place hStep hHandled
    have hAwaits := awaits_of_run hRunNew hLabels hBefore hCall hContext
    exact place_of_awaits hAwaits hInbound hNow hStep hHandled
  case results =>
    intro i call result hCall hResult
    exact (results_of_run hRunNew i call hCall).decided hResult
  case channelOpen =>
    intro i
    exact hInv.registrations.channelClosed

theorem run_dispatched_two
    : ∃ labels s,
        s.handled.map Prod.snd = [.responseChannel 0, .messageChannel]
          ∧
        Dispatched (fun _ _ _ => true) labels s := by
  have hExec : (exec (step fun _ _ _ => true) new
      [.dispatch .start, .call 0 ⟨7, none, none, .internal⟩, .call 1 ⟨8, none, none, .internal⟩,
        .dispatch (.receive (.event ⟨9, some 7, none, .internal⟩)), .dispatch .lookup,
        .dispatch .send, .task 0 .sent, .task 0 .recv, .task 1 .sent, .task 1 .timeout,
        .task 0 .deregister, .task 1 .deregister, .task 0 .ret, .task 1 .ret,
        .dispatch (.receive (.event ⟨10, some 8, none, .internal⟩)), .dispatch .lookup,
        .dispatch .forward]).map (fun s => s.handled.map Prod.snd)
      = some [.responseChannel 0, .messageChannel] := by
    decide
  rcases Run.exists_of_exec hExec with ⟨s, hRun, hHandled⟩
  exact ⟨_, s, hHandled, run_dispatched _ _ s hRun (by decide)⟩

end RemoteRuntimeInner
end Runtime
end Enody
