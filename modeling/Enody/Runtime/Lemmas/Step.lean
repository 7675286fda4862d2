import Enody.Runtime.Impl.Dispatch
import Enody.Runtime.Lemmas.Call
import Mathlib.Data.List.Infix

/-!
This module contains what each step on the shared state of a `RemoteRuntime` can do, so that the
invariants never unfold the step function.
-/

namespace Enody
namespace Runtime
namespace RemoteRuntimeInner

variable {isTerminal : CallId → IsTerminal} {s t : RemoteRuntimeInner} {i : CallId}

def logEvent? : Message .std → Option Message.LogEvent
  | .event ⟨_, _, _, .runtime (.log logEvent)⟩ => some logEvent
  | _ => none

theorem calls_setCall {j : CallId} {new call : CommandCall} (h : (s.setCall j new).calls i = some call)
    : (i = j ∧ call = new) ∨ s.calls i = some call := by
  simp only [setCall, Function.update_apply] at h
  split at h
  . next hEq =>
    injection h with h
    exact .inl ⟨hEq, h.symm⟩
  . exact .inr h

theorem startCall_eq_some {command : CommandMessage} (h : s.startCall i command = some t)
    : s.calls i = none
        ∧
      t =
        { s.setCall i (.new command) with
          pendingCommands := s.pendingCommands ++ [⟨command.identifier, i⟩] } := by
  unfold startCall at h
  split at h
  . contradiction
  . next hCall =>
    injection h with h
    exact ⟨hCall, h.symm⟩

theorem callStep_eq_some {label : CallLabel} (h : s.callStep isTerminal i label = some t)
    : ∃ call next pending,
        s.calls i = some call
          ∧
        call.step (isTerminal i) label = some next
          ∧
        t = { s.setCall i next with pendingCommands := pending }
          ∧
        (label ≠ .deregister → pending = s.pendingCommands)
          ∧
        (label = .deregister → pending = s.pendingCommands.filter fun registration =>
          registration.context ≠ call.command.identifier)
          ∧
        (label = .channelClosed → s.hasSender i = false) := by
  unfold callStep at h
  split at h
  . contradiction
  . next call hCall =>
    split at h
    . contradiction
    . next next hNext =>
      split at h
      . split at h
        . contradiction
        . next hSender =>
          injection h with h
          exact ⟨call, next, s.pendingCommands, hCall, hNext, h.symm, fun _ => rfl, nofun,
            fun _ => by simpa using hSender⟩
      . injection h with h
        exact ⟨call, next, _, hCall, hNext, h.symm, fun hLabel => absurd rfl hLabel,
          fun _ => rfl, nofun⟩
      . next hClosed hDeregister =>
        injection h with h
        exact ⟨call, next, s.pendingCommands, hCall, hNext, h.symm, fun _ => rfl,
          fun hLabel => absurd hLabel hDeregister, fun hLabel => absurd hLabel hClosed⟩

theorem send_eq_some {event : EventMessage .std} {context : Identifier} {responseTx : CallId}
    (h : s.send event context responseTx = some t)
    : ∃ call,
        s.calls responseTx = some call
          ∧
        ((call.phase.isOver = true ∧ t = { s with dispatchTask := .removing event context })
          ∨
        (call.phase.isOver = false
          ∧ ∃ responseRx,
              responseRx.queue = call.responseRx.queue ++ [event]
                ∧
              t = (s.setCall responseTx { call with responseRx := responseRx }).finish
                (.event event) (.responseChannel responseTx))) := by
  unfold send at h
  split at h
  . contradiction
  . next call hCall =>
    exists call
    refine ⟨hCall, ?_⟩
    split at h
    . next hOver =>
      injection h with h
      exact .inl ⟨hOver, h.symm⟩
    . next hOver =>
      split at h
      . contradiction
      . next responseRx hSend =>
        injection h with h
        have hQueue := Channel.queue_of_trySend_eq_some hSend
        exact .inr ⟨by simpa using hOver, responseRx, hQueue, h.symm⟩

inductive Forwarded (s : RemoteRuntimeInner) (message : Message .std)
    : RemoteRuntimeInner → Place → Prop where
  | logger (logEvent : Message.LogEvent) :
      logEvent? message = some logEvent → s.loggingEnabled = true →
        Forwarded s message { s with log := s.log ++ [logEvent] } .logger
  | messageChannel (channel : Channel (Message .std) messageChannelCapacity) :
      channel.queue = s.messageChannel.queue ++ [message] →
        Forwarded s message { s with messageChannel := channel } .messageChannel
  | dropped :
      s.messageChannel.queue.length = messageChannelCapacity → Forwarded s message s .dropped

theorem sendUnmatched_forwarded (s : RemoteRuntimeInner) (message : Message .std)
    : Forwarded s message (s.sendUnmatched message).1 (s.sendUnmatched message).2 := by
  unfold sendUnmatched
  split
  . next channel hSend =>
    apply Forwarded.messageChannel
    exact Channel.queue_of_trySend_eq_some hSend
  . next hSend =>
    apply Forwarded.dropped
    exact (Channel.trySend_eq_none_iff _ _).mp hSend

theorem forwardUnmatchedMessage_forwarded (s : RemoteRuntimeInner) (message : Message .std)
    : Forwarded s message (s.forwardUnmatchedMessage message).1
        (s.forwardUnmatchedMessage message).2 := by
  unfold forwardUnmatchedMessage
  split
  . next logEvent =>
    split
    . next hEnabled =>
      apply Forwarded.logger
      . rfl
      . exact hEnabled
    . apply sendUnmatched_forwarded
  . apply sendUnmatched_forwarded

inductive DispatchStep (s : RemoteRuntimeInner) : DispatchLabel → RemoteRuntimeInner → Prop where
  | start : s.dispatchTask = .ended → DispatchStep s .start { s with dispatchTask := .receiving }
  | receive (message : Message .std) :
      s.dispatchTask = .receiving → DispatchStep s (.receive message) (s.receive message)
  | receiveError :
      s.dispatchTask = .receiving → DispatchStep s .receiveError { s with dispatchTask := .ended }
  | lookup (event : EventMessage .std) (context : Identifier) :
      s.dispatchTask = .lookup event context →
        DispatchStep s .lookup (s.lookup event context)
  | closed (event : EventMessage .std) (context : Identifier) (responseTx : CallId)
      (call : CommandCall) :
      s.dispatchTask = .sending event context responseTx → s.calls responseTx = some call →
        call.phase.isOver = true →
          DispatchStep s .send { s with dispatchTask := .removing event context }
  | send (event : EventMessage .std) (context : Identifier) (responseTx : CallId)
      (call : CommandCall) (responseRx : Channel (EventMessage .std) commandEventBuffer) :
      s.dispatchTask = .sending event context responseTx → s.calls responseTx = some call →
        call.phase.isOver = false → responseRx.queue = call.responseRx.queue ++ [event] →
          DispatchStep s .send
            ((s.setCall responseTx { call with responseRx := responseRx }).finish (.event event)
              (.responseChannel responseTx))
  | remove (event : EventMessage .std) (context : Identifier) :
      s.dispatchTask = .removing event context →
        DispatchStep s .remove
          { s.removePendingRegistration context with dispatchTask := .forwarding (.event event) }
  | forward (message : Message .std) (place : Place) (next : RemoteRuntimeInner) :
      s.dispatchTask = .forwarding message → Forwarded s message next place →
        DispatchStep s .forward (next.finish message place)

theorem dispatchStep_cases {label : DispatchLabel} (h : s.dispatchStep label = some t)
    : DispatchStep s label t := by
  unfold dispatchStep at h
  split at h
  . next hTask =>
    injection h with h
    exact h ▸ .start hTask
  . next message hTask =>
    injection h with h
    exact h ▸ .receive message hTask
  . next hTask =>
    injection h with h
    exact h ▸ .receiveError hTask
  . next event context hTask =>
    injection h with h
    exact h ▸ .lookup event context hTask
  . next event context responseTx hTask =>
    rcases send_eq_some h with
      ⟨call, hCall, ⟨hOver, hEq⟩ | ⟨hOver, responseRx, hQueue, hEq⟩⟩
    . exact hEq ▸ .closed event context responseTx call hTask hCall hOver
    . exact hEq ▸ .send event context responseTx call responseRx hTask hCall hOver hQueue
  . next event context hTask =>
    injection h with h
    exact h ▸ .remove event context hTask
  . next message hTask =>
    injection h with h
    exact h ▸ .forward message _ _ hTask (forwardUnmatchedMessage_forwarded s message)
  . contradiction

theorem nextMessage_eq_some (h : s.nextMessage = some t)
    : ∃ message channel,
        s.messageChannel.queue = message :: channel.queue
          ∧
        t = { s with messageChannel := channel, nextMessages := s.nextMessages ++ [message] } := by
  unfold nextMessage at h
  split at h
  . contradiction
  . next message channel hRecv =>
    injection h with h
    exact ⟨message, channel, Channel.queue_of_recv_eq_some hRecv, h.symm⟩

def CallsExtend (s t : RemoteRuntimeInner) : Prop :=
  ∀ i call, s.calls i = some call →
    ∃ next,
      t.calls i = some next
        ∧
      next.command = call.command
        ∧
      (call.phase.isOver = true → next.phase.isOver = true)

theorem CallsExtend.of_eq (h : t.calls = s.calls) : CallsExtend s t := by
  intro i call hCall
  exists call
  rw [h]
  exact ⟨hCall, rfl, fun hOver => hOver⟩

theorem CallsExtend.setCall {call : CommandCall} (next : CommandCall) (hCall : s.calls i = some call)
    (hCommand : next.command = call.command)
    (hOver : call.phase.isOver = true → next.phase.isOver = true)
    (h : t.calls = (s.setCall i next).calls)
    : CallsExtend s t := by
  intro j other hOther
  rw [h]
  unfold RemoteRuntimeInner.setCall
  simp only [Function.update_apply]
  split
  . next hEq =>
    rw [hEq, hCall] at hOther
    injection hOther with hOther
    subst hOther
    exact ⟨next, rfl, hCommand, hOver⟩
  . exact ⟨other, hOther, rfl, fun hOver => hOver⟩

theorem CallsExtend.startCall {command : CommandMessage} (h : s.startCall i command = some t)
    : CallsExtend s t := by
  rcases startCall_eq_some h with ⟨hNone, hEq⟩
  intro j other hOther
  exists other
  rw [hEq]
  refine ⟨?_, rfl, fun hOver => hOver⟩
  unfold RemoteRuntimeInner.setCall
  simp only [Function.update_apply]
  split
  . next hEq =>
    rw [hEq, hNone] at hOther
    contradiction
  . exact hOther

theorem CallsExtend.callStep {label : CallLabel} (h : s.callStep isTerminal i label = some t)
    : CallsExtend s t := by
  rcases callStep_eq_some h with ⟨call, next, pending, hCall, hNext, hEq, _⟩
  apply CallsExtend.setCall next hCall
  . exact CommandCall.step_command hNext
  . rw [CommandCall.step_not_isOver hNext]
    intro hOver
    contradiction
  . rw [hEq]

theorem Forwarded.calls {message : Message .std} {place : Place} (h : Forwarded s message t place)
    : t.calls = s.calls := by
  cases h with
  | logger => rfl
  | messageChannel => rfl
  | dropped => rfl

theorem Forwarded.handled {message : Message .std} {place : Place}
    (h : Forwarded s message t place)
    : t.handled = s.handled := by
  cases h with
  | logger => rfl
  | messageChannel => rfl
  | dropped => rfl

theorem Forwarded.inbound {message : Message .std} {place : Place}
    (h : Forwarded s message t place)
    : t.inbound = s.inbound := by
  cases h with
  | logger => rfl
  | messageChannel => rfl
  | dropped => rfl

theorem Forwarded.pendingCommands {message : Message .std} {place : Place}
    (h : Forwarded s message t place)
    : t.pendingCommands = s.pendingCommands := by
  cases h with
  | logger => rfl
  | messageChannel => rfl
  | dropped => rfl

theorem DispatchStep.callsExtend {label : DispatchLabel} (h : DispatchStep s label t)
    : CallsExtend s t := by
  cases h with
  | send event context responseTx call responseRx _ hCall _ _ =>
    apply CallsExtend.setCall { call with responseRx := responseRx } hCall
    . rfl
    . intro hOver
      exact hOver
    . rfl
  | forward message place next _ hForwarded =>
    apply CallsExtend.of_eq
    exact hForwarded.calls
  | _ =>
    apply CallsExtend.of_eq
    rfl

theorem CallsExtend.step {label : RuntimeLabel} (h : s.step isTerminal label = some t)
    : CallsExtend s t := by
  cases label with
  | call i command => exact CallsExtend.startCall h
  | task i label => exact CallsExtend.callStep h
  | dispatch label => exact (dispatchStep_cases h).callsExtend
  | nextMessage =>
    rcases nextMessage_eq_some h with ⟨message, channel, _, hEq⟩
    apply CallsExtend.of_eq
    rw [hEq]
  | enableLogging =>
    injection h with h
    apply CallsExtend.of_eq
    rw [← h]

theorem inbound_prefix_of_step {label : RuntimeLabel} (h : s.step isTerminal label = some t)
    : s.inbound <+: t.inbound := by
  cases label with
  | call i command =>
    rcases startCall_eq_some h with ⟨_, hEq⟩
    subst hEq
    exact List.prefix_refl _
  | task i label =>
    rcases callStep_eq_some h with ⟨call, next, pending, _, _, hEq, _⟩
    subst hEq
    exact List.prefix_refl _
  | dispatch label =>
    cases dispatchStep_cases h with
    | receive message => exact List.prefix_append _ _
    | forward message place next _ hForwarded =>
      unfold finish
      rw [hForwarded.inbound]
    | _ => exact List.prefix_refl _
  | nextMessage =>
    rcases nextMessage_eq_some h with ⟨message, channel, _, hEq⟩
    subst hEq
    exact List.prefix_refl _
  | enableLogging =>
    injection h with h
    subst h
    exact List.prefix_refl _

theorem inbound_of_step {label : RuntimeLabel} (h : s.step isTerminal label = some t)
    (hLabel : ∀ message, label ≠ .dispatch (.receive message))
    : t.inbound = s.inbound := by
  cases label with
  | call i command =>
    rcases startCall_eq_some h with ⟨_, hEq⟩
    rw [hEq]
    rfl
  | task i label =>
    rcases callStep_eq_some h with ⟨call, next, pending, _, _, hEq, _⟩
    rw [hEq]
    rfl
  | dispatch label =>
    cases dispatchStep_cases h with
    | receive message => exact absurd rfl (hLabel message)
    | forward message place next _ hForwarded => exact hForwarded.inbound
    | _ => rfl
  | nextMessage =>
    rcases nextMessage_eq_some h with ⟨message, channel, _, hEq⟩
    rw [hEq]
  | enableLogging =>
    injection h with h
    rw [← h]

end RemoteRuntimeInner
end Runtime
end Enody
