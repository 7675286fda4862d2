import Enody.Runtime.Lemmas.Routing

/-!
This module contains the accounting of messages: every message that the dispatch task has finished
handling is in exactly one place, in order of arrival, and the message it still works on is the only one
that is in none.
-/

namespace Enody
namespace Runtime
namespace RemoteRuntimeInner

variable {isTerminal : CallId → IsTerminal} {s t : RemoteRuntimeInner} {i : CallId}

structure Accounted (s : RemoteRuntimeInner) : Prop where
  inbound : s.inbound = s.handled.map Prod.fst ++ s.dispatchTask.message?.toList
  calls : ∀ i call, s.calls i = some call → call.events = s.handled.filterMap (sentTo i)
  messageChannel :
    s.nextMessages ++ s.messageChannel.queue = s.handled.filterMap unmatched
  log : s.log = s.handled.filterMap logged

def Justified (s : RemoteRuntimeInner) (message : Message .std) : Place → Prop
  | .responseChannel i =>
    ∃ call event,
      s.calls i = some call
        ∧ call.phase.isOver = false ∧ message = .event event ∧ call.hasContext event
  | .messageChannel => s.messageChannel.queue.length < messageChannelCapacity
  | .logger => s.loggingEnabled = true ∧ ∃ logEvent, logEvent? message = some logEvent
  | .dropped => s.messageChannel.queue.length = messageChannelCapacity

theorem Routed.filterMap_sentTo (h : Routed s) (hCall : s.calls i = none)
    : s.handled.filterMap (sentTo i) = [] := by
  rw [List.filterMap_eq_nil_iff]
  intro entry hMem
  rcases entry with ⟨message, place⟩
  unfold sentTo
  split
  . next event j hEntry =>
    split
    . next hEq =>
      rw [hEntry] at hMem
      rcases h.handled _ hMem j rfl with ⟨call, _, hSome, _⟩
      rw [hEq, hCall] at hSome
      contradiction
    . rfl
  . rfl

namespace Accounted

theorem new : Accounted new where
  inbound := rfl
  calls := by
    intro i call hCall
    contradiction
  messageChannel := rfl
  log := rfl

theorem startCall (h : Accounted s) (hRouted : Routed s) {command : CommandMessage}
    (hStep : s.startCall i command = some t)
    : Accounted t := by
  rcases startCall_eq_some hStep with ⟨hNone, hEq⟩
  subst hEq
  constructor
  case inbound => exact h.inbound
  case calls =>
    intro j call hCall
    rcases calls_setCall hCall with ⟨hEq, hNew⟩ | hOld
    . rw [hNew, hEq]
      exact (hRouted.filterMap_sentTo hNone).symm
    . exact h.calls j call hOld
  case messageChannel => exact h.messageChannel
  case log => exact h.log

theorem callStep (h : Accounted s) {label : CallLabel}
    (hStep : s.callStep isTerminal i label = some t)
    : Accounted t := by
  rcases callStep_eq_some hStep with ⟨call, next, pending, hCall, hNext, hEq, _⟩
  subst hEq
  constructor
  case inbound => exact h.inbound
  case calls =>
    intro j other hOther
    rcases calls_setCall hOther with ⟨hEq, hNew⟩ | hOld
    . rw [hNew, hEq, CommandCall.step_events hNext]
      exact h.calls i call hCall
    . exact h.calls j other hOld
  case messageChannel => exact h.messageChannel
  case log => exact h.log

theorem dispatch (h : Accounted s) (task : Dispatch) (pending : List CommandResponseRegistration)
    (hMessage : task.message? = s.dispatchTask.message?)
    : Accounted { s with pendingCommands := pending, dispatchTask := task } where
  inbound := by
    rw [hMessage]
    exact h.inbound
  calls := h.calls
  messageChannel := h.messageChannel
  log := h.log

theorem message?_receive (s : RemoteRuntimeInner) (message : Message .std)
    : (s.receive message).dispatchTask.message? = some message := by
  cases message with
  | command command => rfl
  | event event =>
    unfold RemoteRuntimeInner.receive
    simp only
    split
    . rfl
    . rfl

theorem receive (h : Accounted s) (message : Message .std) (hTask : s.dispatchTask = .receiving)
    : Accounted (s.receive message) where
  inbound := by
    have hInbound := h.inbound
    rw [hTask] at hInbound
    rw [message?_receive]
    unfold RemoteRuntimeInner.receive
    simp [hInbound, Dispatch.message?]
  calls := h.calls
  messageChannel := h.messageChannel
  log := h.log

theorem inbound_finish (h : Accounted s) {message : Message .std}
    (hTask : s.dispatchTask.message? = some message) (place : Place)
    : s.inbound = (s.handled ++ [(message, place)]).map Prod.fst := by
  have hInbound := h.inbound
  rw [hTask] at hInbound
  rw [hInbound, List.map_append]
  rfl

theorem send (h : Accounted s) {event : EventMessage .std} {context : Identifier} {call : CommandCall}
    {responseRx : Channel (EventMessage .std) commandEventBuffer}
    (hTask : s.dispatchTask = .sending event context i) (hCall : s.calls i = some call)
    (hQueue : responseRx.queue = call.responseRx.queue ++ [event])
    : Accounted
        ((s.setCall i { call with responseRx := responseRx }).finish (.event event)
          (.responseChannel i)) := by
  constructor
  case inbound =>
    simp only [finish, setCall, Dispatch.message?, Option.toList_none, List.append_nil]
    apply h.inbound_finish
    rw [hTask]
    rfl
  case calls =>
    intro j other hOther
    simp only [finish, setCall, Function.update_apply, List.filterMap_append] at hOther ⊢
    split at hOther
    . next hEq =>
      injection hOther with hOther
      rw [← hOther, hEq, ← h.calls i call hCall]
      simp [CommandCall.events, hQueue, sentTo]
    . next hNe =>
      rw [h.calls j other hOther]
      simp [sentTo, Ne.symm hNe]
  case messageChannel =>
    simp only [finish, setCall, List.filterMap_append, ← h.messageChannel]
    simp [unmatched]
  case log =>
    simp only [finish, setCall, List.filterMap_append, ← h.log]
    simp [logged]

theorem forward (h : Accounted s) {message : Message .std} {place : Place} {next : RemoteRuntimeInner}
    (hTask : s.dispatchTask = .forwarding message) (hForwarded : Forwarded s message next place)
    : Accounted (next.finish message place) := by
  have hInbound := hForwarded.inbound
  have hCalls := hForwarded.calls
  have hHandled := hForwarded.handled
  -- an unmatched message goes to no call
  have hPlace (j : CallId) : sentTo j (message, place) = none := by
    cases hForwarded with
    | logger => simp [sentTo]
    | messageChannel => simp [sentTo]
    | dropped => simp [sentTo]
  constructor
  case inbound =>
    simp only [finish, Dispatch.message?, Option.toList_none, List.append_nil]
    rw [hInbound, hHandled]
    apply h.inbound_finish
    rw [hTask]
    rfl
  case calls =>
    intro j call hCall
    simp only [finish, hHandled, hCalls, List.filterMap_append] at hCall ⊢
    rw [h.calls j call hCall]
    simp [hPlace]
  case messageChannel =>
    simp only [finish, List.filterMap_append, hHandled, ← h.messageChannel]
    cases hForwarded with
    | logger => simp [unmatched]
    | messageChannel channel hQueue => simp [unmatched, hQueue]
    | dropped => simp [unmatched]
  case log =>
    simp only [finish, List.filterMap_append, hHandled, ← h.log]
    cases hForwarded with
    | logger logEvent hLog => simp [logged, hLog]
    | messageChannel => simp [logged]
    | dropped => simp [logged]

theorem dispatchStep (h : Accounted s) {label : DispatchLabel} (hStep : DispatchStep s label t)
    : Accounted t := by
  cases hStep with
  | start hTask =>
    apply h.dispatch
    rw [hTask]
    rfl
  | receive message hTask => exact h.receive message hTask
  | receiveError hTask =>
    apply h.dispatch
    rw [hTask]
    rfl
  | lookup event context hTask =>
    apply h.dispatch
    rw [hTask]
    split
    . rfl
    . rfl
  | closed event context responseTx call hTask =>
    apply h.dispatch
    rw [hTask]
    rfl
  | send event context responseTx call responseRx hTask hCall _ hQueue =>
    exact h.send hTask hCall hQueue
  | remove event context hTask =>
    apply h.dispatch
    rw [hTask]
    rfl
  | forward message place next hTask hForwarded => exact h.forward hTask hForwarded

theorem nextMessage (h : Accounted s) (hStep : s.nextMessage = some t) : Accounted t := by
  rcases nextMessage_eq_some hStep with ⟨message, channel, hQueue, hEq⟩
  subst hEq
  constructor
  case inbound => exact h.inbound
  case calls => exact h.calls
  case messageChannel =>
    rw [← h.messageChannel, hQueue]
    simp
  case log => exact h.log

theorem step (h : Accounted s) (hRouted : Routed s) {label : RuntimeLabel}
    (hStep : s.step isTerminal label = some t)
    : Accounted t := by
  cases label with
  | call i command => exact h.startCall hRouted hStep
  | task i label => exact h.callStep hStep
  | dispatch label => exact h.dispatchStep (dispatchStep_cases hStep)
  | nextMessage => exact h.nextMessage hStep
  | enableLogging =>
    injection hStep with hStep
    subst hStep
    exact ⟨h.inbound, h.calls, h.messageChannel, h.log⟩

end Accounted

theorem justified_of_step (hRouted : Routed s) {label : RuntimeLabel}
    (hStep : s.step isTerminal label = some t)
    : t.handled = s.handled
        ∨
      ∃ message place,
        t.handled = s.handled ++ [(message, place)]
          ∧
        s.dispatchTask.message? = some message
          ∧
        s.Justified message place := by
  cases label with
  | call i command =>
    rcases startCall_eq_some hStep with ⟨_, hEq⟩
    subst hEq
    exact .inl rfl
  | task i label =>
    rcases callStep_eq_some hStep with ⟨call, next, pending, _, _, hEq, _⟩
    subst hEq
    exact .inl rfl
  | nextMessage =>
    rcases nextMessage_eq_some hStep with ⟨message, channel, _, hEq⟩
    subst hEq
    exact .inl rfl
  | enableLogging =>
    injection hStep with hStep
    subst hStep
    exact .inl rfl
  | dispatch label =>
    cases dispatchStep_cases hStep with
    | send event context responseTx call responseRx hTask hCall hOver =>
      right
      exists .event event, .responseChannel responseTx
      have hOk := hRouted.dispatch
      rw [hTask] at hOk
      rcases hOk with ⟨hContext, other, hOther, hIdentifier⟩
      rw [hCall] at hOther
      injection hOther with hOther
      subst hOther
      refine ⟨rfl, by rw [hTask]; rfl, call, event, hCall, hOver, rfl, ?_⟩
      unfold CommandCall.hasContext
      rw [hContext, hIdentifier]
    | forward message place next hTask hForwarded =>
      right
      exists message, place
      refine ⟨?_, by rw [hTask]; rfl, ?_⟩
      . unfold finish
        rw [hForwarded.handled]
      . cases hForwarded with
        | logger logEvent hLog hEnabled => exact ⟨hEnabled, logEvent, hLog⟩
        | messageChannel channel hQueue =>
          have hFits := channel.fits
          rw [hQueue, List.length_append] at hFits
          exact hFits
        | dropped hFull => exact hFull
    | _ => exact .inl rfl

end RemoteRuntimeInner
end Runtime
end Enody
