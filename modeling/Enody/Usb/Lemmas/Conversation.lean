import Enody.Runtime.Lemmas.Step
import Enody.Usb.Impl.Conversation
import Enody.Usb.Lemmas.SerialLink

/-!
This module contains what is on its way between a `RemoteRuntime` and the device at the other end of a serial port:
each step of the conversation is a step of the runtime, of the connection or of the device, or of two of them, and
no byte that the device has sent is in two places.
-/

namespace Enody
namespace Usb

open Serialization Transition Enody.Runtime

namespace SerialLink

variable {link next : SerialLink} {label : SerialLinkLabel} {message : Message .std}

theorem sent_of_sendMessage (hStep : link.sendMessage message = some next)
    : ∃ result, next.sent = link.sent ++ [⟨message, result⟩] := by
  cases sendMessage_cases hStep with
  | refused => exact ⟨_, rfl⟩
  | accepted => exact ⟨_, rfl⟩

theorem sent_of_step (hStep : link.step label = some next) (hLabel : ∀ message, label ≠ .sendMessage message)
    : next.sent = link.sent := by
  cases step_cases hStep with
  | @refused message => exact absurd rfl (hLabel message)
  | @accepted message => exact absurd rfl (hLabel message)
  | _ => rfl

theorem sent_isPrefix (hStep : link.step label = some next) : link.sent <+: next.sent := by
  cases step_cases hStep with
  | refused => exact List.prefix_append _ _
  | accepted => exact List.prefix_append _ _
  | _ => exact List.prefix_refl _

theorem wire_isPrefix (hStep : link.step label = some next) : link.wire <+: next.wire := by
  cases step_cases hStep with
  | wrote => exact List.prefix_append _ _
  | _ => exact List.prefix_refl _

theorem read_of_step (hInStep : link.receiver.InStep) (hStep : link.step label = some next)
    : next.receiver.InStep
        ∧
      next.receiver.arrived ++ next.unhandled = link.receiver.arrived ++ link.unhandled ++ label.readBytes := by
  have h : Receiving [.read (link.receiver.arrived ++ link.unhandled)] link := by
    refine ⟨hInStep, ?_⟩
    simp [SerialLinkLabel.readBytes]
  have hNext := h.step (step_cases hStep)
  refine ⟨hNext.inStep, ?_⟩
  rw [← hNext.arrived]
  simp [SerialLinkLabel.readBytes]

theorem received_of_step (hStep : link.step label = some next) (hLabel : label ≠ .recvMessage)
    : next.receiver.messages.received = link.receiver.messages.received := by
  cases step_cases hStep with
  | received => exact absurd rfl hLabel
  | @handled byte bytes receiver _ hHandle =>
    unfold Receiver.handleByte at hHandle
    simp only [Option.bind_eq_bind, Option.bind_eq_some_iff] at hHandle
    rcases hHandle with ⟨⟨stream, payload⟩, _, hHandle⟩
    simp only at hHandle
    split at hHandle
    . injection hHandle with hHandle
      rw [← hHandle]
    . injection hHandle with hHandle
      rw [← hHandle]
      exact Feed.received_offer _ _
  | _ => rfl

end SerialLink

namespace Device

variable {device next : Device} {wire : List UInt8} {count : Nat} {message : Message .noStd}

structure Reads (device : Device) (wire : List UInt8) : Prop where
  taken : device.taken ≤ wire.length
  parsed : ∃ payloads,
    MessageStream.new.pushBytes .noStd (wire.take device.taken) = some (device.stream, payloads)
      ∧
    device.decoded = payloads.filterMap (Message.fromBytes .noStd)

theorem Reads.initial : Reads initial [] := ⟨Nat.le_refl _, [], rfl, rfl⟩

theorem Reads.mono {more : List UInt8} (h : device.Reads wire) (hMore : wire <+: more)
    : device.Reads more := by
  rcases hMore with ⟨rest, hMore⟩
  subst hMore
  refine ⟨?_, ?_⟩
  . have := h.taken
    rw [List.length_append]
    omega
  . rw [List.take_append_of_le_length h.taken]
    exact h.parsed

theorem Reads.read (h : device.Reads wire) (hRead : device.read wire count = some next)
    : next.Reads wire
        ∧ next.answered = device.answered ∧ next.port = device.port ∧ device.decoded <+: next.decoded := by
  unfold Device.read at hRead
  rw [Option.ite_none_right_eq_some] at hRead
  rcases hRead with ⟨hCount, hRead⟩
  simp only [Option.bind_eq_bind, Option.bind_eq_some_iff] at hRead
  rcases hRead with ⟨⟨stream, payloads⟩, hPush, hNext⟩
  injection hNext with hNext
  subst hNext
  rcases h.parsed with ⟨before, hBefore, hDecoded⟩
  refine ⟨⟨hCount, before ++ payloads, ?_, ?_⟩, rfl, rfl, List.prefix_append _ _⟩
  . rw [List.take_add]
    exact pushBytes_append_of_eq hBefore hPush
  . rw [List.filterMap_append, ← hDecoded]

def Causal (device : Device) : Prop :=
  ∀ event context, .event event ∈ device.answered → event.context = some context →
    context ∈ device.decoded.filterMap Message.commandIdentifier?

theorem Causal.mono (h : device.Causal) (hAnswered : next.answered = device.answered)
    (hDecoded : device.decoded <+: next.decoded)
    : next.Causal := by
  intro event context hEvent hContext
  rw [hAnswered] at hEvent
  rcases hDecoded with ⟨rest, hDecoded⟩
  rw [← hDecoded, List.filterMap_append]
  exact List.mem_append_left _ (h event context hEvent hContext)

theorem send_eq_some (hSend : device.send message = some next)
    : device.answers message = true
        ∧
      next =
        { device with
          answered := device.answered ++ [message]
          port := device.port ++ messageFrame .noStd message } := by
  unfold Device.send at hSend
  rw [Option.ite_none_right_eq_some] at hSend
  rcases hSend with ⟨hAnswers, hNext⟩
  injection hNext with hNext
  exact ⟨hAnswers, hNext.symm⟩

theorem Causal.send (h : device.Causal) (hSend : device.send message = some next) : next.Causal := by
  rcases send_eq_some hSend with ⟨hAnswers, hNext⟩
  subst hNext
  intro event context hEvent hContext
  rw [List.mem_append, List.mem_singleton] at hEvent
  rcases hEvent with hEvent | hEvent
  . exact h event context hEvent hContext
  . subst hEvent
    unfold Device.answers at hAnswers
    simp only [hContext, List.contains_eq_mem, decide_eq_true_eq] at hAnswers
    exact hAnswers

end Device

namespace Conversation

variable {isTerminal : CallId → IsTerminal} {s t : Conversation} {label : ConversationLabel}
variable {labels : List ConversationLabel}

inductive StepCase (isTerminal : CallId → IsTerminal) (s : Conversation)
    : ConversationLabel → Conversation → Prop where
  | runtime {label : RuntimeLabel} {runtime : RemoteRuntimeInner} :
      label.isLocal = true → s.runtime.step isTerminal label = some runtime →
        StepCase isTerminal s (.runtime label) { s with runtime := runtime }
  | link {label : SerialLinkLabel} {link : SerialLink} :
      label.isLocal = true → s.link.step label = some link →
        StepCase isTerminal s (.link label) { s with link := link }
  | send {i : CallId} {call : CommandCall} {link : SerialLink} {result : Except (Error .std) Unit}
      {runtime : RemoteRuntimeInner} :
      s.runtime.calls i = some call → s.link.sendMessage (.command call.command) = some link →
        link.sent = s.link.sent ++ [⟨.command call.command, result⟩] →
          s.runtime.step isTerminal (.task i (.ofSent result)) = some runtime →
            StepCase isTerminal s (.send i) { s with runtime := runtime, link := link }
  | sendMessage {message : Message .std} {link : SerialLink} {result : Except (Error .std) Unit} :
      s.link.sendMessage message = some link → link.sent = s.link.sent ++ [⟨message, result⟩] →
        StepCase isTerminal s (.sendMessage message) { s with link := link }
  | receive {message : Message .std} {link : SerialLink} {runtime : RemoteRuntimeInner} :
      s.link.recvMessage = some link →
        link.receiver.messages.received = s.link.receiver.messages.received ++ [message] →
          s.runtime.step isTerminal (.dispatch (.receive message)) = some runtime →
            StepCase isTerminal s .receive { s with runtime := runtime, link := link }
  | read {count : Nat} {link : SerialLink} :
      s.link.step (.read (s.device.port.take count)) = some link →
        StepCase isTerminal s (.read count)
          { s with link := link, device := { s.device with port := s.device.port.drop count } }
  | deviceRead {count : Nat} {device : Device} :
      s.device.read s.link.wire count = some device →
        StepCase isTerminal s (.deviceRead count) { s with device := device }
  | deviceSend {message : Message .noStd} {device : Device} :
      s.device.send message = some device →
        StepCase isTerminal s (.deviceSend message) { s with device := device }

theorem send_cases {i : CallId} (hStep : s.send isTerminal i = some t) : StepCase isTerminal s (.send i) t := by
  unfold Conversation.send at hStep
  simp only [Option.bind_eq_bind, Option.bind_eq_some_iff] at hStep
  rcases hStep with ⟨call, hCall, link, hLink, entry, hEntry, runtime, hRuntime, hEq⟩
  injection hEq with hEq
  subst hEq
  rcases SerialLink.sent_of_sendMessage hLink with ⟨result, hSent⟩
  rw [hSent, List.getLast?_append, List.getLast?_singleton, Option.some_or] at hEntry
  injection hEntry with hEntry
  subst hEntry
  exact .send hCall hLink hSent hRuntime

theorem receive_cases (hStep : s.receive isTerminal = some t) : StepCase isTerminal s .receive t := by
  unfold Conversation.receive at hStep
  simp only [Option.bind_eq_bind, Option.bind_eq_some_iff] at hStep
  rcases hStep with ⟨⟨message, channel⟩, hRecv, link, hLink, runtime, hRuntime, hEq⟩
  injection hEq with hEq
  subst hEq
  refine .receive hLink ?_ hRuntime
  unfold SerialLink.recvMessage Receiver.recvMessage at hLink
  simp only [Option.map_map, Option.map_eq_some_iff] at hLink
  rcases hLink with ⟨messages, hMessages, hEq⟩
  rw [← hEq]
  exact Feed.received_of_recv hRecv hMessages

theorem step_cases (hStep : s.step isTerminal label = some t) : StepCase isTerminal s label t := by
  cases label with
  | runtime label =>
    unfold Conversation.step at hStep
    simp only [Option.ite_none_right_eq_some, Option.map_eq_some_iff] at hStep
    rcases hStep with ⟨hLocal, runtime, hRuntime, hEq⟩
    subst hEq
    exact .runtime hLocal hRuntime
  | link label =>
    unfold Conversation.step at hStep
    simp only [Option.ite_none_right_eq_some, Option.map_eq_some_iff] at hStep
    rcases hStep with ⟨hLocal, link, hLink, hEq⟩
    subst hEq
    exact .link hLocal hLink
  | send i => exact send_cases hStep
  | sendMessage message =>
    unfold Conversation.step at hStep
    simp only [Option.map_eq_some_iff] at hStep
    rcases hStep with ⟨link, hLink, hEq⟩
    subst hEq
    rcases SerialLink.sent_of_sendMessage hLink with ⟨result, hSent⟩
    exact .sendMessage hLink hSent
  | receive => exact receive_cases hStep
  | read count =>
    unfold Conversation.step Conversation.read at hStep
    simp only [Option.map_eq_some_iff] at hStep
    rcases hStep with ⟨link, hLink, hEq⟩
    subst hEq
    exact .read hLink
  | deviceRead count =>
    unfold Conversation.step at hStep
    simp only [Option.map_eq_some_iff] at hStep
    rcases hStep with ⟨device, hDevice, hEq⟩
    subst hEq
    exact .deviceRead hDevice
  | deviceSend message =>
    unfold Conversation.step at hStep
    simp only [Option.map_eq_some_iff] at hStep
    rcases hStep with ⟨device, hDevice, hEq⟩
    subst hEq
    exact .deviceSend hDevice

section Carried

/--
What is on its way between the two ends. Each byte that the device has sent is in one place, and the dispatch task
has got what has been received from the connection.
-/
structure Carried (s : Conversation) : Prop where
  sending : s.link.SendingInv
  inStep : s.link.receiver.InStep
  arrived : s.link.receiver.arrived ++ s.link.unhandled ++ s.device.port
    = s.device.answered.flatMap (messageFrame .noStd)
  inbound : s.runtime.inbound = s.link.receiver.messages.received
  reads : s.device.Reads s.link.wire
  causal : s.device.Causal

theorem Carried.initial : Carried initial where
  sending := .initial
  inStep := .new
  arrived := rfl
  inbound := rfl
  reads := .initial
  causal := by
    intro event context hEvent
    contradiction

theorem Carried.link (h : s.Carried) {linkLabel : SerialLinkLabel} {link : SerialLink}
    {runtime : RemoteRuntimeInner} (hStep : s.link.step linkLabel = some link)
    (hRead : linkLabel.readBytes = []) (hRecv : linkLabel ≠ .recvMessage)
    (hInbound : runtime.inbound = s.runtime.inbound)
    : Carried { s with runtime := runtime, link := link } := by
  rcases SerialLink.read_of_step h.inStep hStep with ⟨hInStep, hArrived⟩
  rcases h.sending with ⟨begun, queued, missing, hSending⟩
  refine ⟨hSending.step (SerialLink.step_cases hStep), hInStep, ?_, ?_, ?_, h.causal⟩
  . simp only [hArrived, hRead, List.append_nil, h.arrived]
  . simp only [SerialLink.received_of_step hStep hRecv, hInbound, h.inbound]
  . exact h.reads.mono (SerialLink.wire_isPrefix hStep)

theorem Carried.step (h : s.Carried) (hCase : StepCase isTerminal s label t) : t.Carried := by
  cases hCase with
  | @runtime label runtime hLocal hRuntime =>
    have hInbound : runtime.inbound = s.runtime.inbound := by
      apply RemoteRuntimeInner.inbound_of_step hRuntime
      intro message hLabel
      rw [hLabel] at hLocal
      contradiction
    exact ⟨h.sending, h.inStep, h.arrived, hInbound.trans h.inbound, h.reads, h.causal⟩
  | @link label link hLocal hLink =>
    have hRead : label.readBytes = [] := by
      cases label with
      | read bytes => contradiction
      | _ => rfl
    have hRecv : label ≠ .recvMessage := by
      intro hLabel
      rw [hLabel] at hLocal
      contradiction
    have hSame : s.runtime.inbound = s.runtime.inbound := rfl
    exact h.link hLink hRead hRecv hSame
  | @send i call link result runtime hCall hLink hSent hRuntime =>
    have hInbound : runtime.inbound = s.runtime.inbound := by
      apply RemoteRuntimeInner.inbound_of_step hRuntime
      intro message
      simp
    have hStep : s.link.step (.sendMessage (.command call.command)) = some link := hLink
    exact h.link hStep rfl (by simp) hInbound
  | @sendMessage message link result hLink hSent =>
    have hStep : s.link.step (.sendMessage message) = some link := hLink
    have hSame : s.runtime.inbound = s.runtime.inbound := rfl
    exact h.link hStep rfl (by simp) hSame
  | @receive message link runtime hLink hReceived hRuntime =>
    have hStep : s.link.step .recvMessage = some link := hLink
    rcases SerialLink.read_of_step h.inStep hStep with ⟨hInStep, hArrived⟩
    rcases h.sending with ⟨begun, queued, missing, hSending⟩
    refine ⟨hSending.step (SerialLink.step_cases hStep), hInStep, ?_, ?_, ?_, h.causal⟩
    . simp only [hArrived, SerialLinkLabel.readBytes, List.append_nil, h.arrived]
    . cases RemoteRuntimeInner.dispatchStep_cases hRuntime with
      | receive =>
        simp only [RemoteRuntimeInner.receive, hReceived, h.inbound]
    . exact h.reads.mono (SerialLink.wire_isPrefix hStep)
  | @read count link hLink =>
    rcases SerialLink.read_of_step h.inStep hLink with ⟨hInStep, hArrived⟩
    rcases h.sending with ⟨begun, queued, missing, hSending⟩
    have hReceived := SerialLink.received_of_step hLink (by simp)
    refine ⟨hSending.step (SerialLink.step_cases hLink), hInStep, ?_, ?_, ?_, h.causal⟩
    . -- the bytes move from the port to the read
      simp only [hArrived, SerialLinkLabel.readBytes]
      rw [List.append_assoc _ (List.take _ _), List.take_append_drop, h.arrived]
    . simp only [hReceived, h.inbound]
    . have hReads := h.reads.mono (SerialLink.wire_isPrefix hLink)
      exact ⟨hReads.taken, hReads.parsed⟩
  | @deviceRead count device hDevice =>
    rcases h.reads.read hDevice with ⟨hReads, hAnswered, hPort, hDecoded⟩
    refine ⟨h.sending, h.inStep, ?_, h.inbound, hReads, h.causal.mono hAnswered hDecoded⟩
    simp only [hPort, hAnswered, h.arrived]
  | @deviceSend message device hDevice =>
    have hCausal := h.causal.send hDevice
    rcases Device.send_eq_some hDevice with ⟨_, hNext⟩
    subst hNext
    refine ⟨h.sending, h.inStep, ?_, h.inbound, ⟨h.reads.taken, h.reads.parsed⟩, hCausal⟩
    simp only [← List.append_assoc, h.arrived, List.flatMap_append, List.flatMap_cons, List.flatMap_nil,
      List.append_nil]

end Carried

end Conversation

end Usb
end Enody
