import Enody.Runtime.Lemmas.RemoteRuntime
import Enody.Usb.Lemmas.Conversation

/-!
This module contains what a call of a `RemoteRuntime` learns about the device at the other end of a serial port.
The device carries out each command at most once and in the order in which the calls have handed them over. An
event that ends a call was sent by the device after it had decoded the command of this very call, and a command
whose `send_message` has failed never reaches the device.
-/

namespace Enody
namespace Usb

open Serialization Transition Enody.Runtime

theorem sending_of_ofSent {isTerminal : IsTerminal} {call next : CommandCall}
    {result : Except (Error .std) Unit} (h : call.step isTerminal (.ofSent result) = some next)
    : call.phase = .sending := by
  cases result <;> unfold CommandCall.step CallLabel.ofSent at h <;> split at h <;> simp_all

def ConversationLabel.identifiers : ConversationLabel → List Identifier
  | .runtime label => (RemoteRuntimeInner.identifier? label).toList
  | .sendMessage message => message.commandIdentifier?.toList
  | _ => []

namespace Conversation

variable {isTerminal : CallId → IsTerminal} {s t : Conversation} {label : ConversationLabel}
variable {labels : List ConversationLabel}

section Sent

open RemoteRuntimeInner (SendFailed identifier? Distinct)

/-
The identifiers of the commands for which `send_message` has returned.
-/
def sentIdentifiers (s : Conversation) : List Identifier :=
  s.link.sent.filterMap fun entry => entry.message.commandIdentifier?

/--
The calls of the runtime against the calls of `send_message`: a command is handed over at most once, and only the
call that it belongs to has its identifier.
-/
structure Sent (labels : List ConversationLabel) (s : Conversation) : Prop where
  calls : ∀ i call, s.runtime.calls i = some call →
    call.command.identifier ∈ labels.flatMap ConversationLabel.identifiers
  known : ∀ identifier ∈ s.sentIdentifiers, identifier ∈ labels.flatMap ConversationLabel.identifiers
  once : s.sentIdentifiers.Nodup
  waiting : ∀ i call, s.runtime.calls i = some call → call.phase = .sending →
    call.command.identifier ∉ s.sentIdentifiers
  own : ∀ i call, s.runtime.calls i = some call → ∀ entry ∈ s.link.sent,
    entry.message.commandIdentifier? = some call.command.identifier → entry.message = .command call.command

theorem Sent.initial : Sent [] initial where
  calls := by
    intro i call hCall
    contradiction
  known := by
    intro identifier hIdentifier
    contradiction
  once := List.nodup_nil
  waiting := by
    intro i call hCall
    contradiction
  own := by
    intro i call hCall
    contradiction

theorem Sent.keep (h : Sent labels s) (hRuntime : t.runtime = s.runtime) (hSent : t.link.sent = s.link.sent)
    : Sent (labels ++ [label]) t := by
  have hIdentifiers : t.sentIdentifiers = s.sentIdentifiers := by
    unfold sentIdentifiers
    rw [hSent]
  have hOld (identifier : Identifier) (hMem : identifier ∈ labels.flatMap ConversationLabel.identifiers)
      : identifier ∈ (labels ++ [label]).flatMap ConversationLabel.identifiers := by
    rw [List.flatMap_append]
    exact List.mem_append_left _ hMem
  constructor
  case calls =>
    intro i call hCall
    rw [hRuntime] at hCall
    exact hOld _ (h.calls i call hCall)
  case known =>
    intro identifier hIdentifier
    rw [hIdentifiers] at hIdentifier
    exact hOld _ (h.known identifier hIdentifier)
  case once =>
    rw [hIdentifiers]
    exact h.once
  case waiting =>
    rw [hRuntime, hIdentifiers]
    exact h.waiting
  case own =>
    rw [hRuntime, hSent]
    exact h.own

theorem Sent.runtime (h : Sent labels s) {runtimeLabel : RuntimeLabel}
    (hStep : s.runtime.step isTerminal runtimeLabel = some t.runtime) (hSent : t.link.sent = s.link.sent)
    (hLabel : label.identifiers = (identifier? runtimeLabel).toList)
    (hDistinct : ((labels ++ [label]).flatMap ConversationLabel.identifiers).Nodup)
    : Sent (labels ++ [label]) t := by
  have hIdentifiers : t.sentIdentifiers = s.sentIdentifiers := by
    unfold sentIdentifiers
    rw [hSent]
  have hAll : (labels ++ [label]).flatMap ConversationLabel.identifiers
      = labels.flatMap ConversationLabel.identifiers ++ (identifier? runtimeLabel).toList := by
    rw [List.flatMap_append, List.flatMap_singleton, hLabel]
  rw [hAll] at hDistinct
  have hNew (i : CallId) (command : CommandMessage) (hCommand : runtimeLabel = .call i command)
      : command.identifier ∉ labels.flatMap ConversationLabel.identifiers := by
    rw [hCommand] at hDistinct
    intro hMem
    exact (List.nodup_append.mp hDistinct).2.2 _ hMem _ (List.mem_singleton_self _) rfl
  constructor
  case calls =>
    intro i call hCall
    rw [hAll]
    rcases RemoteRuntimeInner.calls_of_step hStep hCall with
      ⟨command, hCommand, _, hEq⟩ | ⟨old, hOld, hCommand, _⟩
    . apply List.mem_append_right
      rw [hCommand, hEq]
      exact List.mem_singleton_self _
    . apply List.mem_append_left
      rw [hCommand]
      exact h.calls i old hOld
  case known =>
    intro identifier hIdentifier
    rw [hIdentifiers] at hIdentifier
    rw [hAll]
    exact List.mem_append_left _ (h.known identifier hIdentifier)
  case once =>
    rw [hIdentifiers]
    exact h.once
  case waiting =>
    intro i call hCall hPhase
    rw [hIdentifiers]
    rcases RemoteRuntimeInner.sending_of_step hStep hCall hPhase with
      ⟨command, hCommand, hEq⟩ | ⟨old, hOld, hCommand, hSending⟩
    . rw [hEq]
      intro hMem
      exact hNew i command hCommand (h.known _ hMem)
    . rw [← hCommand]
      exact h.waiting i old hOld hSending
  case own =>
    intro i call hCall entry hEntry hIdentifier
    rw [hSent] at hEntry
    rcases RemoteRuntimeInner.calls_of_step hStep hCall with
      ⟨command, hCommand, _, hEq⟩ | ⟨old, hOld, hCommand, _⟩
    . rw [hEq] at hIdentifier
      have hMem : command.identifier ∈ s.sentIdentifiers :=
        List.mem_filterMap.mpr ⟨entry, hEntry, hIdentifier⟩
      exact absurd (h.known _ hMem) (hNew i command hCommand)
    . rw [hCommand] at hIdentifier ⊢
      exact h.own i old hOld entry hEntry hIdentifier

theorem Sent.send (h : Sent labels s) {i : CallId} {call : CommandCall} {result : Except (Error .std) Unit}
    {runtime : RemoteRuntimeInner} {link : SerialLink} (hInv : s.runtime.Distinct)
    (hCall : s.runtime.calls i = some call) (hSent : link.sent = s.link.sent ++ [⟨.command call.command, result⟩])
    (hStep : s.runtime.step isTerminal (.task i (.ofSent result)) = some runtime)
    : Sent (labels ++ [.send i]) { s with runtime := runtime, link := link } := by
  have hAll : (labels ++ [ConversationLabel.send i]).flatMap ConversationLabel.identifiers
      = labels.flatMap ConversationLabel.identifiers := by
    rw [List.flatMap_append, List.flatMap_singleton]
    exact List.append_nil _
  have hIdentifiers : sentIdentifiers { s with runtime := runtime, link := link }
      = s.sentIdentifiers ++ [call.command.identifier] := by
    unfold sentIdentifiers
    simp only [hSent, List.filterMap_append]
    rfl
  -- the call leaves the phase in which it is
  rcases RemoteRuntimeInner.callStep_eq_some hStep with ⟨same, next, pending, hSame, hNext, hRuntime, _⟩
  rw [hCall] at hSame
  injection hSame with hSame
  subst hSame
  have hPhase : call.phase = .sending := sending_of_ofSent hNext
  -- every call was there before, with the same command
  have hOld (j : CallId) (other : CommandCall) (hOther : runtime.calls j = some other)
      : ∃ old, s.runtime.calls j = some old ∧ other.command = old.command := by
    rcases RemoteRuntimeInner.calls_of_step hStep hOther with ⟨command, hLabel, _⟩ | ⟨old, hOld, hCommand, _⟩
    . contradiction
    . exact ⟨old, hOld, hCommand⟩
  constructor
  case calls =>
    intro j other hOther
    rcases hOld j other hOther with ⟨old, hBefore, hCommand⟩
    rw [hAll, hCommand]
    exact h.calls j old hBefore
  case known =>
    intro identifier hIdentifier
    rw [hIdentifiers, List.mem_append, List.mem_singleton] at hIdentifier
    rw [hAll]
    rcases hIdentifier with hIdentifier | hIdentifier
    . exact h.known identifier hIdentifier
    . rw [hIdentifier]
      exact h.calls i call hCall
  case once =>
    rw [hIdentifiers, List.nodup_append]
    refine ⟨h.once, by simp, ?_⟩
    intro identifier hIdentifier other hOther hEq
    rw [List.mem_singleton] at hOther
    rw [hEq, hOther] at hIdentifier
    exact h.waiting i call hCall hPhase hIdentifier
  case waiting =>
    intro j other hOther hSending
    rw [hIdentifiers, List.mem_append, List.mem_singleton, not_or]
    rcases RemoteRuntimeInner.sending_of_step hStep hOther hSending with
      ⟨command, hLabel, _⟩ | ⟨old, hBefore, hCommand, hBeforeSending⟩
    . contradiction
    . rw [← hCommand]
      refine ⟨h.waiting j old hBefore hBeforeSending, ?_⟩
      intro hEq
      have hIndex := hInv.identifiers j i old call hBefore hCall hEq
      subst hIndex
      simp only [hRuntime, RemoteRuntimeInner.setCall, Function.update_self] at hOther
      injection hOther with hOther
      rw [← hOther] at hSending
      exact CommandCall.step_ne_sending hNext hSending
  case own =>
    intro j other hOther entry hEntry hIdentifier
    rcases hOld j other hOther with ⟨old, hBefore, hCommand⟩
    rw [hCommand] at hIdentifier ⊢
    simp only [hSent, List.mem_append, List.mem_singleton] at hEntry
    rcases hEntry with hEntry | hEntry
    . exact h.own j old hBefore entry hEntry hIdentifier
    . rw [hEntry] at hIdentifier ⊢
      injection hIdentifier with hIdentifier
      have hIndex := hInv.identifiers i j call old hCall hBefore hIdentifier
      rw [← hIndex, hCall] at hBefore
      injection hBefore with hBefore
      rw [hBefore]

theorem Sent.sendMessage (h : Sent labels s) {message : Message .std} {result : Except (Error .std) Unit}
    {link : SerialLink} (hSent : link.sent = s.link.sent ++ [⟨message, result⟩])
    (hDistinct : ((labels ++ [ConversationLabel.sendMessage message]).flatMap
      ConversationLabel.identifiers).Nodup)
    : Sent (labels ++ [.sendMessage message]) { s with link := link } := by
  have hAll : (labels ++ [ConversationLabel.sendMessage message]).flatMap ConversationLabel.identifiers
      = labels.flatMap ConversationLabel.identifiers ++ message.commandIdentifier?.toList := by
    rw [List.flatMap_append, List.flatMap_singleton]
    rfl
  have hIdentifiers : sentIdentifiers { s with link := link }
      = s.sentIdentifiers ++ message.commandIdentifier?.toList := by
    unfold sentIdentifiers
    simp only [hSent, List.filterMap_append]
    cases hMessage : message.commandIdentifier? <;> simp [hMessage]
  rw [hAll] at hDistinct
  have hNew (identifier : Identifier) (hIdentifier : identifier ∈ message.commandIdentifier?.toList)
      : identifier ∉ labels.flatMap ConversationLabel.identifiers := by
    intro hMem
    exact (List.nodup_append.mp hDistinct).2.2 _ hMem _ hIdentifier rfl
  constructor
  case calls =>
    intro i call hCall
    rw [hAll]
    exact List.mem_append_left _ (h.calls i call hCall)
  case known =>
    intro identifier hIdentifier
    rw [hIdentifiers, List.mem_append] at hIdentifier
    rw [hAll, List.mem_append]
    exact hIdentifier.imp_left (h.known identifier)
  case once =>
    rw [hIdentifiers, List.nodup_append]
    refine ⟨h.once, (List.nodup_append.mp hDistinct).2.1, ?_⟩
    intro identifier hIdentifier other hOther hEq
    rw [hEq] at hIdentifier
    exact hNew other hOther (h.known other hIdentifier)
  case waiting =>
    intro i call hCall hPhase
    rw [hIdentifiers, List.mem_append, not_or]
    refine ⟨h.waiting i call hCall hPhase, ?_⟩
    intro hMem
    exact hNew _ hMem (h.calls i call hCall)
  case own =>
    intro i call hCall entry hEntry hIdentifier
    simp only [hSent, List.mem_append, List.mem_singleton] at hEntry
    rcases hEntry with hEntry | hEntry
    . exact h.own i call hCall entry hEntry hIdentifier
    . rw [hEntry] at hIdentifier
      simp only at hIdentifier
      have hMem : call.command.identifier ∈ message.commandIdentifier?.toList := by
        rw [hIdentifier]
        exact List.mem_singleton_self _
      exact absurd (h.calls i call hCall) (hNew _ hMem)

theorem Sent.step (h : Sent labels s) (hInv : s.runtime.Distinct) (hCase : StepCase isTerminal s label t)
    (hDistinct : ((labels ++ [label]).flatMap ConversationLabel.identifiers).Nodup)
    : Sent (labels ++ [label]) t := by
  cases hCase with
  | runtime _ hRuntime => exact h.runtime hRuntime rfl rfl hDistinct
  | @link linkLabel link hLocal hLink =>
    have hSent : link.sent = s.link.sent := by
      apply SerialLink.sent_of_step hLink
      intro message hLabel
      rw [hLabel] at hLocal
      contradiction
    exact h.keep rfl hSent
  | send hCall _ hSent hRuntime => exact h.send hInv hCall hSent hRuntime
  | sendMessage _ hSent => exact h.sendMessage hSent hDistinct
  | @receive message link runtime hLink _ hRuntime =>
    have hStep : s.link.step .recvMessage = some link := hLink
    exact h.runtime hRuntime (SerialLink.sent_of_step hStep (by simp)) rfl hDistinct
  | read hLink => exact h.keep rfl (SerialLink.sent_of_step hLink (by simp))
  | deviceRead => exact h.keep rfl rfl
  | deviceSend => exact h.keep rfl rfl

/--
The labels of the runtime alone. A call whose `send_message` has failed has an entry with this error.
-/
structure Projects (isTerminal : CallId → IsTerminal) (labels : List ConversationLabel) (s : Conversation)
    (projected : List RuntimeLabel) : Prop where
  run : Run (RemoteRuntimeInner.step isTerminal) anyStep .new projected s.runtime
  identifiers : (projected.filterMap identifier?).Sublist (labels.flatMap ConversationLabel.identifiers)
  failed : ∀ i error, SendFailed projected i error →
    ∃ call, s.runtime.calls i = some call ∧ ⟨.command call.command, .error error⟩ ∈ s.link.sent

variable {projected : List RuntimeLabel}

theorem Projects.keep (h : Projects isTerminal labels s projected) (hRuntime : t.runtime = s.runtime)
    (hSent : s.link.sent <+: t.link.sent)
    : Projects isTerminal (labels ++ [label]) t projected := by
  constructor
  case run =>
    rw [hRuntime]
    exact h.run
  case identifiers =>
    rw [List.flatMap_append]
    exact h.identifiers.trans (List.sublist_append_left _ _)
  case failed =>
    intro i error hFailed
    rcases h.failed i error hFailed with ⟨call, hCall, hEntry⟩
    rw [hRuntime]
    exact ⟨call, hCall, hSent.subset hEntry⟩

theorem Projects.snoc (h : Projects isTerminal labels s projected) {runtimeLabel : RuntimeLabel}
    (hStep : s.runtime.step isTerminal runtimeLabel = some t.runtime) (hSent : s.link.sent <+: t.link.sent)
    (hLabel : label.identifiers = (identifier? runtimeLabel).toList)
    (hFailed : ∀ i error, runtimeLabel = .task i (.sendFailed error) →
      ∃ call, s.runtime.calls i = some call ∧ ⟨.command call.command, .error error⟩ ∈ t.link.sent)
    : Projects isTerminal (labels ++ [label]) t (projected ++ [runtimeLabel]) := by
  constructor
  case run => exact h.run.snoc trivial hStep
  case identifiers =>
    rw [List.flatMap_append, List.flatMap_singleton, hLabel, List.filterMap_append]
    apply h.identifiers.append
    cases hIdentifier : identifier? runtimeLabel <;> simp [hIdentifier]
  case failed =>
    intro i error hMem
    have hBefore : ∃ call, s.runtime.calls i = some call
        ∧ ⟨.command call.command, .error error⟩ ∈ t.link.sent := by
      unfold SendFailed at hMem
      rw [List.mem_append, List.mem_singleton] at hMem
      rcases hMem with hMem | hMem
      . rcases h.failed i error hMem with ⟨call, hCall, hEntry⟩
        exact ⟨call, hCall, hSent.subset hEntry⟩
      . exact hFailed i error hMem.symm
    rcases hBefore with ⟨call, hCall, hEntry⟩
    rcases RemoteRuntimeInner.CallsExtend.step hStep i call hCall with ⟨next, hNext, hCommand, _⟩
    exact ⟨next, hNext, by rw [hCommand]; exact hEntry⟩

theorem Projects.step (h : Projects isTerminal labels s projected) (hCase : StepCase isTerminal s label t)
    : ∃ more, Projects isTerminal (labels ++ [label]) t more := by
  cases hCase with
  | @runtime runtimeLabel runtime hLocal hRuntime =>
    refine ⟨_, h.snoc hRuntime (List.prefix_refl _) rfl ?_⟩
    intro i error hLabel
    rw [hLabel] at hLocal
    contradiction
  | link _ hLink => exact ⟨_, h.keep rfl (SerialLink.sent_isPrefix hLink)⟩
  | @send i call link result runtime hCall _ hSent hRuntime =>
    refine ⟨_, h.snoc hRuntime ⟨_, hSent.symm⟩ rfl ?_⟩
    intro j error hLabel
    injection hLabel with hIndex hLabel
    cases result with
    | ok value => contradiction
    | error other =>
      injection hLabel with hError
      rw [← hIndex, ← hError]
      refine ⟨call, hCall, ?_⟩
      rw [hSent]
      exact List.mem_append_right _ (List.mem_singleton_self _)
  | sendMessage _ hSent => exact ⟨_, h.keep rfl ⟨_, hSent.symm⟩⟩
  | @receive message link runtime hLink _ hRuntime =>
    have hStep : s.link.step .recvMessage = some link := hLink
    refine ⟨_, h.snoc hRuntime (SerialLink.sent_isPrefix hStep) rfl ?_⟩
    intro i error
    simp
  | read hLink => exact ⟨_, h.keep rfl (SerialLink.sent_isPrefix hLink)⟩
  | deviceRead => exact ⟨_, h.keep rfl (List.prefix_refl _)⟩
  | deviceSend => exact ⟨_, h.keep rfl (List.prefix_refl _)⟩

end Sent

section Answered

variable {i : CallId} {call : CommandCall}

theorem fromBytes_serialized {messages : List (Message .std)}
    (hKnown : ∀ message ∈ messages, ∃ other, message.toNoStd? = some other)
    : ((messages.map (Message.serialize .std)).filterMap (Message.fromBytes .noStd)).map some
        =
      messages.map Message.toNoStd? := by
  induction messages with
  | nil => rfl
  | cons message messages ih =>
    rcases hKnown message List.mem_cons_self with ⟨other, hOther⟩
    have hReads : Message.fromBytes .noStd (message.serialize .std) = some other :=
      (Message.reads_noStd hOther).fromBytes_eq
    have hRest := ih fun message hMessage => hKnown message (List.mem_cons_of_mem _ hMessage)
    rw [List.map_cons, List.filterMap_cons, hReads, List.map_cons, List.map_cons, hOther, hRest]

theorem Carried.decoded (h : s.Carried)
    (hFits : ∀ message ∈ s.link.accepted, fits .noStd (messageFrame .std message).length = true)
    (hKnown : ∀ message ∈ s.link.accepted, ∃ other, message.toNoStd? = some other)
    : ∃ read rest, s.link.accepted = read ++ rest ∧ s.device.decoded.map some = read.map Message.toNoStd? := by
  rcases h.sending with ⟨begun, queued, missing, hSending⟩
  rcases hSending.exists_written .noStd hFits with ⟨written, unwritten, stream, hBegun, hAll, _⟩
  rcases h.reads.parsed with ⟨payloads, hFront, hDecoded⟩
  have hWire : s.link.wire = s.link.wire.take s.device.taken ++ s.link.wire.drop s.device.taken :=
    (List.take_append_drop _ _).symm
  rw [hWire] at hAll
  have hPrefix : ∃ n, payloads = (written.take n).map (Message.serialize .std) := by
    refine ⟨payloads.length, ?_⟩
    rw [List.map_take]
    exact List.prefix_iff_eq_take.mp (pushBytes_isPrefix hFront hAll)
  rcases hPrefix with ⟨n, hPayloads⟩
  have hAccepted : s.link.accepted = written.take n ++ (written.drop n ++ unwritten ++ queued) := by
    rw [hSending.accepted, hBegun, ← List.append_assoc, ← List.append_assoc, List.take_append_drop]
  refine ⟨_, _, hAccepted, ?_⟩
  rw [hDecoded, hPayloads]
  apply fromBytes_serialized
  intro message hMessage
  apply hKnown
  rw [hAccepted]
  exact List.mem_append_left _ hMessage

end Answered

end Conversation

end Usb
end Enody
