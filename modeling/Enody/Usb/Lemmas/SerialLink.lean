import Enody.Message.Envelope
import Enody.Usb.Impl.SerialLink
import Enody.Usb.Lemmas.Receive

/-!
This module contains what an open serial connection delivers in each direction. What concurrent
`send_message` calls hand over is written in the order in which the calls return, and the device reads it
in that order without a gap; a call that has returned `Ok` is only known to be written when the task comes
back to its read. What the device sends is delivered in order, and completely as long as fewer than 64
messages wait to be received.
-/

namespace Enody
namespace Usb

open Serialization Transition

def SerialTask.unwritten : SerialTask → List UInt8
  | .writing remaining => remaining
  | _ => []

def SerialLinkLabel.readBytes : SerialLinkLabel → List UInt8
  | .read bytes => bytes
  | _ => []

namespace SerialLink

variable {link next : SerialLink} {label : SerialLinkLabel} {message : Message .std}

/--
What a step does. A write error loses the rest of the frame, and the other frames in `serial_rx` with it.
-/
inductive StepCase (link : SerialLink) : SerialLinkLabel → SerialLink → Prop where
  | refused {message : Message .std} {error : Error .std} :
      StepCase link (.sendMessage message) (link.returns message (.error error))
  | accepted {message : Message .std} :
      link.isEnded = false →
        StepCase link (.sendMessage message)
          { link.returns message (.ok ()) with
            serialRx := link.serialRx ++ [messageFrame .std message] }
  | received {receiver : Receiver} :
      link.receiver.recvMessage = some receiver →
        StepCase link .recvMessage { link with receiver := receiver }
  | disconnected :
      StepCase link .disconnect { link with connected := false, shutdown := true }
  | taken {payload : UsbDataBuffer} {serialRx : List UsbDataBuffer} :
      link.task = .draining → link.serialRx = payload :: serialRx →
        StepCase link .takePayload { link with task := .writing payload, serialRx := serialRx }
  | drained :
      link.task = .draining → link.serialRx = [] →
        StepCase link .takePayload { link with task := .reading }
  | wrote {remaining : List UInt8} {count : Nat} :
      link.task = .writing remaining → count ≤ remaining.length →
        StepCase link (.write count)
          { link with
            task := .writing (remaining.drop count)
            wire := link.wire ++ remaining.take count }
  | flushed : link.task = .writing [] → StepCase link .flush { link with task := .draining }
  | writeFailed {remaining : List UInt8} {detail : String} :
      link.task = .writing remaining →
        StepCase link (.writeError detail)
          { link with task := .ended (.error (.usbText detail)) }
  | read {bytes : List UInt8} :
      link.task = .reading → StepCase link (.read bytes) { link with task := .handling bytes }
  | timedOut : link.task = .reading → StepCase link .readTimeout { link with task := .polling }
  | readFailed {detail : String} :
      link.task = .reading →
        StepCase link (.readError detail) { link with task := .ended (.error (.usbText detail)) }
  | handledAll : link.task = .handling [] → StepCase link .handleByte { link with task := .polling }
  | handled {byte : UInt8} {bytes : List UInt8} {receiver : Receiver} :
      link.task = .handling (byte :: bytes) → link.receiver.handleByte byte = some receiver →
        StepCase link .handleByte { link with receiver := receiver, task := .handling bytes }
  | stopped :
      link.task = .polling → StepCase link .pollShutdown { link with task := .ended (.ok ()) }
  | resumed : link.task = .polling → StepCase link .pollShutdown { link with task := .draining }

theorem sendMessage_cases (hStep : link.sendMessage message = some next)
    : StepCase link (.sendMessage message) next := by
  unfold SerialLink.sendMessage at hStep
  split at hStep
  . rw [tryFromMessage_std] at hStep
    simp only at hStep
    split at hStep
    . injection hStep with hStep
      subst hStep
      exact .refused
    . next hRunning =>
      injection hStep with hStep
      subst hStep
      exact .accepted (by simpa using hRunning)
  . injection hStep with hStep
    subst hStep
    exact .refused

theorem handleByte_cases (hStep : link.handleByte = some next) : StepCase link .handleByte next := by
  unfold SerialLink.handleByte at hStep
  split at hStep
  . next hTask =>
    injection hStep with hStep
    subst hStep
    exact .handledAll hTask
  . next hTask =>
    rw [Option.map_eq_some_iff] at hStep
    rcases hStep with ⟨receiver, hReceiver, hEq⟩
    subst hEq
    exact .handled hTask hReceiver
  . contradiction

theorem pollShutdown_cases (hStep : link.pollShutdown = some next)
    : StepCase link .pollShutdown next := by
  unfold SerialLink.pollShutdown at hStep
  split at hStep
  . next hTask =>
    injection hStep with hStep
    subst hStep
    split
    . exact .stopped hTask
    . exact .resumed hTask
  . contradiction

theorem step_cases (hStep : link.step label = some next) : StepCase link label next := by
  cases label with
  | sendMessage message => exact sendMessage_cases hStep
  | handleByte => exact handleByte_cases hStep
  | pollShutdown => exact pollShutdown_cases hStep
  | recvMessage =>
    unfold step SerialLink.recvMessage at hStep
    simp only [Option.map_eq_some_iff] at hStep
    rcases hStep with ⟨receiver, hReceiver, hEq⟩
    subst hEq
    exact .received hReceiver
  | disconnect =>
    unfold step SerialLink.disconnect at hStep
    simp only [Option.ite_none_right_eq_some, Option.some.injEq] at hStep
    rw [← hStep.right]
    exact .disconnected
  | takePayload =>
    unfold step SerialLink.takePayload at hStep
    simp only at hStep
    split at hStep
    . next hTask hQueue =>
      injection hStep with hStep
      subst hStep
      exact .taken hTask hQueue
    . next hTask hQueue =>
      injection hStep with hStep
      subst hStep
      exact .drained hTask hQueue
    . contradiction
  | write count =>
    unfold step SerialLink.write at hStep
    simp only at hStep
    split at hStep
    . next hTask =>
      split at hStep
      . next hCount =>
        injection hStep with hStep
        subst hStep
        exact .wrote hTask hCount.right
      . contradiction
    . contradiction
  | flush =>
    unfold step SerialLink.flush at hStep
    simp only at hStep
    split at hStep
    . next hTask =>
      injection hStep with hStep
      subst hStep
      exact .flushed hTask
    . contradiction
  | writeError detail =>
    unfold step SerialLink.writeError at hStep
    simp only at hStep
    split at hStep
    . next hTask =>
      injection hStep with hStep
      subst hStep
      exact .writeFailed hTask
    . contradiction
  | read bytes =>
    unfold step SerialLink.read at hStep
    simp only at hStep
    split at hStep
    . next hTask =>
      rw [Option.ite_none_right_eq_some] at hStep
      rcases hStep with ⟨_, hStep⟩
      injection hStep with hStep
      subst hStep
      exact .read hTask
    . contradiction
  | readTimeout =>
    unfold step SerialLink.readTimeout at hStep
    simp only at hStep
    split at hStep
    . next hTask =>
      injection hStep with hStep
      subst hStep
      exact .timedOut hTask
    . contradiction
  | readError detail =>
    unfold step SerialLink.readError at hStep
    simp only at hStep
    split at hStep
    . next hTask =>
      injection hStep with hStep
      subst hStep
      exact .readFailed hTask
    . contradiction

@[simp]
theorem accepted_returns_ok (link : SerialLink) (message : Message .std)
    : (link.returns message (.ok ())).accepted = link.accepted ++ [message] := by
  simp [accepted, returns]

@[simp]
theorem accepted_returns_error (link : SerialLink) (message : Message .std) (error : Error .std)
    : (link.returns message (.error error)).accepted = link.accepted := by
  simp [accepted, returns]

section Sending

def frames (messages : List (Message .std)) : List UInt8 :=
  messages.flatMap (messageFrame .std)

/-
The bytes are the end of the last frame.
-/
def EndOfLast (bytes : List UInt8) (begun : List (Message .std)) : Prop :=
  bytes = [] ∨ ∃ before last part, begun = before ++ [last] ∧ messageFrame .std last = part ++ bytes

/--
The accepted messages are those whose writing has begun, in that order, and behind them those that wait in
`serial_rx`. `missing` is what the wire lacks of the frames that have begun.
-/
structure Sending (link : SerialLink) (begun queued : List (Message .std)) (missing : List UInt8)
    : Prop where
  accepted : link.accepted = begun ++ queued
  queue : link.serialRx = queued.map (messageFrame .std)
  wire : link.wire ++ missing = frames begun
  last : EndOfLast missing begun
  running : link.isEnded = false → missing = link.task.unwritten

def SendingInv (link : SerialLink) : Prop :=
  ∃ begun queued missing, Sending link begun queued missing

theorem SendingInv.initial : SendingInv initial :=
  ⟨[], [], [], rfl, rfl, rfl, .inl rfl, fun _ => rfl⟩

variable {begun queued : List (Message .std)} {missing : List UInt8}

theorem Sending.setTask (h : Sending link begun queued missing) {task : SerialTask}
    (hRunning : link.isEnded = false) (hTask : link.task.unwritten = []) (hNext : task.unwritten = [])
    : Sending { link with task := task } begun queued missing where
  accepted := h.accepted
  queue := h.queue
  wire := h.wire
  last := h.last
  running _ := by
    rw [h.running hRunning, hTask]
    exact hNext.symm

theorem Sending.step (h : Sending link begun queued missing) (hCase : StepCase link label next)
    : SendingInv next := by
  have hRunning (task : SerialTask) (hTask : link.task = task) (hTaskRunning : ∀ result, task ≠ .ended result)
      : link.isEnded = false := by
    unfold isEnded
    rw [hTask]
    cases task with
    | ended result => exact absurd rfl (hTaskRunning result)
    | _ => rfl
  cases hCase with
  | refused =>
    refine ⟨begun, queued, missing, ?_, h.queue, h.wire, h.last, h.running⟩
    rw [accepted_returns_error]
    exact h.accepted
  | @accepted message hOpen =>
    refine ⟨begun, queued ++ [message], missing, ?_, ?_, h.wire, h.last, h.running⟩
    . have hAccepted : ({ link.returns message (.ok ()) with
          serialRx := link.serialRx ++ [messageFrame .std message] } : SerialLink).accepted
            = link.accepted ++ [message] := accepted_returns_ok link message
      rw [hAccepted, h.accepted, List.append_assoc]
    . simp only [h.queue, List.map_append, List.map_cons, List.map_nil]
  | received => exact ⟨begun, queued, missing, h.accepted, h.queue, h.wire, h.last, h.running⟩
  | disconnected => exact ⟨begun, queued, missing, h.accepted, h.queue, h.wire, h.last, h.running⟩
  | @taken payload serialRx hTask hQueue =>
    -- the head of the queue is the next frame to be written
    have hMissing := h.running (hRunning _ hTask (by simp))
    rw [hTask] at hMissing
    have hWire := h.wire
    rw [hMissing] at hWire
    rw [h.queue] at hQueue
    cases queued with
    | nil => contradiction
    | cons first rest =>
      rw [List.map_cons] at hQueue
      injection hQueue with hFirst hRest
      refine ⟨begun ++ [first], rest, payload, ?_, hRest.symm, ?_, ?_, fun _ => rfl⟩
      . have hAccepted := h.accepted
        rw [List.append_cons] at hAccepted
        exact hAccepted
      . simp only [SerialTask.unwritten, List.append_nil] at hWire
        unfold frames at hWire ⊢
        rw [List.flatMap_append, ← hWire, ← hFirst]
        simp
      . exact .inr ⟨begun, first, [], rfl, hFirst⟩
  | drained hTask => exact ⟨_, _, _, h.setTask (hRunning _ hTask (by simp)) (by rw [hTask]; rfl) rfl⟩
  | @wrote remaining count hTask hCount =>
    have hMissing := h.running (hRunning _ hTask (by simp))
    rw [hTask] at hMissing
    have hSplit : remaining = remaining.take count ++ remaining.drop count :=
      (List.take_append_drop count remaining).symm
    refine ⟨begun, queued, remaining.drop count, h.accepted, h.queue, ?_, ?_, fun _ => rfl⟩
    . have hWire := h.wire
      rw [hMissing] at hWire
      simp only [SerialTask.unwritten] at hWire
      rw [hSplit, ← List.append_assoc] at hWire
      exact hWire
    . rcases h.last with hNil | ⟨before, last, part, hBegun, hFrame⟩
      . rw [hMissing] at hNil
        simp only [SerialTask.unwritten] at hNil
        rw [hNil, List.drop_nil]
        exact .inl rfl
      . refine .inr ⟨before, last, part ++ remaining.take count, hBegun, ?_⟩
        rw [hFrame, hMissing, List.append_assoc]
        simp only [SerialTask.unwritten, List.take_append_drop]
  | flushed hTask => exact ⟨_, _, _, h.setTask (hRunning _ hTask (by simp)) (by rw [hTask]; rfl) rfl⟩
  | writeFailed hTask =>
    exact ⟨begun, queued, missing, h.accepted, h.queue, h.wire, h.last, by simp [isEnded]⟩
  | read hTask => exact ⟨_, _, _, h.setTask (hRunning _ hTask (by simp)) (by rw [hTask]; rfl) rfl⟩
  | timedOut hTask => exact ⟨_, _, _, h.setTask (hRunning _ hTask (by simp)) (by rw [hTask]; rfl) rfl⟩
  | readFailed hTask =>
    exact ⟨_, _, _, h.setTask (hRunning _ hTask (by simp)) (by rw [hTask]; rfl) rfl⟩
  | handledAll hTask =>
    exact ⟨_, _, _, h.setTask (hRunning _ hTask (by simp)) (by rw [hTask]; rfl) rfl⟩
  | @handled byte bytes receiver hTask _ =>
    have hNext : Sending { link with task := .handling bytes } begun queued missing :=
      h.setTask (hRunning _ hTask (by simp)) (by rw [hTask]; rfl) rfl
    exact ⟨begun, queued, missing, hNext.accepted, hNext.queue, hNext.wire, hNext.last, hNext.running⟩
  | stopped hTask => exact ⟨_, _, _, h.setTask (hRunning _ hTask (by simp)) (by rw [hTask]; rfl) rfl⟩
  | resumed hTask => exact ⟨_, _, _, h.setTask (hRunning _ hTask (by simp)) (by rw [hTask]; rfl) rfl⟩

theorem run_sendingInv {ok : SerialLink → SerialLinkLabel → Prop} {labels : List SerialLinkLabel}
    (hRun : Run step ok initial labels link)
    : link.SendingInv := by
  apply hRun.invariant
  . exact .initial
  . intro s l t hInv _ hStep
    rcases hInv with ⟨begun, queued, missing, h⟩
    exact h.step (step_cases hStep)

theorem frames_eq (messages : List (Message .std))
    : frames messages = (messages.map (Message.serialize .std)).flatMap framed := by
  unfold frames
  rw [List.flatMap_map]
  rfl

theorem Sending.exists_written (h : Sending link begun queued missing) (peer : Build)
    (hFits : ∀ message ∈ link.accepted, fits peer (messageFrame .std message).length = true)
    : ∃ written rest stream,
        begun = written ++ rest
          ∧
        MessageStream.pushBytes peer .new link.wire
          =
        some (stream, written.map (Message.serialize .std))
          ∧
        (missing = [] → rest = [] ∧ stream = .new) := by
  have hBegun : ∀ message ∈ begun, fits peer (messageFrame .std message).length = true := by
    intro message hMessage
    apply hFits
    rw [h.accepted]
    exact List.mem_append_left _ hMessage
  have hPayloads (messages : List (Message .std)) (hSub : ∀ message ∈ messages, message ∈ begun)
      : ∀ payload ∈ messages.map (Message.serialize .std), fits peer (framed payload).length = true := by
    intro payload hPayload
    rcases List.mem_map.mp hPayload with ⟨message, hMessage, hEq⟩
    rw [← hEq]
    exact hBegun message (hSub message hMessage)
  by_cases hMissing : missing = []
  . have hWire := h.wire
    rw [hMissing, List.append_nil, frames_eq] at hWire
    refine ⟨begun, [], .new, by simp, ?_, fun _ => ⟨rfl, rfl⟩⟩
    rw [hWire]
    exact pushBytes_flatMap_framed _ (hPayloads begun (fun _ hMessage => hMessage))
  . rcases h.last with hNil | ⟨before, last, part, hSplit, hFrame⟩
    . exact absurd hNil hMissing
    . -- the wire ends inside of the last frame
      have hWire : link.wire = frames before ++ part := by
        have hAll := h.wire
        unfold frames at hAll ⊢
        rw [hSplit, List.flatMap_append] at hAll
        simp only [List.flatMap_cons, List.flatMap_nil, List.append_nil] at hAll
        rw [hFrame, ← List.append_assoc] at hAll
        exact List.append_cancel_right hAll
      have hFits : ∀ payload ∈ before.map (Message.serialize .std) ++ [last.serialize .std],
          fits peer (framed payload).length = true := by
        have hAll := hPayloads (before ++ [last]) (by intro message hMessage; rw [hSplit]; exact hMessage)
        rw [List.map_append] at hAll
        exact hAll
      have hTorn := pushBytes_torn (before.map (Message.serialize .std)) hFits hFrame hMissing
      rcases hTorn with ⟨stream, hTorn⟩
      rw [← frames_eq, ← hWire] at hTorn
      exact ⟨before, [last], stream, hSplit, hTorn, fun hNil => absurd hNil hMissing⟩

end Sending

/--
What a reader at the other end of the wire makes of it, when the frames fit its buffer: exactly the payloads of a
front part of the calls that have returned `Ok`, in their order, and of all of them once the task has nothing left to
write. A device of the `no_std` build reads each message that it can express as the one that means the same.
-/
theorem run_transmitted {labels : List SerialLinkLabel} (peer : Build)
    (hRun : Run step anyStep initial labels link)
    (hFits : ∀ message ∈ link.accepted, fits peer (messageFrame .std message).length = true)
    : ∃ written rest stream,
        link.accepted = written ++ rest
          ∧
        MessageStream.pushBytes peer .new link.wire = some (stream, written.map (Message.serialize .std))
          ∧
        (∀ message ∈ written, ∀ other, message.toNoStd? = some other →
          Message.fromBytes .noStd (message.serialize .std) = some other)
          ∧
        (link.flushed = true → rest = [] ∧ stream = .new) := by
  rcases run_sendingInv hRun with ⟨begun, queued, missing, h⟩
  rcases h.exists_written peer hFits with ⟨written, rest, stream, hBegun, hPush, hWhole⟩
  refine ⟨written, rest ++ queued, stream, ?_, hPush, ?_, ?_⟩
  . rw [h.accepted, hBegun, List.append_assoc]
  . intro message _ other hOther
    exact (Message.reads_noStd hOther).fromBytes_eq
  . intro hFlushed
    have hTask : link.isEnded = false ∧ link.task.unwritten = [] ∧ link.serialRx = [] := by
      unfold SerialLink.flushed at hFlushed
      unfold isEnded
      cases hTask : link.task <;> rw [hTask] at hFlushed <;> simp_all [SerialTask.unwritten]
    rcases hTask with ⟨hRunning, hUnwritten, hQueue⟩
    have hMissing := h.running hRunning
    rw [hUnwritten] at hMissing
    have hQueued : queued = [] := by
      have hMap := h.queue
      rw [hQueue] at hMap
      exact List.map_eq_nil_iff.mp hMap.symm
    rw [hQueued, List.append_nil]
    exact hWhole hMissing

def infoRequest : Message .std :=
  .command (.root 0 (.host .info) none)

def infoLabels : List SerialLinkLabel :=
  [.sendMessage infoRequest, .takePayload, .write 1, .write (messageFrame .std infoRequest).tail.length,
    .flush, .takePayload]

def infoSent : SerialLink :=
  { initial with
    task := .reading
    wire := messageFrame .std infoRequest
    sent := [⟨infoRequest, .ok ()⟩] }

theorem info_transmitted
    : ∃ written rest stream,
        infoSent.accepted = written ++ rest
          ∧
        MessageStream.pushBytes .noStd .new infoSent.wire = some (stream, written.map (Message.serialize .std))
          ∧
        (∀ message ∈ written, ∀ other, message.toNoStd? = some other →
          Message.fromBytes .noStd (message.serialize .std) = some other)
          ∧
        (infoSent.flushed = true → rest = [] ∧ stream = .new) := by
  have hRun : Run step anyStep initial infoLabels infoSent := Run.of_exec rfl
  have hOnly : infoSent.accepted = [infoRequest] := rfl
  apply run_transmitted .noStd hRun
  rw [hOnly, List.forall_mem_singleton]
  decide +kernel

section Receiving

/-
The condition on a step under which nothing is lost: the task handles a byte only while fewer than 64 messages
wait to be received.
-/
def hasRoom (link : SerialLink) : SerialLinkLabel → Prop
  | .handleByte => link.receiver.messages.hasRoom = true
  | _ => True

structure Receiving (labels : List SerialLinkLabel) (link : SerialLink) : Prop where
  inStep : link.receiver.InStep
  arrived : labels.flatMap SerialLinkLabel.readBytes = link.receiver.arrived ++ link.unhandled

theorem Receiving.initial : Receiving [] initial := ⟨.new, rfl⟩

variable {labels : List SerialLinkLabel}

theorem Receiving.frame (h : Receiving labels link) (hReceiver : next.receiver = link.receiver)
    (hUnhandled : next.unhandled = link.unhandled) (hRead : label.readBytes = [])
    : Receiving (labels ++ [label]) next where
  inStep := by
    rw [hReceiver]
    exact h.inStep
  arrived := by
    rw [hReceiver, hUnhandled, List.flatMap_append, h.arrived]
    simp [hRead]

theorem unhandled_of_task {task : SerialTask} (hTask : link.task = task)
    (hNone : ∀ bytes, task ≠ .handling bytes)
    : link.unhandled = [] := by
  unfold unhandled
  rw [hTask]
  cases task with
  | handling bytes => exact absurd rfl (hNone bytes)
  | _ => rfl

theorem Receiving.setTask (h : Receiving labels link) {task task' : SerialTask}
    (hTask : link.task = task) (hNone : ∀ bytes, task ≠ .handling bytes)
    (hNone' : ∀ bytes, task' ≠ .handling bytes) (hReceiver : next.receiver = link.receiver)
    (hNext : next.task = task') (hRead : label.readBytes = [])
    : Receiving (labels ++ [label]) next := by
  apply h.frame hReceiver _ hRead
  rw [unhandled_of_task hTask hNone, unhandled_of_task hNext hNone']

theorem Receiving.step (h : Receiving labels link) (hCase : StepCase link label next)
    : Receiving (labels ++ [label]) next := by
  cases hCase with
  | refused => exact h.frame rfl rfl rfl
  | accepted => exact h.frame rfl rfl rfl
  | disconnected => exact h.frame rfl rfl rfl
  | received hRecv =>
    rcases h.inStep.of_recvMessage hRecv with ⟨hInStep, hArrived, _⟩
    refine ⟨hInStep, ?_⟩
    rw [List.flatMap_append, h.arrived, hArrived]
    simp [SerialLinkLabel.readBytes, unhandled]
  | taken hTask => exact h.setTask hTask (by simp) (by simp) rfl rfl rfl
  | drained hTask => exact h.setTask hTask (by simp) (by simp) rfl rfl rfl
  | wrote hTask => exact h.setTask hTask (by simp) (by simp) rfl rfl rfl
  | flushed hTask => exact h.setTask hTask (by simp) (by simp) rfl rfl rfl
  | writeFailed hTask => exact h.setTask hTask (by simp) (by simp) rfl rfl rfl
  | @read bytes hTask =>
    refine ⟨h.inStep, ?_⟩
    have hArrived := h.arrived
    rw [unhandled_of_task hTask (by simp), List.append_nil] at hArrived
    rw [List.flatMap_append, hArrived]
    simp [SerialLinkLabel.readBytes, unhandled]
  | timedOut hTask => exact h.setTask hTask (by simp) (by simp) rfl rfl rfl
  | readFailed hTask => exact h.setTask hTask (by simp) (by simp) rfl rfl rfl
  | handledAll hTask =>
    have hUnhandled : link.unhandled = [] := by
      unfold unhandled
      rw [hTask]
    exact h.frame rfl hUnhandled.symm rfl
  | @handled byte bytes receiver hTask hHandle =>
    -- the byte moves from the read to the receiver
    rcases h.inStep.of_handleByte hHandle with ⟨hInStep, hArrived, _⟩
    refine ⟨hInStep, ?_⟩
    have hBefore := h.arrived
    unfold unhandled at hBefore ⊢
    rw [hTask] at hBefore
    rw [List.flatMap_append, hBefore]
    simp only [List.flatMap_cons, List.flatMap_nil, SerialLinkLabel.readBytes, List.append_nil, hArrived,
      List.append_assoc, List.singleton_append]
  | stopped hTask => exact h.setTask hTask (by simp) (by simp) rfl rfl rfl
  | resumed hTask => exact h.setTask hTask (by simp) (by simp) rfl rfl rfl

theorem run_receiving {ok : SerialLink → SerialLinkLabel → Prop}
    (hRun : Run step ok initial labels link)
    : Receiving labels link := by
  apply hRun.invariant_of_labels (motive := Receiving)
  . exact .initial
  . intro labels s l t h _ hStep
    exact h.step (step_cases hStep)

theorem lossless_step (hInStep : link.receiver.InStep) (hLossless : link.receiver.messages.Lossless)
    (hOk : link.hasRoom label) (hCase : StepCase link label next)
    : next.receiver.messages.Lossless := by
  cases hCase with
  | received hRecv => exact Receiver.Lossless.of_recvMessage hLossless hRecv
  | handled _ hHandle => exact Receiver.Lossless.of_handleByte hInStep hLossless hOk hHandle
  | _ => exact hLossless

theorem run_lossless (hRun : Run step hasRoom initial labels link)
    : link.receiver.messages.Lossless := by
  have h : Receiving labels link ∧ link.receiver.messages.Lossless := by
    apply hRun.invariant_of_labels
      (motive := fun labels s => Receiving labels s ∧ s.receiver.messages.Lossless)
    . exact ⟨.initial, .empty⟩
    . rintro labels s l t ⟨hReceiving, hLossless⟩ hOk hStep
      have hCase := step_cases hStep
      exact ⟨hReceiving.step hCase, lossless_step hReceiving.inStep hLossless hOk hCase⟩
  exact h.right

/--
What has been received and what waits is, in order, part of the messages in the bytes that the task has
handled. It is all of them when the task never handles a byte while 64 messages wait.
-/
theorem run_received (hRun : Run step anyStep initial labels link)
    : ∃ handled,
        labels.flatMap SerialLinkLabel.readBytes = handled ++ link.unhandled
          ∧
        link.receiver.messages.delivered.Sublist (decoded handled)
          ∧
        (Run step hasRoom initial labels link → link.receiver.messages.delivered = decoded handled) := by
  have h := run_receiving hRun
  refine ⟨_, h.arrived, h.inStep.delivered_sublist, ?_⟩
  intro hRoom
  rw [← h.inStep.offered]
  exact run_lossless hRoom

/--
The device sends frames of its own build behind whatever has arrived before, say what is left of a frame
that was cut off. Once the task has handled them, all of their messages but at most the first one and the
USB errors have been delivered, in order and without a repetition.
-/
theorem run_received_frames {before : List UInt8} {message : Message .noStd}
    {messages : List (Message .noStd)}
    (hRun : Run step hasRoom initial labels link)
    (hBytes : labels.flatMap SerialLinkLabel.readBytes
      = before ++ messageFrame .noStd message ++ messages.flatMap (messageFrame .noStd))
    (hHandled : link.unhandled = [])
    : ∃ emitted read : List (Message .std),
        link.receiver.messages.delivered = decoded before ++ emitted ++ read
          ∧
        emitted.length ≤ 1
          ∧
        read.map Message.toNoStd? = (messages.filter fun other => !other.usbError).map some := by
  have h := run_receiving hRun
  have hArrived := h.arrived
  have hDelivered : link.receiver.messages.delivered = decoded link.receiver.arrived := by
    rw [← h.inStep.offered]
    exact run_lossless hRun
  rw [hHandled, List.append_nil, hBytes] at hArrived
  rw [hDelivered, ← hArrived]
  exact decoded_messageFrames before message messages

/-
A frame that was cut off in front of two messages of the device.
-/
def deviceBytes : List UInt8 :=
  [controlCharStx, 7] ++ messageFrame .noStd (.command (.root 1 .internal none))
    ++ messageFrame .noStd (.command (.root 2 .internal none))

def deviceLabels : List SerialLinkLabel :=
  [.takePayload, .read deviceBytes] ++ List.replicate (deviceBytes.length + 1) .handleByte

theorem device_link
    : ∃ link, Run step hasRoom initial deviceLabels link ∧ link.unhandled = [] := by
  have hExec : (execIf step (fun link _ => link.receiver.messages.hasRoom) initial deviceLabels).map
      (fun link => link.unhandled) = some [] := by decide +kernel
  rcases Run.exists_of_execIf hExec with ⟨link, hRun, hHandled⟩
  refine ⟨link, ?_, hHandled⟩
  apply hRun.mono
  intro s l hOk
  cases l with
  | handleByte => exact hOk
  | _ => trivial

theorem device_received
    : ∃ link,
        Run step anyStep initial deviceLabels link
          ∧
        ∃ handled,
          deviceLabels.flatMap SerialLinkLabel.readBytes = handled ++ link.unhandled
            ∧
          link.receiver.messages.delivered.Sublist (decoded handled)
            ∧
          (Run step hasRoom initial deviceLabels link →
            link.receiver.messages.delivered = decoded handled) := by
  rcases device_link with ⟨link, hRun, _⟩
  have hAny : Run step anyStep initial deviceLabels link := hRun.mono fun _ _ _ => trivial
  exact ⟨link, hAny, run_received hAny⟩

theorem device_frames_received
    : ∃ link,
        Run step hasRoom initial deviceLabels link
          ∧
        ∃ emitted read : List (Message .std),
          link.receiver.messages.delivered = decoded [controlCharStx, 7] ++ emitted ++ read
            ∧
          emitted.length ≤ 1
            ∧
          read.map Message.toNoStd? = [some (.command (.root 2 .internal none))] := by
  rcases device_link with ⟨link, hRoom, hHandled⟩
  have hBytes : deviceLabels.flatMap SerialLinkLabel.readBytes
      = [controlCharStx, 7] ++ messageFrame .noStd (.command (.root 1 .internal none))
        ++ [Message.command (.root 2 .internal none)].flatMap (messageFrame .noStd) := by decide +kernel
  exact ⟨link, hRoom, run_received_frames hRoom hBytes hHandled⟩

end Receiving

end SerialLink

end Usb
end Enody
