import Enody.Message.Compatible
import Enody.Wifi.Lemmas.FrameStream

/-!
This module contains what the read task of a WiFi connection delivers. It loses nothing: the messages that have
been received, those in the channel and the one that waits for room are the messages of the frames that
it has read. A USB error of the device, which the `std` build cannot read, ends it.
-/

namespace Enody
namespace Wifi

open Transition

def ReadTaskLabel.arrived : ReadTaskLabel → List UInt8
  | .arrive bytes => bytes
  | _ => []

namespace ReadTask

variable {noise : Noise} {task next : ReadTask} {label : ReadTaskLabel} {labels : List ReadTaskLabel}

inductive StepCase (noise : Noise) (task : ReadTask) : ReadTaskLabel → ReadTask → Prop where
  | arrived {bytes : List UInt8} :
      StepCase noise task (.arrive bytes) { task with socket := task.socket ++ bytes }
  | closed : StepCase noise task .close { task with closed := true }
  | socketFailed {detail : String} :
      task.phase = .reading →
        StepCase noise task (.socketError detail)
          { task with phase := .ended (.error (.debugText detail)) }
  | streamEnded :
      task.phase = .reading → task.closed = true →
        StepCase noise task .readFrame { task with phase := .ended (.error earlyEof) }
  | frameFailed {error : Error .std} :
      task.phase = .reading → Fails (handleFrame noise) task.counter task.socket error →
        StepCase noise task .readFrame { task with phase := .ended (.error error) }
  | frameRead {frame : Response} {rest : List UInt8} {message : Message .std} :
      task.phase = .reading → Wifi.readFrame responsePostcard task.socket = .frame frame rest →
        handleFrame noise task.counter frame = .ok message →
        StepCase noise task .readFrame
          { task with
            socket := rest
            counter := task.counter + 1
            phase := .sending message }
  | sent {message : Message .std} {messages : Feed (Message .std) messageChannelSize} :
      task.phase = .sending message → task.messages.send message = some messages →
        StepCase noise task .sendMessage { task with phase := .reading, messages := messages }
  | sendFailed {message : Message .std} :
      task.phase = .sending message → task.receiverOpen = false →
        StepCase noise task .sendMessage { task with phase := .ended (.ok ()) }
  | received {messages : Feed (Message .std) messageChannelSize} :
      task.messages.recv = some messages →
        StepCase noise task .recvMessage { task with messages := messages }
  | receiverDropped : StepCase noise task .dropReceiver { task with receiverOpen := false }
  | aborted : StepCase noise task .abort { task with phase := .aborted }

theorem readFrame_cases (hStep : task.readFrame noise = some next)
    : StepCase noise task .readFrame next := by
  unfold ReadTask.readFrame at hStep
  split at hStep
  . next hPhase =>
    split at hStep
    . rw [Option.ite_none_right_eq_some] at hStep
      rcases hStep with ⟨hClosed, hStep⟩
      injection hStep with hStep
      subst hStep
      exact .streamEnded hPhase hClosed
    . next error hRead =>
      injection hStep with hStep
      subst hStep
      exact .frameFailed hPhase (.inl hRead)
    . next frame rest hRead =>
      split at hStep
      . next error hHandle =>
        injection hStep with hStep
        subst hStep
        exact .frameFailed hPhase (.inr ⟨frame, rest, hRead, hHandle⟩)
      . next message hHandle =>
        injection hStep with hStep
        subst hStep
        exact .frameRead hPhase hRead hHandle
  . contradiction

theorem sendMessage_cases (hStep : task.sendMessage = some next)
    : StepCase noise task .sendMessage next := by
  unfold ReadTask.sendMessage at hStep
  split at hStep
  . next message hPhase =>
    split at hStep
    . rw [Option.map_eq_some_iff] at hStep
      rcases hStep with ⟨messages, hSend, hEq⟩
      subst hEq
      exact .sent hPhase hSend
    . next hClosed =>
      injection hStep with hStep
      subst hStep
      exact .sendFailed hPhase (by simpa using hClosed)
  . contradiction

theorem step_cases (hStep : task.step noise label = some next) : StepCase noise task label next := by
  cases label with
  | readFrame => exact readFrame_cases hStep
  | sendMessage => exact sendMessage_cases hStep
  | arrive bytes =>
    unfold step ReadTask.arrive at hStep
    simp only [Option.ite_none_left_eq_some] at hStep
    rcases hStep with ⟨_, hStep⟩
    injection hStep with hStep
    subst hStep
    exact .arrived
  | close =>
    injection hStep with hStep
    subst hStep
    exact .closed
  | socketError detail =>
    unfold step ReadTask.socketError at hStep
    simp only at hStep
    split at hStep
    . next hPhase =>
      injection hStep with hStep
      subst hStep
      exact .socketFailed hPhase
    . contradiction
  | recvMessage =>
    unfold step ReadTask.recvMessage at hStep
    simp only [Option.ite_none_right_eq_some, Option.map_eq_some_iff] at hStep
    rcases hStep with ⟨_, messages, hRecv, hEq⟩
    subst hEq
    exact .received hRecv
  | dropReceiver =>
    injection hStep with hStep
    subst hStep
    exact .receiverDropped
  | abort =>
    unfold step ReadTask.abort at hStep
    simp only at hStep
    split at hStep
    . contradiction
    . injection hStep with hStep
      subst hStep
      exact .aborted

def stopped (task : ReadTask) : Bool :=
  match task.phase with
  | .aborted => true
  | .ended (.ok _) => true
  | _ => false

/--
The frames that have been read carry what has been delivered and the message that is not handed over yet.
-/
structure Delivers (noise : Noise) (labels : List ReadTaskLabel) (task : ReadTask)
    (pending : List (Message .std))
    : Prop where
  lossless : task.messages.Lossless
  counter : task.counter = (task.messages.delivered ++ pending).length
  carries : Carries (handleFrame noise) 0 (labels.flatMap ReadTaskLabel.arrived) (task.messages.delivered ++ pending)
    task.socket
  running : task.stopped = false → pending = task.blocked

variable {pending : List (Message .std)}

theorem Delivers.initial : Delivers noise [] initial [] where
  lossless := .empty
  counter := rfl
  carries := .nil
  running _ := rfl

theorem Delivers.frame (h : Delivers noise labels task pending) (hMessages : next.messages = task.messages)
    (hCounter : next.counter = task.counter) (hSocket : next.socket = task.socket)
    (hLabel : label.arrived = []) (hRunning : next.stopped = false → pending = next.blocked)
    : Delivers noise (labels ++ [label]) next pending where
  lossless := by
    rw [hMessages]
    exact h.lossless
  counter := by
    rw [hMessages, hCounter]
    exact h.counter
  carries := by
    rw [hMessages, hSocket, List.flatMap_append]
    simpa [hLabel] using h.carries
  running := hRunning

theorem pending_of_reading (h : Delivers noise labels task pending) (hPhase : task.phase = .reading)
    : pending = [] := by
  have hRunning := h.running
  unfold stopped blocked at hRunning
  rw [hPhase] at hRunning
  exact hRunning rfl

theorem pending_of_sending {message : Message .std} (h : Delivers noise labels task pending)
    (hPhase : task.phase = .sending message)
    : pending = [message] := by
  have hRunning := h.running
  unfold stopped blocked at hRunning
  rw [hPhase] at hRunning
  exact hRunning rfl

theorem Delivers.step (h : Delivers noise labels task pending) (hCase : StepCase noise task label next)
    : ∃ pending', Delivers noise (labels ++ [label]) next pending' := by
  cases hCase with
  | @arrived bytes =>
    refine ⟨pending, h.lossless, h.counter, ?_, h.running⟩
    rw [List.flatMap_append]
    simpa [ReadTaskLabel.arrived] using h.carries.append bytes
  | closed => exact ⟨pending, h.frame rfl rfl rfl rfl h.running⟩
  | receiverDropped => exact ⟨pending, h.frame rfl rfl rfl rfl h.running⟩
  | socketFailed hPhase => exact ⟨pending, h.frame rfl rfl rfl rfl fun _ => pending_of_reading h hPhase⟩
  | streamEnded hPhase => exact ⟨pending, h.frame rfl rfl rfl rfl fun _ => pending_of_reading h hPhase⟩
  | frameFailed hPhase => exact ⟨pending, h.frame rfl rfl rfl rfl fun _ => pending_of_reading h hPhase⟩
  | sendFailed => exact ⟨pending, h.frame rfl rfl rfl rfl (by simp [stopped])⟩
  | aborted => exact ⟨pending, h.frame rfl rfl rfl rfl (by simp [stopped])⟩
  | @frameRead frame rest message hPhase hRead hHandle =>
    -- nothing was pending, so the message is the next one that the stream carries
    have hCounter := h.counter
    have hCarries := h.carries
    rw [pending_of_reading h hPhase, List.append_nil] at hCounter hCarries
    refine ⟨[message], h.lossless, ?_, ?_, fun _ => rfl⟩
    . simp only [List.length_append, List.length_singleton, hCounter]
    . rw [List.flatMap_append]
      simp only [List.flatMap_cons, List.flatMap_nil, ReadTaskLabel.arrived, List.append_nil]
      apply hCarries.snoc hRead
      rw [Nat.zero_add, ← hCounter]
      exact hHandle
  | @sent message messages hPhase hSend =>
    rcases Feed.of_send hSend with ⟨_, hDelivered⟩
    have hPending := pending_of_sending h hPhase
    have hAll : messages.delivered ++ [] = task.messages.delivered ++ pending := by
      rw [hDelivered, hPending, List.append_nil]
    refine ⟨[], h.lossless.send hSend, ?_, ?_, fun _ => rfl⟩
    . simp only [hAll]
      exact h.counter
    . simp only [hAll, List.flatMap_append]
      simpa [ReadTaskLabel.arrived] using h.carries
  | @received messages hRecv =>
    rcases Feed.of_recv hRecv with ⟨_, hDelivered⟩
    refine ⟨pending, h.lossless.recv hRecv, ?_, ?_, h.running⟩
    . simp only [hDelivered]
      exact h.counter
    . simp only [hDelivered, List.flatMap_append]
      simpa [ReadTaskLabel.arrived] using h.carries

theorem run_delivers {ok : ReadTask → ReadTaskLabel → Prop} (hRun : Run (step noise) ok initial labels task)
    : ∃ pending, Delivers noise labels task pending := by
  apply hRun.invariant_of_labels (motive := fun labels s => ∃ pending, Delivers noise labels s pending)
  . exact ⟨[], .initial⟩
  . rintro labels s l t ⟨pending, h⟩ _ hStep
    exact h.step (step_cases hStep)

/--
Nothing is lost or repeated, however the bytes arrive and however slowly the messages are received: what has
been received, what waits in the channel and, unless the task has been stopped, the message that waits for
room are the messages of the frames that have been read, in order.
-/
theorem run_delivered (noise : Noise) (hRun : Run (step noise) anyStep initial labels task)
    : ∃ pending,
        Carries (handleFrame noise) 0 (labels.flatMap ReadTaskLabel.arrived) (task.messages.delivered ++ pending)
          task.socket
          ∧
        (task.stopped = false → pending = task.blocked)
          ∧
        task.messages.Lossless := by
  rcases run_delivers hRun with ⟨pending, h⟩
  exact ⟨pending, h.carries, h.running, h.lossless⟩

/-
A command, and a USB error that the task cannot read.
-/
def deviceMessages : List (Message .noStd) :=
  let failed : Error .noStd := .usb (show USBError .noStd from ())
  [.command ⟨1, none, none, .host .info⟩, .event ⟨2, none, none, .error failed⟩]

def deviceStream : List UInt8 := deviceMessages.zipIdx.flatMap fun (message, i) => deviceFrame .noise i message

def deviceLabels : List ReadTaskLabel :=
  [.arrive (deviceStream.take 50), .readFrame, .sendMessage, .arrive (deviceStream.drop 50), .readFrame,
    .recvMessage]

theorem device_run
    : ∃ task, Run (step nonceTagNoise) anyStep initial deviceLabels task
        ∧ task.messages.received.length = 1 := by
  apply Run.exists_of_exec
  decide +kernel

theorem device_delivered
    : ∃ (task : ReadTask) (pending : List (Message .std)),
        task.messages.received.length = 1
          ∧
        Carries (handleFrame nonceTagNoise) 0 (deviceLabels.flatMap ReadTaskLabel.arrived)
          (task.messages.delivered ++ pending) task.socket := by
  rcases device_run with ⟨task, hRun, hLength⟩
  rcases run_delivered nonceTagNoise hRun with ⟨pending, hCarries, _⟩
  exact ⟨task, pending, hLength, hCarries⟩

end ReadTask

end Wifi
end Enody
