import Enody.Wifi.Lemmas.ReadTask

/-!
This module contains what the read task of a WiFi connection makes of the frames of a device, which encrypts
the messages of its own build one after the other. They are delivered in order up to the first USB error,
which the `std` build cannot read: there the task ends.
-/

namespace Enody
namespace Wifi

open Transition

theorem nonceTagNoise_roundTrips : nonceTagNoise.RoundTrips := by
  intro nonce plaintext ciphertext hWrite
  rcases nonceTagNoise_write hWrite with ⟨hSmall, hEq⟩
  rw [hEq, nonceTagNoise_read]
  simp [hSmall]

def ReadsMessage (message : Message .noStd) (result : Except (Error .std) (Message .std)) : Prop :=
  if message.usbError then
    result = .error .serialization
  else
    ∃ other, result = .ok other ∧ Message.toNoStd? other = some message

theorem fromBytes_device (message : Message .noStd)
    : if message.usbError then
        Message.fromBytes .std (message.serialize .noStd) = none
      else
        ∃ other,
          Message.fromBytes .std (message.serialize .noStd) = some other
            ∧
          Message.toNoStd? other = some message := by
  split
  . next hUsb =>
    unfold Message.fromBytes Serde.fromBytes
    rw [Message.run_usbError message hUsb]
    rfl
  . next hUsb =>
    rcases Message.reads_std message (by simpa using hUsb) with ⟨other, hOther, hReads⟩
    exact ⟨other, hReads.fromBytes_eq, hOther⟩

theorem handleFrame_device {noise : Noise} (hNoise : noise.RoundTrips)
    : ReadsDevice .noise noise (handleFrame noise) ReadsMessage := by
  intro counter message payload hWrite
  have hRead := hNoise _ _ _ hWrite
  have hBytes := fromBytes_device message
  unfold ReadsMessage
  split at hBytes
  . next hUsb => simp only [handleFrame, hRead, hBytes, hUsb, ↓reduceIte]
  . next hUsb =>
    rcases hBytes with ⟨other, hFromBytes, hOther⟩
    simp only [handleFrame, hRead, hFromBytes, hUsb]
    exact ⟨other, rfl, hOther⟩

theorem of_readsMessage {done : List (Message .noStd)} {got : List (Message .std)}
    (h : List.Forall₂ (fun message value => ReadsMessage message (.ok value)) done got)
    : got.map Message.toNoStd? = done.map some ∧ ∀ message ∈ done, message.usbError = false := by
  induction h with
  | nil => exact ⟨rfl, by simp⟩
  | @cons message value done got hReads _ ih =>
    unfold ReadsMessage at hReads
    split at hReads
    . contradiction
    . next hUsb =>
      rcases hReads with ⟨other, hOther, hValue⟩
      injection hOther with hOther
      subst hOther
      rw [List.map_cons, List.map_cons, hValue, ih.left, List.forall_mem_cons]
      exact ⟨rfl, by simpa using hUsb, ih.right⟩

namespace ReadTask

variable {noise : Noise} {task next : ReadTask} {label : ReadTaskLabel} {labels : List ReadTaskLabel}

/--
The reasons for which the task can end with an error.
-/
inductive EndedBy (noise : Noise) (labels : List ReadTaskLabel) (task : ReadTask) (error : Error .std) : Prop where
  | socket (detail : String) (hLabel : .socketError detail ∈ labels)
  | stream (hClosed : .close ∈ labels)
  | frame (hFails : Fails (handleFrame noise) task.counter task.socket error)

def Explained (noise : Noise) (labels : List ReadTaskLabel) (task : ReadTask) : Prop :=
  (task.closed = true → .close ∈ labels)
    ∧
  ∀ error, task.phase = .ended (.error error) → EndedBy noise labels task error

theorem EndedBy.of_eq {error : Error .std} (h : EndedBy noise labels task error) {more : List UInt8}
    (hCounter : next.counter = task.counter) (hSocket : next.socket = task.socket ++ more)
    : EndedBy noise (labels ++ [label]) next error := by
  cases h with
  | socket detail hLabel => exact .socket detail (List.mem_append_left _ hLabel)
  | stream hClosed => exact .stream (List.mem_append_left _ hClosed)
  | frame hFails =>
    refine .frame ?_
    rw [hCounter, hSocket]
    exact hFails.append more

theorem Explained.step (h : Explained noise labels task) (hCase : StepCase noise task label next)
    : Explained noise (labels ++ [label]) next := by
  rcases h with ⟨hClosed, hEnded⟩
  have hLater : task.closed = true → ReadTaskLabel.close ∈ labels ++ [label] := fun h =>
    List.mem_append_left _ (hClosed h)
  cases hCase with
  | @arrived bytes => exact ⟨hLater, fun error hPhase => (hEnded error hPhase).of_eq rfl rfl⟩
  | closed =>
    refine ⟨fun _ => by simp, fun error hPhase => ?_⟩
    exact (hEnded error hPhase).of_eq rfl (List.append_nil _).symm
  | @socketFailed detail => exact ⟨hLater, fun _ _ => .socket detail (by simp)⟩
  | streamEnded _ hStream => exact ⟨hLater, fun _ _ => .stream (hLater hStream)⟩
  | frameFailed _ hFails =>
    refine ⟨hLater, fun error hPhase => .frame ?_⟩
    injection hPhase with hPhase
    injection hPhase with hPhase
    subst hPhase
    exact hFails
  | received =>
    refine ⟨hLater, fun error hPhase => ?_⟩
    exact (hEnded error hPhase).of_eq rfl (List.append_nil _).symm
  | receiverDropped =>
    refine ⟨hLater, fun error hPhase => ?_⟩
    exact (hEnded error hPhase).of_eq rfl (List.append_nil _).symm
  | frameRead => exact ⟨hLater, fun _ hPhase => by contradiction⟩
  | sent => exact ⟨hLater, fun _ hPhase => by contradiction⟩
  | sendFailed => exact ⟨hLater, fun _ hPhase => by injection hPhase with hPhase; contradiction⟩
  | aborted => exact ⟨hLater, fun _ hPhase => by contradiction⟩

theorem run_explained {ok : ReadTask → ReadTaskLabel → Prop} (hRun : Run (step noise) ok initial labels task)
    : Explained noise labels task := by
  apply hRun.invariant_of_labels (motive := fun labels s => Explained noise labels s)
  . exact ⟨by intro h; contradiction, fun _ hPhase => by contradiction⟩
  . intro labels s l t h _ hStep
    exact h.step (step_cases hStep)

/--
A device has written frames for `messages`, of which a part has arrived in any pieces. What the task delivers
is a front part of the messages, none of them a USB error, in order, and all of them once everything has
arrived and the task has nothing more to read. If the socket does not fail and the device does not close it, the
only thing that ends the task with an error is a USB error of the device, behind everything that was sent
before it.
-/
theorem run_delivered_device (noise : Noise) (hNoise : noise.RoundTrips) {messages : List (Message .noStd)}
    {more : List UInt8}
    (hRun : Run (step noise) anyStep initial labels task)
    (hDevice : DeviceFrames .noise noise 0 messages (labels.flatMap ReadTaskLabel.arrived ++ more))
    : ∃ pending done left,
        messages = done ++ left
          ∧
        (task.messages.delivered ++ pending).map Message.toNoStd? = done.map some
          ∧
        (∀ message ∈ done, message.usbError = false)
          ∧
        (task.stopped = false → pending = task.blocked)
          ∧
        (task.phase = .reading → task.step noise .readFrame = none → more = [] → left = [])
          ∧
        ((∀ detail, ReadTaskLabel.socketError detail ∉ labels) → ReadTaskLabel.close ∉ labels →
          ∀ error, task.phase = .ended (.error error) →
            error = .serialization ∧ ∃ message after, left = message :: after ∧ message.usbError = true) := by
  rcases run_delivers hRun with ⟨pending, h⟩
  have hReads := handleFrame_device hNoise
  rcases DeviceFrames.of_carries hReads h.carries hDevice with ⟨done, left, hSplit, hAll, hLeft⟩
  rcases of_readsMessage hAll with ⟨hDone, hNone⟩
  rw [Nat.zero_add, ← h.counter] at hLeft
  refine ⟨pending, done, left, hSplit, hDone, hNone, h.running, ?_, ?_⟩
  . intro hPhase hStuck hMore
    rw [hMore, List.append_nil] at hLeft
    apply hLeft.eq_nil_of_pending
    -- otherwise there would be a step
    unfold step readFrame at hStuck
    rw [hPhase] at hStuck
    simp only at hStuck
    split at hStuck
    . assumption
    . contradiction
    . split at hStuck <;> contradiction
  . intro hSocket hClose error hPhase
    cases (run_explained hRun).right error hPhase with
    | socket detail hLabel => exact absurd hLabel (hSocket detail)
    | stream hClosed => exact absurd hClosed hClose
    | frame hFails =>
      rcases hLeft.of_fails hReads hFails with ⟨message, after, hMessage, hError⟩
      unfold ReadsMessage at hError
      split at hError
      . next hUsb =>
        injection hError with hError
        exact ⟨hError, message, after, hMessage, hUsb⟩
      . rcases hError with ⟨other, hOther, _⟩
        contradiction

theorem device_frames : DeviceFrames .noise nonceTagNoise 0 deviceMessages deviceStream := by
  show DeviceFrames .noise nonceTagNoise 0 deviceMessages
    (deviceFrame .noise 0 deviceMessages[0] ++ (deviceFrame .noise 1 deviceMessages[1] ++ []))
  have hFirst : ((deviceMessages[0].serialize .noStd) ++ noiseTag 0).length ≤ wifiFramePayloadMaxLen := by
    decide +kernel
  have hSecond : ((deviceMessages[1].serialize .noStd) ++ noiseTag 1).length ≤ wifiFramePayloadMaxLen := by
    decide +kernel
  have hRest : DeviceFrames .noise nonceTagNoise 1 [deviceMessages[1]] (deviceFrame .noise 1 deviceMessages[1] ++ []) :=
    @DeviceFrames.cons _ _ _ _ _ ⟨_, hSecond⟩ _ _ rfl rfl .nil
  exact @DeviceFrames.cons _ _ _ _ _ ⟨_, hFirst⟩ _ _ rfl rfl hRest

theorem device_messages_delivered
    : ∃ (task : ReadTask) (pending : List (Message .std)) (done left : List (Message .noStd)),
        task.messages.received.length = 1
          ∧
        deviceMessages = done ++ left
          ∧
        (task.messages.delivered ++ pending).map Message.toNoStd? = done.map some := by
  rcases device_run with ⟨task, hRun, hLength⟩
  have hStream : deviceLabels.flatMap ReadTaskLabel.arrived ++ [] = deviceStream := by decide +kernel
  rcases run_delivered_device nonceTagNoise nonceTagNoise_roundTrips hRun (hStream ▸ device_frames)
    with ⟨pending, done, left, hSplit, hDone, _⟩
  exact ⟨task, pending, done, left, hLength, hSplit, hDone⟩

end ReadTask

end Wifi
end Enody
