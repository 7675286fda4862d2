import Enody.Wifi.Impl.Codec
import Enody.Wifi.Lemmas.SendMessage

/-!
This module contains that the size limits of the WiFi frames agree: every request and response fits into
a frame, frames are read back in order until the stream is cut, and a message that `send_message` does not
refuse at the start fits into every buffer after that.
-/

namespace Enody
namespace Wifi

open Transition

/--
What a value needs to pass the checks of `write_frame` and `read_frame`, and to be read back.
-/
structure Framed {α : Type} (postcard : Postcard α) (value : α) (payload : List UInt8) : Prop where
  encodes : postcard.toAllocvec value = some payload
  decodes : postcard.fromBytes payload = some value
  pos : 0 < payload.length
  le_frameMaxLen : payload.length ≤ frameMaxLen
  lt_u16 : payload.length < 65536

namespace Framed

variable {α : Type} {postcard : Postcard α} {value : α} {payload : List UInt8}

theorem of_codec {codec : Serde.Codec α} (max : Nat) (hMax : codec.maxSize = some max)
    (hLimit : max ≤ frameMaxLen) (value : α) (hPos : 0 < (codec.serialize value).length)
    : Framed (postcardOf codec) value (codec.serialize value) where
  encodes := rfl
  decodes := (codec.reads value).fromBytes_eq
  pos := hPos
  le_frameMaxLen := Nat.le_trans (codec.length_le max hMax value) hLimit
  lt_u16 := by
    have hLength := codec.length_le max hMax value
    have hU16 : frameMaxLen < 65536 := by decide
    omega

theorem writeFrame_eq (h : Framed postcard value payload)
    : writeFrame postcard value = .ok (u16ToBeBytes payload.length ++ payload) := by
  unfold writeFrame
  simp only [h.encodes, h.lt_u16, ↓reduceIte]

theorem readFrame_eq (h : Framed postcard value payload) (rest : List UInt8)
    : readFrame postcard (u16ToBeBytes payload.length ++ payload ++ rest) = .frame value rest :=
  readFrame_append postcard value payload rest h.decodes h.pos h.le_frameMaxLen

theorem readFrame_pending (h : Framed postcard value payload) {before after : List UInt8}
    (hCut : u16ToBeBytes payload.length ++ payload = before ++ after) (hAfter : after ≠ [])
    : readFrame postcard before = .pending :=
  readFrame_cut postcard payload before after h.pos h.le_frameMaxLen hCut hAfter

end Framed

theorem length_serialize_enum_pos {α : Type} {variants : List (Serde.Variant α)}
    {select : (a : α) → Serde.Selected variants a} {hCount : variants.length ≤ 128} (value : α)
    : 0 < ((Serde.Codec.enum variants select hCount).serialize value).length := by
  have hIndex : 0 < (Serde.putVarint 4 (select value).index).length := by
    unfold Serde.putVarint
    split
    . exact Nat.one_pos
    . exact Nat.succ_pos _
  simp only [Serde.Codec.enum, List.length_append]
  omega

theorem framed_request (value : Request)
    : Framed (postcardOf Request.codec) value (Request.codec.serialize value) :=
  .of_codec 2068 rfl (by decide) value (length_serialize_enum_pos value)

theorem framed_response (value : Response)
    : Framed (postcardOf Response.codec) value (Response.codec.serialize value) :=
  .of_codec 2067 rfl (by decide) value (length_serialize_enum_pos value)

section Frames

variable {α : Type} {postcard : Postcard α}

/--
Where the stream of the frames of `values` is cut: behind the frames of `earlier`, in the frame of the
next value.
-/
structure CutAt (postcard : Postcard α) (values : List α) (before : List UInt8) (earlier : List α)
    : Prop where
  next : ∃ value later, values = earlier ++ value :: later
    ∧ ∃ stream frame front back,
        writeFrames postcard earlier = .ok stream
          ∧
        writeFrame postcard value = .ok frame
          ∧
        frame = front ++ back
          ∧
        back ≠ []
          ∧
        before = stream ++ front

/--
All frames are read back. A cut stream gives the values of the complete frames and then an error.
-/
structure FramesAgree (postcard : Postcard α) : Prop where
  framed : ∀ value, ∃ payload, Framed postcard value payload
  whole : ∀ values, ∃ stream,
    writeFrames postcard values = .ok stream
      ∧
    readFrames postcard values.length stream = (values, none)
  cut : ∀ values stream before after,
    writeFrames postcard values = .ok stream → stream = before ++ after → after ≠ [] →
      ∃ earlier,
        CutAt postcard values before earlier
          ∧
        readFrames postcard values.length before = (earlier, some earlyEof)

theorem writeFrames_cons {value : α} {values : List α} {payload stream : List UInt8}
    (h : Framed postcard value payload) (hStream : writeFrames postcard values = .ok stream)
    : writeFrames postcard (value :: values)
        =
      .ok (u16ToBeBytes payload.length ++ payload ++ stream) := by
  unfold writeFrames
  rw [h.writeFrame_eq, hStream]
  rfl

theorem readFrames_cons {value : α} {payload rest : List UInt8} (count : Nat)
    (h : Framed postcard value payload)
    : readFrames postcard (count + 1) (u16ToBeBytes payload.length ++ payload ++ rest)
        =
      (value :: (readFrames postcard count rest).1, (readFrames postcard count rest).2) := by
  rw [readFrames, h.readFrame_eq rest]

theorem readFrames_writeFrames (hFramed : ∀ value, ∃ payload, Framed postcard value payload)
    (values : List α)
    : ∃ stream,
        writeFrames postcard values = .ok stream
          ∧
        readFrames postcard values.length stream = (values, none) := by
  induction values with
  | nil => exact ⟨[], rfl, rfl⟩
  | cons value values ih =>
    rcases hFramed value with ⟨payload, hValue⟩
    rcases ih with ⟨stream, hStream, hRead⟩
    refine ⟨_, writeFrames_cons hValue hStream, ?_⟩
    rw [List.length_cons, readFrames_cons values.length hValue, hRead]

theorem readFrames_cut (hFramed : ∀ value, ∃ payload, Framed postcard value payload)
    (values : List α) {stream before after : List UInt8}
    (hStream : writeFrames postcard values = .ok stream) (hCut : stream = before ++ after)
    (hAfter : after ≠ [])
    : ∃ earlier,
        CutAt postcard values before earlier
          ∧
        readFrames postcard values.length before = (earlier, some earlyEof) := by
  induction values generalizing stream before with
  | nil =>
    injection hStream with hStream
    rw [hCut] at hStream
    exact absurd (List.append_eq_nil_iff.mp hStream.symm).right hAfter
  | cons value values ih =>
    rcases hFramed value with ⟨payload, hValue⟩
    rcases readFrames_writeFrames hFramed values with ⟨rest, hRest, _⟩
    have hWhole := writeFrames_cons hValue hRest
    rw [hStream] at hWhole
    injection hWhole with hWhole
    rw [hCut] at hWhole
    -- the complete frame is read, the cut is in the rest
    have hLater (middle : List UInt8)
        (hBefore : before = u16ToBeBytes payload.length ++ payload ++ middle)
        (hMore : rest = middle ++ after)
        : ∃ earlier,
            CutAt postcard (value :: values) before earlier
              ∧
            readFrames postcard (value :: values).length before = (earlier, some earlyEof) := by
      rcases ih hRest hMore with ⟨earlier, hCutAt, hRead⟩
      rcases hCutAt.next with
        ⟨next, later, hValues, first, frame, front, back, hFirst, hFrame, hEq, hBack, hMiddle⟩
      refine ⟨value :: earlier, ⟨next, later, ?_, ?_⟩, ?_⟩
      . rw [hValues]
        rfl
      . refine ⟨_, frame, front, back, writeFrames_cons hValue hFirst, hFrame, hEq, hBack, ?_⟩
        rw [hBefore, hMiddle, List.append_assoc (u16ToBeBytes payload.length ++ payload)]
      . rw [hBefore, List.length_cons, readFrames_cons values.length hValue, hRead]
    rcases List.append_eq_append_iff.mp hWhole with ⟨middle, hFrame, hMiddle⟩ | ⟨middle, hBefore, hMore⟩
    . by_cases hNil : middle = []
      . rw [hNil, List.append_nil] at hFrame
        rw [hNil, List.nil_append] at hMiddle
        exact hLater [] (by rw [hFrame, List.append_nil]) hMiddle.symm
      . refine ⟨[], ⟨value, values, rfl, ?_⟩, ?_⟩
        . exact ⟨[], _, before, middle, rfl, hValue.writeFrame_eq, hFrame, hNil, rfl⟩
        . rw [List.length_cons]
          unfold readFrames
          rw [hValue.readFrame_pending hFrame hNil]
    . exact hLater middle hBefore hMore

theorem framesAgree_of_framed (hFramed : ∀ value, ∃ payload, Framed postcard value payload)
    : FramesAgree postcard where
  framed := hFramed
  whole := readFrames_writeFrames hFramed
  cut := by
    intro values stream before after hStream hCut hAfter
    exact readFrames_cut hFramed values hStream hCut hAfter

end Frames

/--
The assumptions on snow: a ciphertext is 16 bytes longer than its plaintext, and `Error::Input` means that
it does not fit the buffer that `send_message` provides.
-/
structure Noise.Documented (noise : Noise) : Prop where
  length : ∀ nonce plaintext ciphertext, noise.writeMessage nonce plaintext = .ok ciphertext →
    ciphertext.length = plaintext.length + noiseTagLen
  input : ∀ nonce plaintext, plaintext.length + noiseTagLen ≤ wifiFramePayloadMaxLen →
    noise.writeMessage nonce plaintext ≠ .error (.other "Input")

def Short (message : Message .std) : Prop :=
  (message.serialize .std).length ≤ wifiMessageMaxLen

/--
No size check can fail on the way of a message through `send_message` and the `read_task` of the other
side, apart from the first one.
-/
structure SendState.SizesOk (noise : Noise) (s : SendState) : Prop where
  refused : ∀ i message t, ¬ Short message → s.step (wifiCrates noise) (.call i message) = some t →
    t = s.setCall i (.returned message (.error .serialization))
  accepted : ∀ i message, s.calls i = .returned message (.error .serialization) → ¬ Short message
  buffer : ∀ i message plaintext, s.calls i = .holdNoise message plaintext →
    plaintext.length + noiseTagLen ≤ wifiFramePayloadMaxLen
      ∧
    noise.writeMessage s.nonce plaintext ≠ .error (.other "Input")
  payload : ∀ i message nonce ciphertext, s.calls i = .encrypted message nonce ciphertext →
    ∃ frame, clientNoiseFrame ciphertext = .ok frame
  frame : ∀ i message nonce frame, s.calls i = .waitWriter message nonce frame →
    ∃ encoded,
      writeFrame (postcardOf Request.codec) frame = .ok (u16ToBeBytes encoded.length ++ encoded)
        ∧
      encoded.length ≤ frameMaxLen
  received : ∀ entry, entry ∈ s.sealed →
    Short entry.message ∧ entry.ciphertext.length ≤ wifiMessageMaxLen + noiseTagLen

def PhaseSizes : SendPhase → Prop
  | .waitNoise message plaintext => plaintext = message.serialize .std ∧ Short message
  | .holdNoise message plaintext => plaintext = message.serialize .std ∧ Short message
  | .encrypted _ _ ciphertext => ciphertext.length ≤ wifiFramePayloadMaxLen
  | .returned message (.error .serialization) => ¬ Short message
  | _ => True

namespace SendState

variable {noise : Noise} {s t : SendState} {i : CallId}

structure SizeInv (s : SendState) : Prop where
  calls : ∀ i, PhaseSizes (s.calls i)
  sealed : ∀ entry, entry ∈ s.sealed →
    Short entry.message ∧ entry.ciphertext.length ≤ wifiMessageMaxLen + noiseTagLen

namespace SizeInv

theorem initial : SizeInv initial where
  calls _ := trivial
  sealed := by
    intro entry hMem
    contradiction

theorem of_calls (h : SizeInv s) (phase : SendPhase) (hPhase : PhaseSizes phase)
    (hCalls : t.calls = (s.setCall i phase).calls) (hSealed : t.sealed = s.sealed)
    : SizeInv t where
  calls := by
    rw [hCalls]
    apply forall_setCall (P := fun _ phase => PhaseSizes phase) hPhase
    intro j _
    exact h.calls j
  sealed := by
    rw [hSealed]
    exact h.sealed

theorem phase (h : SizeInv s) {phase : SendPhase} (hCall : s.calls i = phase) : PhaseSizes phase := by
  have hPhase := h.calls i
  rw [hCall] at hPhase
  exact hPhase

theorem call (noise : Noise) (h : SizeInv s) {message : Message .std}
    (hStep : s.call (wifiCrates noise) i message = some t)
    : SizeInv t := by
  unfold SendState.call at hStep
  split at hStep
  . simp only [wifiCrates, messagePostcard] at hStep
    split at hStep
    . next hLong =>
      injection hStep with hStep
      subst hStep
      have hPhase : PhaseSizes (.returned message (.error .serialization)) := Nat.not_le_of_lt hLong
      exact h.of_calls _ hPhase rfl rfl
    . next hShort =>
      injection hStep with hStep
      subst hStep
      have hPhase : PhaseSizes (.waitNoise message (message.serialize .std)) :=
        ⟨rfl, Nat.le_of_not_lt hShort⟩
      exact h.of_calls _ hPhase rfl rfl
  . contradiction

theorem lockNoise (h : SizeInv s) (hStep : s.lockNoise i = some t) : SizeInv t := by
  unfold SendState.lockNoise at hStep
  split at hStep
  . next message plaintext hCall _ =>
    injection hStep with hStep
    subst hStep
    have hPhase : PhaseSizes (.waitNoise message plaintext) := h.phase hCall
    exact h.of_calls (.holdNoise message plaintext) hPhase rfl rfl
  . contradiction

theorem encrypt (h : SizeInv s) (hDoc : noise.Documented)
    (hStep : s.encrypt (wifiCrates noise) i = some t)
    : SizeInv t := by
  unfold SendState.encrypt at hStep
  split at hStep
  . next message plaintext hCall =>
    have hPhase : PhaseSizes (.holdNoise message plaintext) := h.phase hCall
    rcases hPhase with ⟨hPlaintext, hShort⟩
    split at hStep
    . next error _ =>
      injection hStep with hStep
      subst hStep
      have hOther : PhaseSizes (.returned message (.error (noiseError error))) := by
        cases error with
        | decrypt => trivial
        | other => trivial
      exact h.of_calls _ hOther rfl rfl
    . next ciphertext hWrite =>
      injection hStep with hStep
      subst hStep
      have hLength := hDoc.length _ _ _ hWrite
      rw [hPlaintext] at hLength
      unfold Short at hShort
      have hFits : ciphertext.length ≤ wifiMessageMaxLen + noiseTagLen := by omega
      have hPhase : PhaseSizes (.encrypted message s.nonce ciphertext) := hFits
      constructor
      case calls =>
        apply forall_setCall (P := fun _ phase => PhaseSizes phase) hPhase
        intro j _
        exact h.calls j
      case sealed =>
        intro entry hMem
        rw [List.mem_append, List.mem_singleton] at hMem
        rcases hMem with hOld | hNew
        . exact h.sealed entry hOld
        . rw [hNew]
          exact ⟨hShort, hFits⟩
  . contradiction

theorem unlockNoise (h : SizeInv s) (hStep : s.unlockNoise i = some t) : SizeInv t := by
  unfold SendState.unlockNoise at hStep
  split at hStep
  . next message nonce ciphertext hCall =>
    have hPhase : PhaseSizes (.encrypted message nonce ciphertext) := h.phase hCall
    rw [clientNoiseFrame_of_le hPhase] at hStep
    injection hStep with hStep
    subst hStep
    exact h.of_calls (.waitWriter message nonce _) trivial rfl rfl
  . contradiction

theorem lockWriter (h : SizeInv s) (hStep : s.lockWriter (wifiCrates noise) i = some t)
    : SizeInv t := by
  unfold SendState.lockWriter at hStep
  split at hStep
  . next message nonce frame hCall _ =>
    have hFrame : writeFrame (wifiCrates noise).request frame = .ok _ :=
      (framed_request frame).writeFrame_eq
    rw [hFrame] at hStep
    injection hStep with hStep
    subst hStep
    exact h.of_calls (.writing message nonce _) trivial rfl rfl
  . contradiction

theorem write (h : SizeInv s) {count : Nat} (hStep : s.write i count = some t) : SizeInv t := by
  unfold SendState.write at hStep
  split at hStep
  . next message nonce remaining hCall =>
    split at hStep
    . injection hStep with hStep
      subst hStep
      exact h.of_calls (.writing message nonce _) trivial rfl rfl
    . contradiction
  . contradiction

theorem writeError (h : SizeInv s) {detail : String} (hStep : s.writeError i detail = some t)
    : SizeInv t := by
  unfold SendState.writeError at hStep
  split at hStep
  . next message nonce remaining hCall =>
    injection hStep with hStep
    subst hStep
    exact h.of_calls (.returned message (.error (.debugText detail))) trivial rfl rfl
  . contradiction

theorem flush (h : SizeInv s) (hStep : s.flush i = some t) : SizeInv t := by
  unfold SendState.flush at hStep
  split at hStep
  . next message nonce hCall =>
    injection hStep with hStep
    subst hStep
    exact h.of_calls (.returned message (.ok ())) trivial rfl rfl
  . contradiction

theorem cancel (h : SizeInv s) (hStep : s.cancel i = some t) : SizeInv t := by
  unfold SendState.cancel at hStep
  split at hStep
  . injection hStep with hStep
    subst hStep
    exact h.of_calls .cancelled trivial rfl rfl
  . injection hStep with hStep
    subst hStep
    exact h.of_calls .cancelled trivial rfl rfl
  . injection hStep with hStep
    subst hStep
    exact h.of_calls .cancelled trivial rfl rfl
  . contradiction

theorem step (h : SizeInv s) (hDoc : noise.Documented) {label : SendLabel}
    (hStep : s.step (wifiCrates noise) label = some t)
    : SizeInv t := by
  cases label with
  | call => exact SizeInv.call noise h hStep
  | lockNoise => exact h.lockNoise hStep
  | encrypt => exact h.encrypt hDoc hStep
  | unlockNoise => exact h.unlockNoise hStep
  | lockWriter => exact h.lockWriter hStep
  | write => exact h.write hStep
  | writeError => exact h.writeError hStep
  | flush => exact h.flush hStep
  | cancel => exact h.cancel hStep

theorem sizesOk (h : SizeInv s) (hDoc : noise.Documented) : SizesOk noise s where
  refused := by
    intro i message t hLong hStep
    simp only [SendState.step, SendState.call, wifiCrates, messagePostcard] at hStep
    split at hStep
    . rw [if_pos (Nat.lt_of_not_le hLong)] at hStep
      injection hStep with hStep
      exact hStep.symm
    . contradiction
  accepted := by
    intro i message hCall
    exact h.phase hCall
  buffer := by
    intro i message plaintext hCall
    have hPhase : PhaseSizes (.holdNoise message plaintext) := h.phase hCall
    have hFits : plaintext.length + noiseTagLen ≤ wifiFramePayloadMaxLen := by
      rw [hPhase.left]
      exact Nat.add_le_add_right hPhase.right noiseTagLen
    exact ⟨hFits, hDoc.input _ _ hFits⟩
  payload := by
    intro i message nonce ciphertext hCall
    have hPhase : PhaseSizes (.encrypted message nonce ciphertext) := h.phase hCall
    exact ⟨_, clientNoiseFrame_of_le hPhase⟩
  frame := by
    intro i message nonce frame _
    have hFrame := framed_request frame
    exact ⟨_, hFrame.writeFrame_eq, hFrame.le_frameMaxLen⟩
  received := h.sealed

end SizeInv

/--
The size limits hold together: for frames of both directions, and along every run of the senders.
-/
theorem run_sizesOk (noise : Noise) (hDoc : noise.Documented)
    : FramesAgree (postcardOf Request.codec)
        ∧
      FramesAgree (postcardOf Response.codec)
        ∧
      ∀ labels s, Run (step (wifiCrates noise)) anyStep initial labels s → SizesOk noise s := by
  refine ⟨?_, ?_, ?_⟩
  . exact framesAgree_of_framed fun value => ⟨_, framed_request value⟩
  . exact framesAgree_of_framed fun value => ⟨_, framed_response value⟩
  . intro labels s hRun
    have hInv : SizeInv s := by
      apply hRun.invariant SizeInv.initial
      intro s label t h _ hStep
      exact h.step hDoc hStep
    exact hInv.sizesOk hDoc

theorem nonceTagNoise_documented : nonceTagNoise.Documented where
  length := by
    intro nonce plaintext ciphertext hWrite
    rw [(nonceTagNoise_write hWrite).right]
    simp [noiseTag]
  input := by
    intro nonce plaintext _ hWrite
    simp only [nonceTagNoise] at hWrite
    split at hWrite
    . contradiction
    . simp at hWrite

theorem run_sizesOk_hostInfo
    : ∃ s : SendState, s.wire.length = 42 ∧ SizesOk nonceTagNoise s := by
  have hExec : (exec (step (wifiCrates nonceTagNoise)) initial
      [.call 0 (hostInfo 7), .lockNoise 0, .encrypt 0, .unlockNoise 0, .lockWriter 0, .write 0 30,
        .write 0 12, .flush 0]).map (fun s => s.wire.length)
      = some 42 := by
    decide
  rcases Run.exists_of_exec hExec with ⟨s, hRun, hLength⟩
  exact ⟨s, hLength, (run_sizesOk nonceTagNoise nonceTagNoise_documented).right.right _ s hRun⟩

end SendState

end Wifi
end Enody
