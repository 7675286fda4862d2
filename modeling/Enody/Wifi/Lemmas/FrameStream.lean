import Enody.Wifi.Impl.ReadTask
import Enody.Wifi.Lemmas.Limits
import Enody.Wifi.Lemmas.PeerReceive

/-!
This module contains streams of WiFi frames: what the frames carry that a handler has read one after the other,
however the bytes have arrived, and the frames that a device writes, which encrypts the messages of its own build.
-/

namespace Enody
namespace Wifi

abbrev Handler (β : Type) := Nat → Response → Except (Error .std) β

/--
The stream starts with frames that carry the values, `rest` is what follows them.
-/
inductive Carries {β : Type} (handle : Handler β) : Nat → List UInt8 → List β → List UInt8 → Prop where
  | nil {counter : Nat} {bytes : List UInt8} : Carries handle counter bytes [] bytes
  | cons {counter : Nat} {bytes middle rest : List UInt8} {frame : Response} {value : β} {values : List β} :
      readFrame responsePostcard bytes = .frame frame middle →
        handle counter frame = .ok value →
        Carries handle (counter + 1) middle values rest →
        Carries handle counter bytes (value :: values) rest

theorem readFrame_more {α : Type} {postcard : Postcard α} {bytes : List UInt8} (more : List UInt8)
    (h : readFrame postcard bytes ≠ .pending)
    : readFrame postcard (bytes ++ more)
        =
      match readFrame postcard bytes with
      | .pending => .pending
      | .failed error => .failed error
      | .frame value rest => .frame value (rest ++ more) := by
  match bytes with
  | [] => exact absurd rfl h
  | [_] => exact absurd rfl h
  | hi :: lo :: bytes =>
    unfold readFrame at h ⊢
    simp only [List.cons_append] at h ⊢
    by_cases hRange : hi.toNat * 256 + lo.toNat = 0 ∨ hi.toNat * 256 + lo.toNat > frameMaxLen
    . simp only [hRange, ↓reduceIte]
    . simp only [hRange, ↓reduceIte] at h ⊢
      by_cases hShort : bytes.length < hi.toNat * 256 + lo.toNat
      . simp [hShort] at h
      . have hLong : ¬ (bytes ++ more).length < hi.toNat * 256 + lo.toNat := by
          rw [List.length_append]
          omega
        have hLe : hi.toNat * 256 + lo.toNat ≤ bytes.length := by omega
        simp only [hShort, hLong, ↓reduceIte, List.take_append_of_le_length hLe,
          List.drop_append_of_le_length hLe]
        cases postcard.fromBytes (bytes.take (hi.toNat * 256 + lo.toNat)) <;> rfl

namespace Carries

variable {β : Type} {handle : Handler β} {counter : Nat} {bytes rest : List UInt8} {values : List β}

theorem append (h : Carries handle counter bytes values rest) (more : List UInt8)
    : Carries handle counter (bytes ++ more) values (rest ++ more) := by
  induction h with
  | nil => exact .nil
  | cons hRead hHandle _ ih =>
    refine .cons ?_ hHandle ih
    rw [readFrame_more more (by rw [hRead]; simp), hRead]

theorem snoc {middle : List UInt8} {frame : Response} {value : β}
    (h : Carries handle counter bytes values rest)
    (hRead : readFrame responsePostcard rest = .frame frame middle)
    (hHandle : handle (counter + values.length) frame = .ok value)
    : Carries handle counter bytes (values ++ [value]) middle := by
  induction h with
  | nil => exact .cons hRead (by simpa using hHandle) .nil
  | @cons counter bytes first rest frame' value' values hFirst hValue _ ih =>
    refine .cons hFirst hValue (ih hRead ?_)
    rw [List.length_cons] at hHandle
    rw [Nat.add_assoc, Nat.add_comm 1]
    exact hHandle

end Carries

def Fails {β : Type} (handle : Handler β) (counter : Nat) (bytes : List UInt8) (error : Error .std) : Prop :=
  readFrame responsePostcard bytes = .failed error
    ∨
  ∃ frame rest,
    readFrame responsePostcard bytes = .frame frame rest ∧ handle counter frame = .error error

theorem Fails.append {β : Type} {handle : Handler β} {counter : Nat} {bytes : List UInt8} {error : Error .std}
    (h : Fails handle counter bytes error) (more : List UInt8)
    : Fails handle counter (bytes ++ more) error := by
  rcases h with hFailed | ⟨frame, rest, hRead, hHandle⟩
  . refine .inl ?_
    rw [readFrame_more more (by rw [hFailed]; simp), hFailed]
  . refine .inr ⟨frame, rest ++ more, ?_, hHandle⟩
    rw [readFrame_more more (by rw [hRead]; simp), hRead]

/--
Frames that a device writes for the messages of its own build, with the nonces from `counter` on.
-/
inductive DeviceFrames (wrap : NoisePayload → Response) (noise : Noise)
    : Nat → List (Message .noStd) → List UInt8 → Prop where
  | nil {counter : Nat} : DeviceFrames wrap noise counter [] []
  | cons {counter : Nat} {message : Message .noStd} {messages : List (Message .noStd)}
      {payload : NoisePayload} {frame stream : List UInt8} :
      noise.writeMessage counter (message.serialize .noStd) = .ok payload.items →
        writeFrame responsePostcard (wrap payload) = .ok frame →
        DeviceFrames wrap noise (counter + 1) messages stream →
        DeviceFrames wrap noise counter (message :: messages) (frame ++ stream)

/-
Decryption with the nonce of the encryption gives the plaintext.
-/
def Noise.RoundTrips (noise : Noise) : Prop :=
  ∀ nonce plaintext ciphertext,
    noise.writeMessage nonce plaintext = .ok ciphertext →
      noise.readMessage nonce ciphertext = .ok plaintext

def ReadsDevice {β : Type} (wrap : NoisePayload → Response) (noise : Noise) (handle : Handler β)
    (reads : Message .noStd → Except (Error .std) β → Prop)
    : Prop :=
  ∀ (counter : Nat) (message : Message .noStd) (payload : NoisePayload),
    noise.writeMessage counter (message.serialize .noStd) = .ok payload.items →
      reads message (handle counter (wrap payload))

namespace DeviceFrames

variable {wrap : NoisePayload → Response} {noise : Noise} {counter : Nat} {messages : List (Message .noStd)}
variable {bytes more rest : List UInt8}

theorem readFrame_eq (h : DeviceFrames wrap noise counter messages (bytes ++ more)) {frame : Response}
    (hRead : readFrame responsePostcard bytes = .frame frame rest)
    : ∃ payload message left,
        frame = wrap payload
          ∧
        messages = message :: left
          ∧
        noise.writeMessage counter (message.serialize .noStd) = .ok payload.items
          ∧
        DeviceFrames wrap noise (counter + 1) left (rest ++ more) := by
  have hMore : readFrame responsePostcard (bytes ++ more) = .frame frame (rest ++ more) := by
    rw [readFrame_more more (by rw [hRead]; simp), hRead]
  generalize hStream : bytes ++ more = stream at h hMore
  cases h with
  | nil => contradiction
  | @cons _ message left payload frame stream' hWrite hFrame hLeft =>
    have hFramed := framed_response (wrap payload)
    rw [responsePostcard, hFramed.writeFrame_eq] at hFrame
    injection hFrame with hFrame
    rw [← hFrame, responsePostcard, hFramed.readFrame_eq] at hMore
    injection hMore with hValue hRest
    exact ⟨payload, message, left, hValue.symm, rfl, hWrite, hRest ▸ hLeft⟩

theorem readFrame_ne_failed (h : DeviceFrames wrap noise counter messages (bytes ++ more)) (error : Error .std)
    : readFrame responsePostcard bytes ≠ .failed error := by
  intro hRead
  have hMore : readFrame responsePostcard (bytes ++ more) = .failed error := by
    rw [readFrame_more more (by rw [hRead]; simp), hRead]
  generalize bytes ++ more = stream at h hMore
  cases h with
  | nil => contradiction
  | @cons _ message left payload frame stream' hWrite hFrame hLeft =>
    have hFramed := framed_response (wrap payload)
    rw [responsePostcard, hFramed.writeFrame_eq] at hFrame
    injection hFrame with hFrame
    rw [← hFrame, responsePostcard, hFramed.readFrame_eq] at hMore
    contradiction

theorem eq_nil_of_pending (h : DeviceFrames wrap noise counter messages bytes)
    (hRead : readFrame responsePostcard bytes = .pending)
    : messages = [] := by
  cases h with
  | nil => rfl
  | @cons _ message left payload frame stream' hWrite hFrame hLeft =>
    have hFramed := framed_response (wrap payload)
    rw [responsePostcard, hFramed.writeFrame_eq] at hFrame
    injection hFrame with hFrame
    rw [← hFrame, responsePostcard, hFramed.readFrame_eq] at hRead
    contradiction

section Reads

variable {β : Type} {handle : Handler β} {reads : Message .noStd → Except (Error .std) β → Prop}

theorem of_fails (h : DeviceFrames wrap noise counter messages (bytes ++ more))
    (hReads : ReadsDevice wrap noise handle reads) {error : Error .std} (hFails : Fails handle counter bytes error)
    : ∃ message left, messages = message :: left ∧ reads message (.error error) := by
  rcases hFails with hFailed | ⟨frame, rest, hRead, hHandle⟩
  . exact absurd hFailed (h.readFrame_ne_failed error)
  . rcases h.readFrame_eq hRead with ⟨payload, message, left, hFrame, hMessages, hWrite, _⟩
    subst hFrame
    have hResult := hReads _ _ _ hWrite
    rw [hHandle] at hResult
    exact ⟨message, left, hMessages, hResult⟩

theorem of_carries {got : List β} (hReads : ReadsDevice wrap noise handle reads)
    (hCarries : Carries handle counter bytes got rest)
    (h : DeviceFrames wrap noise counter messages (bytes ++ more))
    : ∃ done left,
        messages = done ++ left
          ∧
        List.Forall₂ (fun message value => reads message (.ok value)) done got
          ∧
        DeviceFrames wrap noise (counter + got.length) left (rest ++ more) := by
  induction hCarries generalizing messages with
  | nil => exact ⟨[], messages, rfl, .nil, h⟩
  | @cons counter bytes middle rest frame value got hRead hHandle _ ih =>
    rcases h.readFrame_eq hRead with ⟨payload, message, tail, hFrame, hMessages, hWrite, hTail⟩
    subst hFrame
    have hResult := hReads _ _ _ hWrite
    rw [hHandle] at hResult
    rcases ih hTail with ⟨done, left, hSplit, hDone, hLeft⟩
    refine ⟨message :: done, left, ?_, .cons hResult hDone, ?_⟩
    . rw [hMessages, hSplit, List.cons_append]
    . rw [List.length_cons, Nat.add_comm got.length, ← Nat.add_assoc]
      exact hLeft

end Reads

end DeviceFrames

/-
The frame of a message of a device, with a tag of the nonce in place of the encryption.
-/
def deviceFrame (wrap : NoisePayload → Response) (counter : Nat) (message : Message .noStd) : List UInt8 :=
  match HVec.fromSlice (message.serialize .noStd ++ noiseTag counter) with
  | none => []
  | some payload =>
    let bytes := Response.codec.serialize (wrap payload)
    u16ToBeBytes bytes.length ++ bytes

end Wifi
end Enody
