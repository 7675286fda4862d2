import Enody.Message.Size
import Enody.Serialization.Lemmas.Basic
import Enody.Serialization.Message

/-!
This module contains which frames the encoder of the `no_std` build can make: it unwraps every push into a
buffer of 512 bytes, while a message of up to 1024 bytes gets as far as the framing.
-/

namespace Enody
namespace Serialization

open Stuffing

theorem bufferPush_eq_some {build : Build} {buffer pushed : UsbDataBuffer} {byte : UInt8}
    (h : bufferPush build buffer byte = some pushed)
    : pushed = buffer ++ [byte] ∧ fits build pushed.length = true := by
  unfold bufferPush push at h
  split at h
  . next hFits =>
    injection h with h
    rw [← h, List.length_append]
    exact ⟨rfl, hFits⟩
  . contradiction

theorem extend_eq_some {build : Build} {buffer extended : UsbDataBuffer} {bytes : List UInt8}
    (h : extend build buffer bytes = some extended)
    : extended = buffer ++ bytes := by
  unfold extend at h
  split at h
  . injection h with h
    exact h.symm
  . contradiction

namespace escapedBytes

theorem eq_of_go_eq_some {build : Build} {payload : List UInt8} {escaped result : UsbDataBuffer}
    (h : go build escaped payload = some result)
    : result = escaped ++ symbols (stuff delimiters payload) := by
  induction payload generalizing escaped with
  | nil =>
    unfold go at h
    injection h with h
    rw [← h]
    simp [stuff]
  | cons byte payload ih =>
    unfold go at h
    simp only [Option.bind_eq_bind, Option.bind_some] at h
    split at h
    . next hControl =>
      simp only [Option.bind_eq_some_iff] at h
      rcases h with ⟨first, hFirst, second, hSecond, hRest⟩
      rw [ih hRest, (bufferPush_eq_some hSecond).left, (bufferPush_eq_some hFirst).left,
        symbols_stuff_of_control hControl]
      simp
    . next hControl =>
      rw [Option.bind_eq_some_iff] at h
      rcases h with ⟨second, hSecond, hRest⟩
      rw [ih hRest, (bufferPush_eq_some hSecond).left, symbols_stuff_of_not_control hControl]
      simp

end escapedBytes

theorem frameBytes_eq_some_iff (build : Build) (payload : List UInt8) (frame : UsbDataBuffer)
    : frameBytes build payload = some frame
        ↔
      fits build (framed payload).length = true ∧ frame = framed payload := by
  constructor
  . intro h
    unfold frameBytes at h
    simp only [Option.bind_eq_bind, Option.bind_eq_some_iff] at h
    rcases h with ⟨first, hFirst, escaped, hEscaped, extended, hExtended, hLast⟩
    rcases bufferPush_eq_some hLast with ⟨hFrame, hFits⟩
    have hEq : frame = framed payload := by
      rw [hFrame, extend_eq_some hExtended, (bufferPush_eq_some hFirst).left,
        escapedBytes.eq_of_go_eq_some hEscaped]
      rfl
    rw [← hEq]
    exact ⟨hFits, rfl⟩
  . rintro ⟨hFits, hEq⟩
    rw [hEq]
    exact frameBytes_eq build payload hFits

theorem messageBytes_noStd (message : Message .noStd)
    : messageBytes .noStd message = some (message.serialize .noStd) := by
  have hLength := message.length_serialize_le
  unfold messageBytes
  simp only
  rw [if_pos (by omega)]

/--
The conversion never returns an error. It returns the frame when the message, an escape for each of its
control bytes and the two delimiters fit into the buffer, and panics otherwise.
-/
theorem tryFromMessage_noStd_iff (message : Message .noStd)
    : (∃ result, tryFromMessage .noStd message = some result)
        ↔
      (message.serialize .noStd).length + (message.serialize .noStd).countP isControl + 2 ≤ 512 := by
  unfold tryFromMessage
  rw [messageBytes_noStd]
  simp only [Option.bind_eq_bind]
  constructor
  . rintro ⟨result, hResult⟩
    rw [Option.bind_eq_some_iff] at hResult
    rcases hResult with ⟨frame, hFrame, _⟩
    rw [frameBytes_eq_some_iff] at hFrame
    have hFits := hFrame.left
    rw [fits_noStd, decide_eq_true_eq, length_framed_eq] at hFits
    exact hFits
  . intro hFits
    have hFrame := frameBytes_eq .noStd (message.serialize .noStd)
      (by rw [fits_noStd, decide_eq_true_eq, length_framed_eq]; exact hFits)
    rw [hFrame]
    exact ⟨_, rfl⟩

/-
A full batch of samples, each of whose bytes has to be escaped.
-/
def escapedBatch : Message .noStd :=
  let sample : Message.SpectralSample := ⟨0x10101010, 0x10101010⟩
  .event ⟨0, none, none, .emitter (.spectralData (.sampleBatch ⟨List.replicate 32 sample, by decide⟩))⟩

theorem not_tryFromMessage_noStd
    : ¬ ∀ message : Message .noStd, ∃ result, tryFromMessage .noStd message = some result := by
  intro hAll
  rcases hAll escapedBatch with ⟨result, hResult⟩
  have hLong : 512 < (framed (escapedBatch.serialize .noStd)).length := by
    rw [length_framed_eq]
    decide +kernel
  unfold tryFromMessage at hResult
  rw [messageBytes_noStd] at hResult
  simp only [Option.bind_eq_bind] at hResult
  rw [Option.bind_eq_some_iff] at hResult
  rcases hResult with ⟨frame, hFrame, _⟩
  rw [frameBytes_eq_some_iff, fits_noStd, decide_eq_true_eq] at hFrame
  omega

end Serialization
end Enody
