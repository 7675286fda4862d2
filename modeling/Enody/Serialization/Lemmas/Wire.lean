import Enody.Message.Compatible
import Enody.Serialization.Lemmas.Capacity
import Enody.Serialization.Lemmas.Framing

/-!
This module contains what a reader makes of a wire on which frames of messages follow each other: a frame
that is not complete yet emits nothing, and after any bytes at most one frame is lost.
-/

namespace Enody
namespace Serialization

open Stuffing

def messageFrame (build : Build) (message : Message build) : List UInt8 :=
  framed (message.serialize build)

theorem tryFromMessage_std (message : Message .std)
    : tryFromMessage .std message = some (.ok (messageFrame .std message)) := by
  unfold tryFromMessage messageBytes
  simp only [Option.bind_eq_bind, frameBytes_std, Option.bind_some]
  rfl

namespace MessageStream

theorem length_pushEach {build : Build} {stream stream' : MessageStream} {bytes : List UInt8}
    {outputs : List (Option UsbDataBuffer)} (h : pushEach build stream bytes = some (stream', outputs))
    : outputs.length = bytes.length := by
  induction bytes generalizing stream outputs with
  | nil =>
    unfold pushEach at h
    injection h with h
    injection h with _ h
    rw [← h]
    rfl
  | cons byte bytes ih =>
    unfold pushEach at h
    simp only [Option.bind_eq_bind, Option.bind_eq_some_iff] at h
    rcases h with ⟨⟨middle, first⟩, _, ⟨last, rest⟩, hRest, hEq⟩
    injection hEq with hEq
    injection hEq with hLast hEq
    subst hLast
    rw [← hEq, List.length_cons, List.length_cons, ih hRest]

theorem pushEach_front {build : Build} {stream stream' : MessageStream} {front back : List UInt8}
    {outputs : List (Option UsbDataBuffer)}
    (h : pushEach build stream (front ++ back) = some (stream', outputs))
    : ∃ middle, pushEach build stream front = some (middle, outputs.take front.length) := by
  rw [pushEach_append] at h
  simp only [Option.bind_eq_some_iff, Option.map_eq_some_iff] at h
  rcases h with ⟨⟨middle, first⟩, hFront, ⟨last, more⟩, _, hEq⟩
  injection hEq with _ hEq
  have hLength : front.length = first.length := (length_pushEach hFront).symm
  refine ⟨middle, ?_⟩
  rw [hFront, ← hEq, hLength, List.take_left]

theorem pushBytes_part {build : Build} {payload part rest : List UInt8}
    (hFits : fits build (framed payload).length = true)
    (hSplit : framed payload = part ++ rest) (hRest : rest ≠ [])
    : ∃ stream, pushBytes build new part = some (stream, []) := by
  have hItem := pushEach_item build (frameItem payload) hFits
  have hSymbols : (frameItem payload).symbols = part ++ rest := hSplit
  rw [hSymbols] at hItem
  rcases pushEach_front hItem with ⟨stream, hPart⟩
  refine ⟨stream, ?_⟩
  rw [pushBytes_of_pushEach hPart]
  have hShort : part.length ≤ ((symbols (stuff delimiters payload)).length + 1) := by
    have hLength := congrArg List.length hSplit
    rw [length_framed, List.length_append] at hLength
    have := List.length_pos_iff.mpr hRest
    omega
  -- all outputs in front of the one at the ETX are `none`
  have hOutputs : (frameItem payload).outputs
      = List.replicate ((symbols (stuff delimiters payload)).length + 1) none
        ++ [some (values (stuff delimiters payload))] := by
    simp [frameItem, Item.outputs, List.replicate_succ]
  have hNone : (frameItem payload).outputs.take part.length = List.replicate part.length none := by
    rw [hOutputs, List.take_append_of_le_length (by simpa using hShort), List.take_replicate,
      Nat.min_eq_left hShort]
  rw [hNone]
  simp

theorem pushBytes_std (bytes : List UInt8)
    : pushBytes .std new bytes
        =
      some (ofTail (Decomposition.decompose bytes).tail,
        (Decomposition.decompose bytes : Decomposition delimiters).payloads) := by
  rw [pushBytes_of_pushEach (pushEach_std bytes), Decomposition.reduceOption_outputs]

end MessageStream

theorem pushBytes_flatMap_framed {build : Build} (payloads : List (List UInt8))
    (hFits : ∀ payload ∈ payloads, fits build (framed payload).length = true)
    : MessageStream.pushBytes build .new (payloads.flatMap framed) = some (.new, payloads) := by
  induction payloads with
  | nil => rfl
  | cons payload payloads ih =>
    have hFirst := MessageStream.pushBytes_new_framed build payload (hFits payload (by simp))
    have hRest := ih (fun other hOther => hFits other (by simp [hOther]))
    exact pushBytes_append_of_eq hFirst hRest

theorem pushBytes_isPrefix {build : Build} {stream middle last : MessageStream} {front back : List UInt8}
    {payloads more : List (List UInt8)} (hFront : stream.pushBytes build front = some (middle, payloads))
    (hAll : stream.pushBytes build (front ++ back) = some (last, more))
    : payloads <+: more := by
  cases hBack : middle.pushBytes build back with
  | none =>
    have hNone := MessageStream.pushChunks_eq_pushBytes build stream [front, back]
    simp only [List.flatten_cons, List.flatten_nil, List.append_nil, hAll] at hNone
    simp [MessageStream.pushChunks, hFront, hBack] at hNone
  | some result =>
    rw [pushBytes_append_of_eq hFront hBack] at hAll
    injection hAll with hAll
    injection hAll with _ hMore
    rw [← hMore]
    exact List.prefix_append _ _

theorem pushBytes_torn {build : Build} (payloads : List (List UInt8)) {payload part rest : List UInt8}
    (hFits : ∀ other ∈ payloads ++ [payload], fits build (framed other).length = true)
    (hSplit : framed payload = part ++ rest) (hRest : rest ≠ [])
    : ∃ stream, MessageStream.pushBytes build .new (payloads.flatMap framed ++ part)
        =
      some (stream, payloads) := by
  have hWhole := pushBytes_flatMap_framed payloads (fun other hOther => hFits other (by simp [hOther]))
  rcases MessageStream.pushBytes_part (hFits payload (by simp)) hSplit hRest with ⟨stream, hPart⟩
  have hAll := pushBytes_append_of_eq hWhole hPart
  rw [List.append_nil] at hAll
  exact ⟨stream, hAll⟩

theorem payloads_decompose_append (before payload : List UInt8) (payloads : List (List UInt8))
    : ∃ emitted : List (List UInt8),
        emitted.length ≤ 1
          ∧
        (Decomposition.decompose (before ++ framed payload ++ payloads.flatMap framed)
            : Decomposition delimiters).payloads
          =
        (Decomposition.decompose before : Decomposition delimiters).payloads ++ emitted ++ payloads := by
  have hBefore := MessageStream.pushBytes_std before
  rcases MessageStream.pushBytes_framed_any (.ofTail (Decomposition.decompose before).tail) payload with
    ⟨emitted, hFirst, hEmitted⟩
  have hRest : MessageStream.pushBytes .std .new (payloads.flatMap framed) = some (.new, payloads) :=
    pushBytes_flatMap_framed payloads (by simp)
  have hAll := pushBytes_append_of_eq (pushBytes_append_of_eq hBefore hFirst) hRest
  rw [MessageStream.pushBytes_std] at hAll
  injection hAll with hAll
  injection hAll with _ hAll
  exact ⟨emitted, hEmitted, hAll⟩

theorem exists_read_messages (messages : List (Message .noStd))
    : ∃ read : List (Message .std),
        (messages.map (Message.serialize .noStd)).filterMap (Message.fromBytes .std) = read
          ∧
        read.map Message.toNoStd? = (messages.filter fun message => !message.usbError).map some := by
  refine ⟨_, rfl, ?_⟩
  induction messages with
  | nil => rfl
  | cons message messages ih =>
    rw [List.map_cons, List.filterMap_cons]
    cases hUsb : message.usbError with
    | true =>
      have hNone : Message.fromBytes .std (message.serialize .noStd) = none := by
        unfold Message.fromBytes Serde.fromBytes
        rw [Message.run_usbError message hUsb]
        rfl
      rw [hNone]
      simp only [List.filter_cons, hUsb, Bool.not_true, Bool.false_eq_true, ↓reduceIte]
      exact ih
    | false =>
      rcases Message.reads_std message hUsb with ⟨other, hOther, hReads⟩
      have hSome : Message.fromBytes .std (message.serialize .noStd) = some other := hReads.fromBytes_eq
      rw [hSome]
      simp only [List.filter_cons, hUsb, Bool.not_false, ↓reduceIte, List.map_cons, hOther]
      rw [ih]

end Serialization
end Enody
