import Enody.Serialization.Lemmas.Wire
import Enody.Usb.Impl.Receive

/-!
This module relates a `Receiver` to the reference decomposition of the bytes that it has handled: it offers to
the channel exactly the messages of the complete frames, in their order.
-/

namespace Enody
namespace Usb

open Serialization Stuffing

def decoded (bytes : List UInt8) : List (Message .std) :=
  (Decomposition.decompose bytes : Decomposition delimiters).payloads.filterMap (Message.fromBytes .std)

theorem payloads_push (D : Decomposition delimiters) (byte : UInt8)
    : (D.push byte).payloads = D.payloads ++ (D.completed byte).toList := by
  rw [← Decomposition.reduceOption_outputs, Decomposition.outputs_push, List.filterMap_append,
    Decomposition.reduceOption_outputs]
  cases D.completed byte <;> rfl

theorem decoded_append (bytes : List UInt8) (byte : UInt8)
    : decoded (bytes ++ [byte])
        =
      decoded bytes
        ++ (((Decomposition.decompose bytes : Decomposition delimiters).completed byte).bind
            (Message.fromBytes .std)).toList := by
  unfold decoded
  rw [Decomposition.decompose_append, payloads_push, List.filterMap_append]
  cases (Decomposition.decompose bytes : Decomposition delimiters).completed byte with
  | none => rfl
  | some payload =>
    cases h : Message.fromBytes .std payload with
    | none => simp [h]
    | some message => simp [h]

namespace Receiver

variable {receiver receiver' : Receiver} {byte : UInt8}

structure InStep (receiver : Receiver) : Prop where
  stream : receiver.stream = .ofTail (Decomposition.decompose receiver.arrived).tail
  offered : receiver.messages.offered = decoded receiver.arrived

theorem InStep.new : Receiver.new.InStep := ⟨rfl, rfl⟩

theorem InStep.handleByte (h : receiver.InStep) (byte : UInt8)
    : ∃ receiver',
        receiver.handleByte byte = some receiver'
          ∧
        receiver'.InStep
          ∧
        receiver'.arrived = receiver.arrived ++ [byte]
          ∧
        (receiver'.messages = receiver.messages
          ∨ ∃ message, receiver'.messages = receiver.messages.offer message) := by
  have hPush := MessageStream.pushByte_ofTail .std (Decomposition.decompose receiver.arrived) byte rfl
  rw [← Decomposition.decompose_append] at hPush
  have hDecoded := decoded_append receiver.arrived byte
  unfold Receiver.handleByte
  rw [h.stream, hPush]
  simp only [Option.bind_eq_bind, Option.bind_some]
  cases hMessage : ((Decomposition.decompose receiver.arrived : Decomposition delimiters).completed byte).bind
      (Message.fromBytes .std) with
  | none =>
    rw [hMessage] at hDecoded
    refine ⟨_, rfl, ⟨rfl, ?_⟩, rfl, .inl rfl⟩
    simp only [hDecoded, Option.toList_none, List.append_nil, h.offered]
  | some message =>
    rw [hMessage] at hDecoded
    refine ⟨_, rfl, ⟨rfl, ?_⟩, rfl, .inr ⟨message, rfl⟩⟩
    simp only [hDecoded, Option.toList_some, Feed.offered_offer, h.offered]

theorem InStep.of_handleByte (h : receiver.InStep) (hHandle : receiver.handleByte byte = some receiver')
    : receiver'.InStep
        ∧
      receiver'.arrived = receiver.arrived ++ [byte]
        ∧
      (receiver'.messages = receiver.messages
        ∨ ∃ message, receiver'.messages = receiver.messages.offer message) := by
  rcases h.handleByte byte with ⟨other, hOther, hRest⟩
  rw [hHandle] at hOther
  injection hOther with hOther
  rw [hOther]
  exact hRest

theorem InStep.of_recvMessage (h : receiver.InStep) (hRecv : receiver.recvMessage = some receiver')
    : receiver'.InStep
        ∧
      receiver'.arrived = receiver.arrived
        ∧
      receiver'.messages.delivered = receiver.messages.delivered := by
  unfold recvMessage at hRecv
  rw [Option.map_eq_some_iff] at hRecv
  rcases hRecv with ⟨messages, hMessages, hEq⟩
  rcases Feed.of_recv hMessages with ⟨hOffered, hDelivered⟩
  subst hEq
  refine ⟨⟨h.stream, ?_⟩, rfl, hDelivered⟩
  rw [← h.offered]
  exact hOffered

theorem Lossless.of_handleByte (h : receiver.InStep) (hLossless : receiver.messages.Lossless)
    (hRoom : receiver.messages.hasRoom = true) (hHandle : receiver.handleByte byte = some receiver')
    : receiver'.messages.Lossless := by
  rcases (h.of_handleByte hHandle).right.right with hSame | ⟨message, hOffer⟩
  . rw [hSame]
    exact hLossless
  . rw [hOffer]
    exact hLossless.offer hRoom

theorem Lossless.of_recvMessage (hLossless : receiver.messages.Lossless)
    (hRecv : receiver.recvMessage = some receiver')
    : receiver'.messages.Lossless := by
  unfold recvMessage at hRecv
  rw [Option.map_eq_some_iff] at hRecv
  rcases hRecv with ⟨messages, hMessages, hEq⟩
  subst hEq
  exact hLossless.recv hMessages

theorem InStep.delivered_sublist (h : receiver.InStep)
    : receiver.messages.delivered.Sublist (decoded receiver.arrived) := by
  rw [← h.offered]
  exact receiver.messages.delivered_sublist

end Receiver

theorem decoded_messageFrames (before : List UInt8) (message : Message .noStd)
    (messages : List (Message .noStd))
    : ∃ emitted read : List (Message .std),
        decoded (before ++ messageFrame .noStd message ++ messages.flatMap (messageFrame .noStd))
          =
        decoded before ++ emitted ++ read
          ∧
        emitted.length ≤ 1
          ∧
        read.map Message.toNoStd? = (messages.filter fun other => !other.usbError).map some := by
  rcases payloads_decompose_append before (message.serialize .noStd)
      (messages.map (Message.serialize .noStd)) with ⟨emitted, hEmitted, hPayloads⟩
  rcases exists_read_messages messages with ⟨read, hRead, hMessages⟩
  refine ⟨emitted.filterMap (Message.fromBytes .std), read, ?_, ?_, hMessages⟩
  . have hFrames : messages.flatMap (messageFrame .noStd)
        = (messages.map (Message.serialize .noStd)).flatMap framed := by
      rw [List.flatMap_map]
      rfl
    unfold decoded
    rw [hFrames]
    unfold messageFrame
    rw [hPayloads, List.filterMap_append, List.filterMap_append, hRead]
  . exact Nat.le_trans (List.length_filterMap_le _ _) hEmitted

end Usb
end Enody
