import Enody.Message.Build

/-!
This module contains the largest size of a serialized message of the `no_std` build, where all strings and
vectors are bounded.
-/

namespace Enody

open Serde Message

namespace Error

theorem length_serialize_le (error : Error .noStd) : (serialize .noStd error).length ≤ 131 := by
  cases error with
  | debug detail =>
    have hDetail := (HString.codec 128 (by decide)).length_le 130 rfl detail
    exact Nat.succ_le_succ hDetail
  | _ =>
    apply Nat.le_trans (m := 1)
    . exact Nat.le_refl 1
    . decide

end Error

namespace Message

theorem Event.length_serialize_le (event : Event .noStd)
    : (serialize .noStd event).length ≤ 771 := by
  have hVariant {index size : Nat} {bytes : List UInt8} (hIndex : index < 128)
      (hBytes : bytes.length ≤ size) (hSize : size ≤ 770)
      : (putVarint 4 index ++ bytes).length ≤ 771 := by
    rw [putVarint_of_lt 4 hIndex, List.length_append, List.length_singleton]
    omega
  cases event with
  | error value => exact hVariant (by decide) (Error.length_serialize_le value) (by decide)
  | internal => decide
  | host value => exact hVariant (by decide) (HostEvent.codec.length_le 770 rfl value) (by decide)
  | runtime value =>
    exact hVariant (by decide) (RuntimeEvent.codec.length_le 260 rfl value) (by decide)
  | environment value =>
    exact hVariant (by decide) (EnvironmentEvent.codec.length_le 23 rfl value) (by decide)
  | fixture value =>
    exact hVariant (by decide) (FixtureEvent.codec.length_le 45 rfl value) (by decide)
  | source value =>
    exact hVariant (by decide) (SourceEvent.codec.length_le 45 rfl value) (by decide)
  | emitter value =>
    exact hVariant (by decide) (EmitterEvent.codec.length_le 259 rfl value) (by decide)

theorem length_serialize_le (message : Message .noStd)
    : (serialize .noStd message).length ≤ 825 := by
  cases message with
  | command value =>
    have hCommand := CommandMessage.codec.length_le 250 rfl value
    exact Nat.le_trans (Nat.succ_le_succ hCommand) (by decide)
  | event value =>
    have hHead := EventMessage.head.length_le 53 rfl
      (value.identifier, value.context, value.resource)
    have hEvent := Event.length_serialize_le value.event
    have hIndex : (putVarint 4 1).length = 1 := rfl
    unfold serialize EventMessage.serialize
    rw [List.length_append, List.length_append, hIndex]
    omega

end Message
end Enody
