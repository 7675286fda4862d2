import Enody.Message.Build

/-!
This module relates the wire formats of the two builds: what one build serializes the other one reads as
the corresponding message, except for the detail of a USB error, which only the `std` build puts on the
wire and which it then also expects.
-/

namespace Enody

open Serde Message

theorem reads_index (index : Nat) (h : index < 128)
    : Reads (takeVarint 15 4) (putVarint 4 index) index := by
  apply reads_varint
  . decide
  . omega

theorem readsFront_of_empty {α : Type} {deserializer : Deserializer α} {a : α} (bytes : List UInt8)
    (h : Reads deserializer [] a)
    : ReadsFront deserializer bytes a :=
  ⟨[], bytes, rfl, h⟩

namespace DebugError

theorem serialize_noStd (detail : HString 128) : serialize .noStd detail = serializeStr detail.val :=
  rfl

theorem toNoStd?_val (detail : HString 128) : toNoStd? detail.val = some detail := by
  unfold toNoStd?
  exact dif_pos detail.fits

theorem val_of_toNoStd? {text : String} {other : HString 128} (h : toNoStd? text = some other)
    : other.val = text := by
  unfold toNoStd? at h
  simp only at h
  split at h
  . injection h with h
    rw [← h]
  . contradiction

theorem reads_std (detail : HString 128)
    : Reads (deserialize .std) (serialize .noStd detail) detail.val := by
  have hFits := detail.fits
  rw [serialize_noStd]
  apply reads_str
  omega

theorem reads_noStd {text : String} {other : HString 128} (h : toNoStd? text = some other)
    : Reads (deserialize .noStd) (serialize .std text) other := by
  have hReads : Reads (deserialize .noStd) (serialize .noStd other) other :=
    (HString.codec 128 (by decide)).reads other
  rw [serialize_noStd, val_of_toNoStd? h] at hReads
  exact hReads

end DebugError

namespace Error

def usbError {build : Build} : Error build → Bool
  | .usb _ => true
  | _ => false

theorem reads_std (error : Error .noStd) (h : error.usbError = false)
    : ∃ other,
        toNoStd? other = some error
          ∧
        Reads (deserialize .std) (serialize .noStd error) other := by
  cases error with
  | debug detail =>
    let bounded : HString 128 := detail
    refine ⟨.debugText bounded.val, ?_, ?_⟩
    . exact congrArg (Option.map Error.debug) (DebugError.toNoStd?_val bounded)
    . exact (reads_index 1 (by decide)).bind (DebugError.reads_std bounded).map
  | usb => contradiction
  | unknown => exact ⟨.unknown, rfl, (reads_index 0 (by decide)).bind_pure (.pure _)⟩
  | unsupported => exact ⟨.unsupported, rfl, (reads_index 2 (by decide)).bind_pure (.pure _)⟩
  | serialization => exact ⟨.serialization, rfl, (reads_index 4 (by decide)).bind_pure (.pure _)⟩
  | busy => exact ⟨.busy, rfl, (reads_index 5 (by decide)).bind_pure (.pure _)⟩
  | insufficientData =>
    exact ⟨.insufficientData, rfl, (reads_index 6 (by decide)).bind_pure (.pure _)⟩
  | unexpectedResponse =>
    exact ⟨.unexpectedResponse, rfl, (reads_index 7 (by decide)).bind_pure (.pure _)⟩
  | timeout => exact ⟨.timeout, rfl, (reads_index 8 (by decide)).bind_pure (.pure _)⟩
  | argument => exact ⟨.argument, rfl, (reads_index 9 (by decide)).bind_pure (.pure _)⟩
  | permission => exact ⟨.permission, rfl, (reads_index 10 (by decide)).bind_pure (.pure _)⟩
  | canceled => exact ⟨.canceled, rfl, (reads_index 11 (by decide)).bind_pure (.pure _)⟩

theorem run_usb (detail : USBError .noStd)
    : (deserialize .std).run (serialize .noStd (.usb detail)) = none := by
  apply (reads_index 3 (by decide)).bind_eq_none
  rfl

theorem reads_noStd {error : Error .std} {other : Error .noStd} (h : toNoStd? error = some other)
    : ReadsFront (deserialize .noStd) (serialize .std error) other := by
  cases error with
  | debug detail =>
    unfold toNoStd? at h
    rw [Option.map_eq_some_iff] at h
    rcases h with ⟨bounded, hBounded, hEq⟩
    rw [← hEq]
    exact ((reads_index 1 (by decide)).bind (DebugError.reads_noStd hBounded).map).front
  | usb detail =>
    injection h with h
    rw [← h]
    apply (reads_index 3 (by decide)).bind_front
    exact readsFront_of_empty _ (Reads.pure _).map
  | _ =>
    injection h with h
    rw [← h]
    apply Reads.front
    apply Reads.bind_pure
    . apply reads_index
      decide
    . exact .pure _

end Error

namespace Message
namespace Event

def usbError {build : Build} : Event build → Bool
  | .error value => value.usbError
  | _ => false

theorem reads_std (event : Event .noStd) (h : event.usbError = false)
    : ∃ other,
        toNoStd? other = some event
          ∧
        Reads (deserialize .std) (serialize .noStd event) other := by
  cases event with
  | error value =>
    rcases Error.reads_std value h with ⟨other, hOther, hReads⟩
    refine ⟨.error other, ?_, (reads_index 0 (by decide)).bind hReads.map⟩
    exact Option.map_eq_some_iff.mpr ⟨value, hOther, rfl⟩
  | internal => exact ⟨.internal, rfl, (reads_index 1 (by decide)).bind_pure (.pure _)⟩
  | host value =>
    exact ⟨.host value, rfl, (reads_index 2 (by decide)).bind (HostEvent.codec.reads value).map⟩
  | runtime value =>
    exact ⟨.runtime value, rfl,
      (reads_index 3 (by decide)).bind (RuntimeEvent.codec.reads value).map⟩
  | environment value =>
    exact ⟨.environment value, rfl,
      (reads_index 4 (by decide)).bind (EnvironmentEvent.codec.reads value).map⟩
  | fixture value =>
    exact ⟨.fixture value, rfl,
      (reads_index 5 (by decide)).bind (FixtureEvent.codec.reads value).map⟩
  | source value =>
    exact ⟨.source value, rfl, (reads_index 6 (by decide)).bind (SourceEvent.codec.reads value).map⟩
  | emitter value =>
    exact ⟨.emitter value, rfl,
      (reads_index 7 (by decide)).bind (EmitterEvent.codec.reads value).map⟩

theorem run_usbError (event : Event .noStd) (h : event.usbError = true)
    : (deserialize .std).run (serialize .noStd event) = none := by
  cases event with
  | error value =>
    cases value with
    | usb detail =>
      apply (reads_index 0 (by decide)).bind_eq_none
      have hRun := Error.run_usb detail
      simp only [StateT.run_map, hRun]
      rfl
    | _ => contradiction
  | _ => contradiction

theorem reads_noStd {event : Event .std} {other : Event .noStd} (h : toNoStd? event = some other)
    : ReadsFront (deserialize .noStd) (serialize .std event) other := by
  cases event with
  | error value =>
    rcases Option.map_eq_some_iff.mp h with ⟨bounded, hBounded, hEq⟩
    rw [← hEq]
    exact (reads_index 0 (by decide)).bind_front (Error.reads_noStd hBounded).map
  | internal =>
    injection h with h
    rw [← h]
    apply Reads.front
    exact (reads_index 1 (by decide)).bind_pure (.pure _)
  | host value =>
    injection h with h
    rw [← h]
    exact ((reads_index 2 (by decide)).bind (HostEvent.codec.reads value).map).front
  | runtime value =>
    injection h with h
    rw [← h]
    exact ((reads_index 3 (by decide)).bind (RuntimeEvent.codec.reads value).map).front
  | environment value =>
    injection h with h
    rw [← h]
    exact ((reads_index 4 (by decide)).bind (EnvironmentEvent.codec.reads value).map).front
  | fixture value =>
    injection h with h
    rw [← h]
    exact ((reads_index 5 (by decide)).bind (FixtureEvent.codec.reads value).map).front
  | source value =>
    injection h with h
    rw [← h]
    exact ((reads_index 6 (by decide)).bind (SourceEvent.codec.reads value).map).front
  | emitter value =>
    injection h with h
    rw [← h]
    exact ((reads_index 7 (by decide)).bind (EmitterEvent.codec.reads value).map).front

end Event
end Message

namespace EventMessage

theorem reads_std (message : EventMessage .noStd) (h : message.event.usbError = false)
    : ∃ other,
        toNoStd? other = some message
          ∧
        Reads (deserialize .std) (serialize .noStd message) other := by
  rcases message with ⟨identifier, context, resource, event⟩
  rcases Event.reads_std event h with ⟨other, hOther, hReads⟩
  refine ⟨⟨identifier, context, resource, other⟩, ?_, ?_⟩
  . exact Option.map_eq_some_iff.mpr ⟨event, hOther, rfl⟩
  . apply (head.reads (identifier, context, resource)).bind
    exact hReads.bind_pure (.pure _)

theorem run_usbError (message : EventMessage .noStd) (h : message.event.usbError = true)
    : (deserialize .std).run (serialize .noStd message) = none := by
  apply (head.reads (message.identifier, message.context, message.resource)).bind_eq_none
  have hRun := Event.run_usbError message.event h
  simp only [StateT.run_bind, hRun]
  rfl

theorem reads_noStd {message : EventMessage .std} {other : EventMessage .noStd}
    (h : toNoStd? message = some other)
    : ReadsFront (deserialize .noStd) (serialize .std message) other := by
  rcases Option.map_eq_some_iff.mp h with ⟨event, hEvent, hEq⟩
  rw [← hEq]
  apply (head.reads (message.identifier, message.context, message.resource)).bind_front
  exact (Event.reads_noStd hEvent).map

end EventMessage

namespace Message

def usbError {build : Build} : Message build → Bool
  | .event message => message.event.usbError
  | .command _ => false

theorem reads_std (message : Message .noStd) (h : message.usbError = false)
    : ∃ other,
        toNoStd? other = some message
          ∧
        Reads (deserialize .std) (serialize .noStd message) other := by
  cases message with
  | command value =>
    exact ⟨.command value, rfl,
      (reads_index 0 (by decide)).bind (CommandMessage.codec.reads value).map⟩
  | event value =>
    rcases EventMessage.reads_std value h with ⟨other, hOther, hReads⟩
    refine ⟨.event other, ?_, (reads_index 1 (by decide)).bind hReads.map⟩
    exact Option.map_eq_some_iff.mpr ⟨value, hOther, rfl⟩

theorem run_usbError (message : Message .noStd) (h : message.usbError = true)
    : (deserialize .std).run (serialize .noStd message) = none := by
  cases message with
  | command => contradiction
  | event value =>
    apply (reads_index 1 (by decide)).bind_eq_none
    have hRun := EventMessage.run_usbError value h
    simp only [StateT.run_map, hRun]
    rfl

theorem reads_noStd {message : Message .std} {other : Message .noStd}
    (h : toNoStd? message = some other)
    : ReadsFront (deserialize .noStd) (serialize .std message) other := by
  cases message with
  | command value =>
    injection h with h
    rw [← h]
    exact ((reads_index 0 (by decide)).bind (CommandMessage.codec.reads value).map).front
  | event value =>
    rcases Option.map_eq_some_iff.mp h with ⟨bounded, hBounded, hEq⟩
    rw [← hEq]
    exact (reads_index 1 (by decide)).bind_front (EventMessage.reads_noStd hBounded).map

theorem fromBytes_serialize_iff (message : Message .noStd)
    : ((∃ other, fromBytes .std (serialize .noStd message) = some other
        ∧ toNoStd? other = some message)
        ↔
      message.usbError = false)
        ∧
      ∀ (sent : Message .std) (other : Message .noStd), toNoStd? sent = some other →
        fromBytes .noStd (serialize .std sent) = some other := by
  constructor
  . constructor
    . rintro ⟨other, hBytes, _⟩
      cases hUsb : message.usbError with
      | false => rfl
      | true =>
        unfold fromBytes Serde.fromBytes at hBytes
        rw [run_usbError message hUsb] at hBytes
        contradiction
    . intro hUsb
      rcases reads_std message hUsb with ⟨other, hOther, hReads⟩
      exact ⟨other, hReads.fromBytes_eq, hOther⟩
  . intro sent other hOther
    exact (reads_noStd hOther).fromBytes_eq

/-
Without the detail the `std` build finds no string behind the index of a USB error.
-/
theorem not_fromBytes_serialize
    : ¬ ∀ message : Message .noStd, ∃ other,
        fromBytes .std (serialize .noStd message) = some other
          ∧
        toNoStd? other = some message := by
  intro hAll
  let failed : Error .noStd := .usb (show USBError .noStd from ())
  rcases hAll (.event ⟨0, none, none, .error failed⟩) with ⟨other, hBytes, _⟩
  unfold fromBytes Serde.fromBytes at hBytes
  rw [run_usbError _ rfl] at hBytes
  contradiction

end Message
end Enody
