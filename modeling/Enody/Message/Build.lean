import Enody.Message.Codec

/-!
This module contains the serialization of the wire types that depend on the build, up to `Message`. In the
`std` build the details of an error are strings, in the `no_std` build a bounded string and nothing.
-/

namespace Enody

open Serde Message

namespace DebugError

def serialize : (build : Build) → DebugError build → List UInt8
  | .std, detail => serializeStr detail
  | .noStd, detail => (HString.codec 128 (by decide)).serialize detail

def deserialize : (build : Build) → Deserializer (DebugError build)
  | .std => deserializeStr
  | .noStd => (HString.codec 128 (by decide)).deserialize

/-
The detail of the `no_std` build with the same text, when it fits.
-/
def toNoStd? (detail : DebugError .std) : Option (DebugError .noStd) :=
  let text : String := detail
  if h : text.utf8ByteSize ≤ 128 then some (⟨text, h⟩ : HString 128) else none

def toStd (detail : DebugError .noStd) : DebugError .std :=
  let bounded : HString 128 := detail
  bounded.val

end DebugError

namespace USBError

def toStd (_ : USBError .noStd) : USBError .std :=
  show String from ""

def serialize : (build : Build) → USBError build → List UInt8
  | .std, detail => serializeStr detail
  | .noStd, detail => Codec.unit.serialize detail

def deserialize : (build : Build) → Deserializer (USBError build)
  | .std => deserializeStr
  | .noStd => Codec.unit.deserialize

end USBError

namespace Error

def serialize (build : Build) : Error build → List UInt8
  | .unknown => putVarint 4 0
  | .debug detail => putVarint 4 1 ++ DebugError.serialize build detail
  | .unsupported => putVarint 4 2
  | .usb detail => putVarint 4 3 ++ USBError.serialize build detail
  | .serialization => putVarint 4 4
  | .busy => putVarint 4 5
  | .insufficientData => putVarint 4 6
  | .unexpectedResponse => putVarint 4 7
  | .timeout => putVarint 4 8
  | .argument => putVarint 4 9
  | .permission => putVarint 4 10
  | .canceled => putVarint 4 11

def deserialize (build : Build) : Deserializer (Error build) := do
  match ← takeVarint 15 4 with
  | 0 => return .unknown
  | 1 => .debug <$> DebugError.deserialize build
  | 2 => return .unsupported
  | 3 => .usb <$> USBError.deserialize build
  | 4 => return .serialization
  | 5 => return .busy
  | 6 => return .insufficientData
  | 7 => return .unexpectedResponse
  | 8 => return .timeout
  | 9 => return .argument
  | 10 => return .permission
  | 11 => return .canceled
  | _ => failure

/-
The error of the `no_std` build that means the same. A USB error has no detail there.
-/
def toNoStd? : Error .std → Option (Error .noStd)
  | .unknown => some .unknown
  | .debug detail => (DebugError.toNoStd? detail).map .debug
  | .unsupported => some .unsupported
  | .usb _ => some (.usb (show USBError .noStd from ()))
  | .serialization => some .serialization
  | .busy => some .busy
  | .insufficientData => some .insufficientData
  | .unexpectedResponse => some .unexpectedResponse
  | .timeout => some .timeout
  | .argument => some .argument
  | .permission => some .permission
  | .canceled => some .canceled

def toStd : Error .noStd → Error .std
  | .unknown => .unknown
  | .debug detail => .debug detail.toStd
  | .unsupported => .unsupported
  | .usb detail => .usb detail.toStd
  | .serialization => .serialization
  | .busy => .busy
  | .insufficientData => .insufficientData
  | .unexpectedResponse => .unexpectedResponse
  | .timeout => .timeout
  | .argument => .argument
  | .permission => .permission
  | .canceled => .canceled

end Error

namespace Message

namespace Event

def serialize (build : Build) : Event build → List UInt8
  | .error value => putVarint 4 0 ++ Error.serialize build value
  | .internal => putVarint 4 1
  | .host value => putVarint 4 2 ++ HostEvent.codec.serialize value
  | .runtime value => putVarint 4 3 ++ RuntimeEvent.codec.serialize value
  | .environment value => putVarint 4 4 ++ EnvironmentEvent.codec.serialize value
  | .fixture value => putVarint 4 5 ++ FixtureEvent.codec.serialize value
  | .source value => putVarint 4 6 ++ SourceEvent.codec.serialize value
  | .emitter value => putVarint 4 7 ++ EmitterEvent.codec.serialize value

def deserialize (build : Build) : Deserializer (Event build) := do
  match ← takeVarint 15 4 with
  | 0 => .error <$> Error.deserialize build
  | 1 => return .internal
  | 2 => .host <$> HostEvent.codec.deserialize
  | 3 => .runtime <$> RuntimeEvent.codec.deserialize
  | 4 => .environment <$> EnvironmentEvent.codec.deserialize
  | 5 => .fixture <$> FixtureEvent.codec.deserialize
  | 6 => .source <$> SourceEvent.codec.deserialize
  | 7 => .emitter <$> EmitterEvent.codec.deserialize
  | _ => failure

def toNoStd? : Event .std → Option (Event .noStd)
  | .error value => value.toNoStd?.map .error
  | .internal => some .internal
  | .host value => some (.host value)
  | .runtime value => some (.runtime value)
  | .environment value => some (.environment value)
  | .fixture value => some (.fixture value)
  | .source value => some (.source value)
  | .emitter value => some (.emitter value)

def toStd : Event .noStd → Event .std
  | .error value => .error value.toStd
  | .internal => .internal
  | .host value => .host value
  | .runtime value => .runtime value
  | .environment value => .environment value
  | .fixture value => .fixture value
  | .source value => .source value
  | .emitter value => .emitter value

end Event
end Message

namespace EventMessage

def head : Codec (Identifier × Option Identifier × Option Identifier) :=
  Identifier.codec.pair (Identifier.codec.option.pair Identifier.codec.option)

def serialize (build : Build) (message : EventMessage build) : List UInt8 :=
  head.serialize (message.identifier, message.context, message.resource)
    ++ Event.serialize build message.event

def deserialize (build : Build) : Deserializer (EventMessage build) := do
  let (identifier, context, resource) ← head.deserialize
  let event ← Event.deserialize build
  return ⟨identifier, context, resource, event⟩

def toNoStd? (message : EventMessage .std) : Option (EventMessage .noStd) :=
  message.event.toNoStd?.map fun event =>
    ⟨message.identifier, message.context, message.resource, event⟩

def toStd (message : EventMessage .noStd) : EventMessage .std :=
  ⟨message.identifier, message.context, message.resource, message.event.toStd⟩

end EventMessage

namespace Message

def serialize (build : Build) : Message build → List UInt8
  | .command message => putVarint 4 0 ++ CommandMessage.codec.serialize message
  | .event message => putVarint 4 1 ++ EventMessage.serialize build message

def deserialize (build : Build) : Deserializer (Message build) := do
  match ← takeVarint 15 4 with
  | 0 => .command <$> CommandMessage.codec.deserialize
  | 1 => .event <$> EventMessage.deserialize build
  | _ => failure

/-
`postcard::from_bytes`
-/
def fromBytes (build : Build) (bytes : List UInt8) : Option (Message build) :=
  Serde.fromBytes (deserialize build) bytes

/-
The message of the `no_std` build that means the same, `none` when a string does not fit.
-/
def toNoStd? : Message .std → Option (Message .noStd)
  | .command message => some (.command message)
  | .event message => message.toNoStd?.map .event

/-
The message of the `std` build that means the same.
-/
def toStd : Message .noStd → Message .std
  | .command message => .command message
  | .event message => .event message.toStd

end Message
end Enody
