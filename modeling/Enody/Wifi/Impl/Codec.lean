import Enody.Message.Build
import Enody.Wifi.Impl.SendMessage

/-!
This module contains the frames of `wifi.rs` with the serialization that `serde` derives for them, and
sequences of frames on a stream.
-/

namespace Enody
namespace Wifi

open Message

def WifiError.codec : Serde.Codec WifiError :=
  .enum
    [.unit .badRequest, .unit .unauthorized, .unit .unsupportedVersion, .unit .runtime]
    (fun
      | .badRequest => ⟨0, _, (), rfl, rfl⟩
      | .unauthorized => ⟨1, _, (), rfl, rfl⟩
      | .unsupportedVersion => ⟨2, _, (), rfl, rfl⟩
      | .runtime => ⟨3, _, (), rfl, rfl⟩)
    (by decide)

def NoisePayload.codec : Serde.Codec NoisePayload :=
  HVec.codec Serde.Codec.u8 wifiFramePayloadMaxLen (by decide)

def Request.codec : Serde.Codec Request :=
  .enum
    [.pair .pairingNoise Serde.Codec.u8 NoisePayload.codec,
      .pair .hello Serde.Codec.u8 TokenKeyId.codec, .newtype .noise NoisePayload.codec]
    (fun
      | .pairingNoise version payload => ⟨0, _, (version, payload), rfl, rfl⟩
      | .hello version keyId => ⟨1, _, (version, keyId), rfl, rfl⟩
      | .noise payload => ⟨2, _, payload, rfl, rfl⟩)
    (by decide)

def Response.codec : Serde.Codec Response :=
  .enum
    [.newtype .pairingNoise NoisePayload.codec, .newtype .noise NoisePayload.codec,
      .newtype .error WifiError.codec]
    (fun
      | .pairingNoise payload => ⟨0, _, payload, rfl, rfl⟩
      | .noise payload => ⟨1, _, payload, rfl, rfl⟩
      | .error value => ⟨2, _, value, rfl, rfl⟩)
    (by decide)

/-
`postcard::to_allocvec` and `postcard::from_bytes` at the type of a codec.
-/
def postcardOf {α : Type} (codec : Serde.Codec α) : Postcard α where
  toAllocvec value := some (codec.serialize value)
  fromBytes := Serde.fromBytes codec.deserialize

def messagePostcard : Postcard (Message .std) where
  toAllocvec message := some (message.serialize .std)
  fromBytes := Message.fromBytes .std

def wifiCrates (noise : Noise) : Crates := ⟨messagePostcard, postcardOf Request.codec, noise⟩

def writeFrames {α : Type} (postcard : Postcard α) : List α → Except (Error .std) (List UInt8)
  | [] => .ok []
  | value :: values => do
    let frame ← writeFrame postcard value
    let stream ← writeFrames postcard values
    return frame ++ stream

/-
`read_exact` on a stream that has ended.
-/
def earlyEof : Error .std := .debugText "early eof"

/-
At most `count` calls of `read_frame` on a stream that ends behind the bytes: the values, and the error of
the last call when it fails.
-/
def readFrames {α : Type} (postcard : Postcard α) : Nat → List UInt8 → List α × Option (Error .std)
  | 0, _ => ([], none)
  | count + 1, bytes =>
    match readFrame postcard bytes with
    | .pending => ([], some earlyEof)
    | .failed error => ([], some error)
    | .frame value rest =>
      let (values, error) := readFrames postcard count rest
      (value :: values, error)

end Wifi
end Enody
