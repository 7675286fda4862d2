import Enody.Message

/-!
This module contains the frames of `wifi.rs`: the postcard-serialized requests and responses, the
16-bit length prefix in front of them, and the size limits. The crates postcard and snow are parameters.
-/

namespace Enody
namespace Wifi

open Message

def noiseTagLen : Nat := 16
def wifiMessageMaxLen : Nat := 2048
def wifiFramePayloadMaxLen : Nat := wifiMessageMaxLen + noiseTagLen
def postcardFrameOverheadLen : Nat := 8
def frameMaxLen : Nat := wifiFramePayloadMaxLen + postcardFrameOverheadLen

inductive WifiError where
  | badRequest
  | unauthorized
  | unsupportedVersion
  | runtime

abbrev NoisePayload := HVec UInt8 wifiFramePayloadMaxLen

inductive Request where
  | pairingNoise (version : UInt8) (payload : NoisePayload)
  | hello (version : UInt8) (keyId : HString tokenStringMaxLen)
  | noise (payload : NoisePayload)

inductive Response where
  | pairingNoise (payload : NoisePayload)
  | noise (payload : NoisePayload)
  | error (error : WifiError)

/--
`postcard::to_allocvec` and `postcard::from_bytes` at one type, `none` is their `Err`.
-/
structure Postcard (α : Type) where
  toAllocvec : α → Option (List UInt8)
  fromBytes : List UInt8 → Option α

inductive SnowError where
  | decrypt
  | other (debug : String)

/--
One direction of a `snow::TransportState`: both functions get the nonce counter.
-/
structure Noise where
  writeMessage : Nat → List UInt8 → Except SnowError (List UInt8)
  readMessage : Nat → List UInt8 → Except SnowError (List UInt8)

def noiseError : SnowError → Error .std
  | .decrypt => .permission
  | .other debug => .debugText ("noise protocol error: " ++ debug)

def clientNoiseFrame (payload : List UInt8) : Except (Error .std) Request :=
  match HVec.fromSlice payload with
  | none => .error .serialization
  | some payload => .ok (.noise payload)

def u16ToBeBytes (len : Nat) : List UInt8 :=
  [UInt8.ofNat (len / 256), UInt8.ofNat len]

def writeFrame {α : Type} (postcard : Postcard α) (frame : α) : Except (Error .std) (List UInt8) :=
  match postcard.toAllocvec frame with
  | none => .error .serialization
  | some payload =>
    if payload.length < 65536 then
      .ok (u16ToBeBytes payload.length ++ payload)
    else
      .error .serialization

inductive ReadResult (α : Type) where
  | pending
  | failed (error : Error .std)
  | frame (value : α) (rest : List UInt8)

/-
`read_frame` on the bytes that have arrived so far, `pending` waits for more of them.
-/
def readFrame {α : Type} (postcard : Postcard α) : List UInt8 → ReadResult α
  | hi :: lo :: bytes =>
    let len := hi.toNat * 256 + lo.toNat
    if len = 0 ∨ len > frameMaxLen then
      .failed .insufficientData
    else if bytes.length < len then
      .pending
    else
      match postcard.fromBytes (bytes.take len) with
      | none => .failed .serialization
      | some value => .frame value (bytes.drop len)
  | _ => .pending

end Wifi
end Enody
