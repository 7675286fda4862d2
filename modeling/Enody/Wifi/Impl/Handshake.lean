import Enody.Script.Basic
import Enody.Wifi.Impl.Device
import Enody.Wifi.Impl.ReadTask

/-!
This module contains the Noise handshakes of `wifi.rs`: their prologues, and how a `WifiConnection` authenticates
with its token. The crate snow is a parameter, and so is the stream: the bytes that are written, and the frames that
are read.
-/

namespace Enody
namespace Wifi

open Message Serde

def wifiApiVersion : UInt8 := 1

def noisePrologueLabel : List UInt8 := utf8 "enody-v1 noise"
def pairingNoisePrologueLabel : List UInt8 := utf8 "enody-v1 pairing"

/-
`Uuid::as_bytes`
-/
def uuidBytes (identifier : Identifier) : List UInt8 := (leBytes 16 identifier.toNat).reverse

def noisePrologue (keyId : TokenKeyId) (hostId : Identifier) : List UInt8 :=
  noisePrologueLabel ++ utf8 keyId.val ++ uuidBytes hostId

def pairingNoisePrologue : List UInt8 := pairingNoisePrologueLabel

structure TransportState where
  sending : Noise
  receiving : Noise

/--
A `snow::HandshakeState` of an initiator, with the payloads of its two messages. The transport depends on the
message that has been read.
-/
structure HandshakeState where
  writeMessage : Except SnowError (List UInt8)
  readMessage : List UInt8 → Except SnowError (List UInt8)
  intoTransportMode : List UInt8 → Except SnowError TransportState

/--
The builder of an initiator: with a pre-shared key for `WIFI_NOISE`, without one for `WIFI_PAIRING_NOISE`.
-/
structure Snow where
  buildInitiator : Option (List UInt8) → List UInt8 → Except SnowError HandshakeState

def buildNoiseInitiator (snow : Snow) (connection : WifiConnection) : Except (Error .std) HandshakeState :=
  (snow.buildInitiator (some connection.key) (noisePrologue connection.keyId connection.identifier)).mapError
    noiseError

def buildPairingNoiseInitiator (snow : Snow) : Except (Error .std) HandshakeState :=
  (snow.buildInitiator none pairingNoisePrologue).mapError noiseError

def clientPairingNoiseFrame (payload : List UInt8) : Except (Error .std) Request :=
  match HVec.fromSlice payload with
  | none => .error .serialization
  | some payload => .ok (.pairingNoise wifiApiVersion payload)

def requestPostcard : Postcard Request := postcardOf Request.codec

inductive StreamCall where
  | writeAll (bytes : List UInt8)
  | readFrame

abbrev StreamCall.Yield : StreamCall → Type
  | writeAll _ => Unit
  | readFrame => Response

abbrev StreamCall.Response (call : StreamCall) : Type := Except (Error .std) call.Yield

abbrev StreamScript (α : Type) := Fallible StreamCall StreamCall.Response (Error .std) α

def writeRequest (request : Request) : StreamScript Unit := do
  let bytes ← Fallible.ofExcept (writeFrame requestPostcard request)
  Fallible.attempt (StreamCall.writeAll bytes)

/-
What follows the response to a handshake: it must not have a payload of its own.
-/
def finishHandshake (noise : HandshakeState) (payload : List UInt8) : Except (Error .std) TransportState :=
  match noise.readMessage payload with
  | .error error => .error (noiseError error)
  | .ok received =>
    if received.isEmpty then
      (noise.intoTransportMode payload).mapError noiseError
    else
      .error .unexpectedResponse

def authenticate (snow : Snow) (connection : WifiConnection) : StreamScript TransportState := do
  writeRequest (.hello wifiApiVersion connection.keyId)
  let noise ← Fallible.ofExcept (buildNoiseInitiator snow connection)
  let handshake ← Fallible.ofExcept (noise.writeMessage.mapError noiseError)
  let frame ← Fallible.ofExcept (clientNoiseFrame handshake)
  writeRequest frame
  let response : Wifi.Response ← Fallible.attempt StreamCall.readFrame
  match response with
  | .noise payload => Fallible.ofExcept (finishHandshake noise payload.items)
  | .pairingNoise _ => throw .unexpectedResponse
  | .error error => throw (wifiError error)

end Wifi
end Enody
