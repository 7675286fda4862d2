import Enody.Wifi.Impl.Handshake

/-!
This module contains `generate_token_from_endpoint` of `wifi.rs` as a transition system: the pairing handshake, and
the loop that reads the events of the device, one frame after the other, until it has a token or the time is over.
Bytes arrive in any pieces, and the time passes between any two steps.
-/

namespace Enody
namespace Wifi

open Message

def pairingTokenTimeout : Nat := 45 * 1000000000

inductive PairingEvent where
  | approval (method : String)
  | token (token : Message.Token)

def pairingEvent : Event .std → Except (Error .std) PairingEvent
  | .runtime (.tokenGenerateApproval method) => .ok (.approval method.val)
  | .runtime (.tokenGenerated token) => .ok (.token token)
  | .error error => .error error
  | _ => .error .unexpectedResponse

/-
The body of the loop after `read_frame`. `counter` is the nonce of the receiving direction.
-/
def handlePairingFrame (noise : Noise) (counter : Nat) : Response → Except (Error .std) PairingEvent
  | .pairingNoise payload =>
    match noise.readMessage counter payload.items with
    | .error error => .error (noiseError error)
    | .ok plaintext =>
      match Message.fromBytes .std plaintext with
      | none => .error .serialization
      | some (.command _) => .error .unexpectedResponse
      | some (.event message) => pairingEvent message.event
  | .error error => .error (wifiError error)
  | .noise _ => .error .unexpectedResponse

/--
`looping` stands at the head of the loop, `awaiting` in its `timeout`.
-/
inductive PairingPhase where
  | connecting
  | greeting (noise : HandshakeState) (bytes : List UInt8)
  | handshaking (noise : HandshakeState)
  | looping (noise : Noise) (deadline counter : Nat)
  | awaiting (noise : Noise) (deadline counter : Nat)
  | ended (result : Except (Error .std) Message.Token)

/--
`socket` holds the bytes that have arrived and do not belong to a frame that has been read, `wire` what has been
written, `approvals` the arguments of the calls of `on_approval`.
-/
structure Pairing where
  socket : List UInt8
  closed : Bool
  now : Nat
  wire : List UInt8
  approvals : List String
  phase : PairingPhase

inductive PairingLabel where
  | connect (result : Except String Unit)
  | write (result : Except String Unit)
  | arrive (bytes : List UInt8)
  | close
  | socketError (detail : String)
  | readFrame
  | check
  | elapse
  | tick (duration : Nat)

namespace Pairing

def initial : Pairing where
  socket := []
  closed := false
  now := 0
  wire := []
  approvals := []
  phase := .connecting

def greet (snow : Snow) : Except (Error .std) (HandshakeState × List UInt8) := do
  let noise ← buildPairingNoiseInitiator snow
  let handshake ← noise.writeMessage.mapError noiseError
  let frame ← clientPairingNoiseFrame handshake
  let bytes ← writeFrame requestPostcard frame
  return (noise, bytes)

def connect (snow : Snow) (pairing : Pairing) (result : Except String Unit) : Option Pairing :=
  match pairing.phase with
  | .connecting =>
    match result with
    | .error detail => some { pairing with phase := .ended (.error (.debugText detail)) }
    | .ok () =>
      match greet snow with
      | .error error => some { pairing with phase := .ended (.error error) }
      | .ok (noise, bytes) => some { pairing with phase := .greeting noise bytes }
  | _ => none

def write (pairing : Pairing) (result : Except String Unit) : Option Pairing :=
  match pairing.phase with
  | .greeting noise bytes =>
    match result with
    | .error detail => some { pairing with phase := .ended (.error (.debugText detail)) }
    | .ok () => some { pairing with wire := pairing.wire ++ bytes, phase := .handshaking noise }
  | _ => none

def arrive (pairing : Pairing) (bytes : List UInt8) : Option Pairing :=
  if pairing.closed then none else some { pairing with socket := pairing.socket ++ bytes }

def socketError (pairing : Pairing) (detail : String) : Option Pairing :=
  match pairing.phase with
  | .handshaking _ => some { pairing with phase := .ended (.error (.debugText detail)) }
  | .awaiting _ _ _ => some { pairing with phase := .ended (.error (.debugText detail)) }
  | _ => none

def handshakeResponse (noise : HandshakeState) : Response → Except (Error .std) TransportState
  | .pairingNoise payload => finishHandshake noise payload.items
  | .error error => .error (wifiError error)
  | .noise _ => .error .unexpectedResponse

/-
`read_frame` with the bytes of a whole frame, or with what there is when the stream has ended.
-/
def readFrame (pairing : Pairing) : Option Pairing :=
  match pairing.phase with
  | .handshaking noise =>
    match Wifi.readFrame responsePostcard pairing.socket with
    | .pending => if pairing.closed then some { pairing with phase := .ended (.error earlyEof) } else none
    | .failed error => some { pairing with phase := .ended (.error error) }
    | .frame frame rest =>
      match handshakeResponse noise frame with
      | .error error => some { pairing with socket := rest, phase := .ended (.error error) }
      | .ok transport =>
        some
          { pairing with
            socket := rest
            phase := .looping transport.receiving (pairing.now + pairingTokenTimeout) 0 }
  | .awaiting noise deadline counter =>
    match Wifi.readFrame responsePostcard pairing.socket with
    | .pending => if pairing.closed then some { pairing with phase := .ended (.error earlyEof) } else none
    | .failed error => some { pairing with phase := .ended (.error error) }
    | .frame frame rest =>
      match handlePairingFrame noise counter frame with
      | .error error => some { pairing with socket := rest, phase := .ended (.error error) }
      | .ok (.token token) => some { pairing with socket := rest, phase := .ended (.ok token) }
      | .ok (.approval method) =>
        some
          { pairing with
            socket := rest
            approvals := pairing.approvals ++ [method]
            phase := .looping noise deadline (counter + 1) }
  | _ => none

/-
The head of the loop: `checked_duration_since` yields no duration behind the deadline.
-/
def check (pairing : Pairing) : Option Pairing :=
  match pairing.phase with
  | .looping noise deadline counter =>
    if pairing.now ≤ deadline then
      some { pairing with phase := .awaiting noise deadline counter }
    else
      some { pairing with phase := .ended (.error .timeout) }
  | _ => none

/-
`timeout` looks for a frame first.
-/
def elapse (pairing : Pairing) : Option Pairing :=
  match pairing.phase with
  | .awaiting _ deadline _ =>
    if deadline ≤ pairing.now then
      match Wifi.readFrame responsePostcard pairing.socket with
      | .pending => if pairing.closed then none else some { pairing with phase := .ended (.error .timeout) }
      | _ => none
    else
      none
  | _ => none

def step (snow : Snow) (pairing : Pairing) : PairingLabel → Option Pairing
  | .connect result => pairing.connect snow result
  | .write result => pairing.write result
  | .arrive bytes => pairing.arrive bytes
  | .close => some { pairing with closed := true }
  | .socketError detail => pairing.socketError detail
  | .readFrame => pairing.readFrame
  | .check => pairing.check
  | .elapse => pairing.elapse
  | .tick duration => some { pairing with now := pairing.now + duration }

end Pairing

end Wifi
end Enody
