import Enody.Transition.Run
import Enody.Wifi.Impl.Frame
import Mathlib.Logic.Function.Basic

/-!
This module contains `WifiConnection::send_message` as a transition system over any number of
concurrent calls on one connection. A call serializes its message, encrypts it under the noise lock,
releases that lock, and only then acquires the writer lock to write the frame. The step labels choose
which call moves, how many bytes the socket takes at once, and which call is cancelled: a future can
be dropped wherever it awaits, that is before it holds the noise lock, before it holds the writer lock
and while it writes.

`sealed` and `started` are history variables. They list what has been encrypted, in the order of the
nonces, and the nonces of the frames in the order in which their writing began.
-/

namespace Enody
namespace Wifi

structure Crates where
  message : Postcard (Message .std)
  request : Postcard Request
  noise : Noise

inductive SendPhase where
  | notCalled
  | waitNoise (message : Message .std) (payload : List UInt8)
  | holdNoise (message : Message .std) (payload : List UInt8)
  | encrypted (message : Message .std) (nonce : Nat) (ciphertext : List UInt8)
  | waitWriter (message : Message .std) (nonce : Nat) (frame : Request)
  | writing (message : Message .std) (nonce : Nat) (remaining : List UInt8)
  | returned (message : Message .std) (result : Except (Error .std) Unit)
  | cancelled

structure Sealed where
  call : CallId
  message : Message .std
  ciphertext : List UInt8

structure SendState where
  calls : CallId → SendPhase
  noiseLock : Option CallId
  writerLock : Option CallId
  nonce : Nat
  wire : List UInt8
  sealed : List Sealed
  started : List Nat

inductive SendLabel where
  | call (i : CallId) (message : Message .std)
  | lockNoise (i : CallId)
  | encrypt (i : CallId)
  | unlockNoise (i : CallId)
  | lockWriter (i : CallId)
  | write (i : CallId) (count : Nat)
  | writeError (i : CallId) (detail : String)
  | flush (i : CallId)
  | cancel (i : CallId)

namespace SendState

def initial : SendState where
  calls := fun _ => .notCalled
  noiseLock := none
  writerLock := none
  nonce := 0
  wire := []
  sealed := []
  started := []

def setCall (s : SendState) (i : CallId) (phase : SendPhase) : SendState :=
  { s with calls := Function.update s.calls i phase }

def call (crates : Crates) (s : SendState) (i : CallId) (message : Message .std)
    : Option SendState :=
  match s.calls i with
  | .notCalled =>
    match crates.message.toAllocvec message with
    | none => some (s.setCall i (.returned message (.error .serialization)))
    | some payload =>
      if payload.length > wifiMessageMaxLen then
        some (s.setCall i (.returned message (.error .serialization)))
      else
        some (s.setCall i (.waitNoise message payload))
  | _ => none

def lockNoise (s : SendState) (i : CallId) : Option SendState :=
  match s.calls i, s.noiseLock with
  | .waitNoise message payload, none =>
    some { s.setCall i (.holdNoise message payload) with noiseLock := some i }
  | _, _ => none

def encrypt (crates : Crates) (s : SendState) (i : CallId) : Option SendState :=
  match s.calls i with
  | .holdNoise message payload =>
    match crates.noise.writeMessage s.nonce payload with
    | .error error =>
      some { s.setCall i (.returned message (.error (noiseError error))) with noiseLock := none }
    | .ok ciphertext =>
      some
        { s.setCall i (.encrypted message s.nonce ciphertext) with
          nonce := s.nonce + 1
          sealed := s.sealed ++ [⟨i, message, ciphertext⟩] }
  | _ => none

def unlockNoise (s : SendState) (i : CallId) : Option SendState :=
  match s.calls i with
  | .encrypted message nonce ciphertext =>
    match clientNoiseFrame ciphertext with
    | .error error => some { s.setCall i (.returned message (.error error)) with noiseLock := none }
    | .ok frame => some { s.setCall i (.waitWriter message nonce frame) with noiseLock := none }
  | _ => none

def lockWriter (crates : Crates) (s : SendState) (i : CallId) : Option SendState :=
  match s.calls i, s.writerLock with
  | .waitWriter message nonce frame, none =>
    match writeFrame crates.request frame with
    | .error error => some (s.setCall i (.returned message (.error error)))
    | .ok bytes =>
      some
        { s.setCall i (.writing message nonce bytes) with
          writerLock := some i
          started := s.started ++ [nonce] }
  | _, _ => none

/-
One turn of `write_all`: the socket takes the first `count` of the remaining bytes.
-/
def write (s : SendState) (i : CallId) (count : Nat) : Option SendState :=
  match s.calls i with
  | .writing message nonce remaining =>
    if 0 < count ∧ count ≤ remaining.length then
      some
        { s.setCall i (.writing message nonce (remaining.drop count)) with
          wire := s.wire ++ remaining.take count }
    else
      none
  | _ => none

def writeError (s : SendState) (i : CallId) (detail : String) : Option SendState :=
  match s.calls i with
  | .writing message _ _ =>
    some { s.setCall i (.returned message (.error (.debugText detail))) with writerLock := none }
  | _ => none

def flush (s : SendState) (i : CallId) : Option SendState :=
  match s.calls i with
  | .writing message _ [] => some { s.setCall i (.returned message (.ok ())) with writerLock := none }
  | _ => none

def cancel (s : SendState) (i : CallId) : Option SendState :=
  match s.calls i with
  | .waitNoise _ _ => some (s.setCall i .cancelled)
  | .waitWriter _ _ _ => some (s.setCall i .cancelled)
  | .writing _ _ _ => some { s.setCall i .cancelled with writerLock := none }
  | _ => none

def step (crates : Crates) (s : SendState) : SendLabel → Option SendState
  | .call i message => s.call crates i message
  | .lockNoise i => s.lockNoise i
  | .encrypt i => s.encrypt crates i
  | .unlockNoise i => s.unlockNoise i
  | .lockWriter i => s.lockWriter crates i
  | .write i count => s.write i count
  | .writeError i detail => s.writeError i detail
  | .flush i => s.flush i
  | .cancel i => s.cancel i

/--
The condition on a step under which frames stay in order and complete: the writer lock goes to the
oldest frame that is not on the wire yet, and no call is cancelled or fails to write between its
encryption and the last byte of its frame.
-/
def inTurn (s : SendState) : SendLabel → Bool
  | .lockWriter i =>
    match s.calls i with
    | .waitWriter _ nonce _ => nonce == s.started.length
    | _ => true
  | .writeError i _ =>
    match s.calls i with
    | .writing _ _ remaining => remaining.isEmpty
    | _ => true
  | .cancel i =>
    match s.calls i with
    | .waitWriter _ _ _ => false
    | .writing _ _ remaining => remaining.isEmpty
    | _ => true
  | _ => true

end SendState

/--
The device at the other end of the wire. It reads the frames one after another, decrypts each with
a nonce counter that goes up by one per frame, and gives up at the first frame it cannot accept. The
result is what it has received so far and whether it has accepted all complete frames.
-/
def peerReceive (crates : Crates) (wire : List UInt8) : List (Message .std) × Bool :=
  go wire.length 0 wire
where
  go : Nat → Nat → List UInt8 → List (Message .std) × Bool
    | 0, _, _ => ([], true)
    | fuel + 1, counter, wire =>
      match readFrame crates.request wire with
      | .pending => ([], true)
      | .frame (.noise payload) rest =>
        match crates.noise.readMessage counter payload.items with
        | .error _ => ([], false)
        | .ok plaintext =>
          match crates.message.fromBytes plaintext with
          | none => ([], false)
          | some message =>
            let (messages, accepted) := go fuel (counter + 1) rest
            (message :: messages, accepted)
      | _ => ([], false)

end Wifi
end Enody
