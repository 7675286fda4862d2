import Enody.Wifi.Impl.Handshake
import Enody.Wifi.Lemmas.Limits

/-!
This module contains whom a `WifiConnection` authenticates with, whatever the peer answers. The prologue of the
handshake determines the key and the host that it is for, so a response that has been made with any other token is
not accepted.
-/

namespace Enody
namespace Wifi

open Message Serde Fallible

section Prologue

theorem ofLeBytes_reverse_uuidBytes (identifier : Identifier)
    : ofLeBytes (uuidBytes identifier).reverse = identifier.toNat := by
  unfold uuidBytes
  rw [List.reverse_reverse, ofLeBytes_leBytes (by have := identifier.isLt; omega)]

theorem uuidBytes_injective {identifier other : Identifier} (h : uuidBytes identifier = uuidBytes other)
    : identifier = other := by
  apply BitVec.eq_of_toNat_eq
  rw [← ofLeBytes_reverse_uuidBytes, ← ofLeBytes_reverse_uuidBytes, h]

theorem length_uuidBytes (identifier : Identifier) : (uuidBytes identifier).length = 16 := by
  unfold uuidBytes
  rw [List.length_reverse, length_leBytes]

theorem utf8_injective {s t : String} (h : utf8 s = utf8 t) : s = t := by
  have hSame := fromUTF8?_utf8 s
  rw [h, fromUTF8?_utf8 t] at hSame
  injection hSame with hSame
  exact hSame.symm

/-
The identifier has a fixed length, so it can be told from the key.
-/
theorem noisePrologue_injective {keyId otherKeyId : TokenKeyId} {hostId otherHostId : Identifier}
    (h : noisePrologue keyId hostId = noisePrologue otherKeyId otherHostId)
    : keyId = otherKeyId ∧ hostId = otherHostId := by
  unfold noisePrologue at h
  rcases List.append_inj' h (by rw [length_uuidBytes, length_uuidBytes]) with ⟨hKey, hHost⟩
  have hText := utf8_injective (List.append_cancel_left hKey)
  refine ⟨?_, uuidBytes_injective hHost⟩
  cases keyId
  cases otherKeyId
  simp only at hText
  subst hText
  rfl

end Prologue

structure Credentials where
  key : List UInt8
  keyId : TokenKeyId
  hostId : Identifier
  deriving DecidableEq

def Credentials.ofConnection (connection : WifiConnection) : Credentials :=
  ⟨connection.key, connection.keyId, connection.identifier⟩

/-
`made key prologue message response payload`: a responder with this pre-shared key and this prologue has answered the
message of an initiator with the response, which carries the payload.
-/
abbrev Made := List UInt8 → List UInt8 → List UInt8 → List UInt8 → List UInt8 → Prop

/--
What the Noise protocol promises about `Noise_NNpsk0`: an initiator can be built, its message fits a frame, and it
accepts exactly the responses to this message that have been made with its own key and prologue. A response is not
made with two keys or two prologues.
-/
structure Snow.Agrees (snow : Snow) (made : Made) (key prologue : List UInt8) : Prop where
  builds : ∃ state message,
    snow.buildInitiator (some key) prologue = .ok state
      ∧
    state.writeMessage = .ok message
      ∧
    message.length ≤ wifiFramePayloadMaxLen
      ∧
    (∀ response payload, state.readMessage response = .ok payload ↔ made key prologue message response payload)
      ∧
    ∀ response payload, made key prologue message response payload →
      ∃ transport, state.intoTransportMode response = .ok transport
  unique : ∀ message response payload otherKey otherPrologue otherPayload,
    made key prologue message response payload →
      made otherKey otherPrologue message response otherPayload → otherKey = key ∧ otherPrologue = prologue

def Credentials.Answers (made : Made) (device : Credentials) (message response : List UInt8) : Prop :=
  made device.key (noisePrologue device.keyId device.hostId) message response []

section Authenticate

variable {σ : Type} {server : Script.Server StreamCall StreamCall.Response σ} {snow : Snow} {made : Made}
  {connection : WifiConnection}

abbrev StreamLog := Script.Log StreamCall StreamCall.Response

def requestBytes (request : Request) : List UInt8 :=
  u16ToBeBytes (Request.codec.serialize request).length ++ Request.codec.serialize request

def sendsHello (connection : WifiConnection) : StreamCall :=
  .writeAll (requestBytes (.hello wifiApiVersion connection.keyId))

def sendsNoise (message : NoisePayload) : StreamCall := .writeAll (requestBytes (.noise message))

/--
What follows from a response: only the credentials of the token make one that is accepted.
-/
inductive ResponseEnds (made : Made) (connection : WifiConnection) (message : List UInt8)
    : Response → Except (Error .std) TransportState → Prop where
  | accepted {payload : NoisePayload} {transport : TransportState} :
      (∀ device : Credentials, device.Answers made message payload.items ↔ device = .ofConnection connection) →
        ResponseEnds made connection message (.noise payload) (.ok transport)
  | foreign {payload : NoisePayload} {error : Error .std} :
      ¬ (Credentials.ofConnection connection).Answers made message payload.items →
        ResponseEnds made connection message (.noise payload) (.error error)
  | pairing {payload : NoisePayload} :
      ResponseEnds made connection message (.pairingNoise payload) (.error .unexpectedResponse)
  | refused {error : WifiError} : ResponseEnds made connection message (.error error) (.error (wifiError error))

/--
The calls of `authenticate` up to the first one that fails, and the result.
-/
inductive AuthenticateEnds (made : Made) (connection : WifiConnection) (message : NoisePayload)
    : StreamLog → Except (Error .std) TransportState → Prop where
  | hello {error : Error .std} :
      AuthenticateEnds made connection message [⟨sendsHello connection, .error error⟩] (.error error)
  | noise {error : Error .std} :
      AuthenticateEnds made connection message
        [⟨sendsHello connection, .ok ()⟩, ⟨sendsNoise message, .error error⟩] (.error error)
  | read {error : Error .std} :
      AuthenticateEnds made connection message
        [⟨sendsHello connection, .ok ()⟩, ⟨sendsNoise message, .ok ()⟩, ⟨.readFrame, .error error⟩]
        (.error error)
  | response {response : Response} {result : Except (Error .std) TransportState} :
      ResponseEnds made connection message.items response result →
        AuthenticateEnds made connection message
          [⟨sendsHello connection, .ok ()⟩, ⟨sendsNoise message, .ok ()⟩, ⟨.readFrame, .ok response⟩] result

theorem run_writeRequest (request : Request) (s : σ)
    : (writeRequest request).run.run server s = server s (.writeAll (requestBytes request)) := by
  unfold writeRequest
  rw [run_bind, run_ofExcept, requestPostcard, (framed_request request).writeFrame_eq]
  exact run_attempt _ _

theorem Snow.Agrees.answers_iff
    (h : snow.Agrees made connection.key (noisePrologue connection.keyId connection.identifier))
    {message response : List UInt8} (hAnswers : (Credentials.ofConnection connection).Answers made message response)
    (device : Credentials)
    : device.Answers made message response ↔ device = .ofConnection connection := by
  constructor
  . intro hDevice
    rcases h.unique _ _ _ _ _ _ hAnswers hDevice with ⟨hKey, hPrologue⟩
    rcases noisePrologue_injective hPrologue with ⟨hKeyId, hHost⟩
    cases device
    simp only at hKey hKeyId hHost
    rw [Credentials.ofConnection, hKey, hKeyId, hHost]
  . intro hDevice
    rw [hDevice]
    exact hAnswers

theorem finishHandshake_spec {state : HandshakeState} {message : List UInt8}
    (h : snow.Agrees made connection.key (noisePrologue connection.keyId connection.identifier))
    (hReads : ∀ response payload, state.readMessage response = .ok payload
      ↔ made connection.key (noisePrologue connection.keyId connection.identifier) message response payload)
    (hTransport : ∀ response payload,
      made connection.key (noisePrologue connection.keyId connection.identifier) message response payload →
        ∃ transport, state.intoTransportMode response = .ok transport)
    (payload : NoisePayload)
    : ResponseEnds made connection message (.noise payload) (finishHandshake state payload.items) := by
  unfold finishHandshake
  cases hRead : state.readMessage payload.items with
  | error error =>
    refine .foreign fun hAnswers => ?_
    rw [(hReads _ _).mpr hAnswers] at hRead
    contradiction
  | ok received =>
    cases received with
    | nil =>
      have hAnswers := (hReads _ _).mp hRead
      rcases hTransport _ _ hAnswers with ⟨transport, hOk⟩
      simp only [List.isEmpty_nil, ↓reduceIte, hOk, Except.mapError]
      exact .accepted (h.answers_iff hAnswers)
    | cons byte received =>
      refine .foreign fun hAnswers => ?_
      rw [(hReads _ _).mpr hAnswers] at hRead
      injection hRead with hNil
      contradiction

theorem AuthenticateEnds.accepts_iff {message : NoisePayload} {log : StreamLog}
    {result : Except (Error .std) TransportState} (h : AuthenticateEnds made connection message log result)
    {payload : NoisePayload} (hLast : log.getLast? = some ⟨.readFrame, .ok (.noise payload)⟩)
    : (∃ transport, result = .ok transport)
        ↔
      (Credentials.ofConnection connection).Answers made message.items payload.items := by
  cases h with
  | hello => cases hLast
  | noise => cases hLast
  | read => cases hLast
  | response hEnds =>
    cases hLast
    cases hEnds with
    | accepted hOnly => exact iff_of_true ⟨_, rfl⟩ ((hOnly _).mpr rfl)
    | foreign hForeign => exact iff_of_false (fun ⟨_, hOk⟩ => by contradiction) hForeign

/--
Whatever the peer does, `authenticate` sends the hello and its handshake message and reads one response. It returns a
transport exactly when this response has been made with the key, the key identifier and the host identifier of its
token, and otherwise the error of the call that failed, the one that the peer names, or that of the handshake.
-/
theorem authenticate_agrees (connection : WifiConnection)
    (h : snow.Agrees made connection.key (noisePrologue connection.keyId connection.identifier))
    (server : Script.Server StreamCall StreamCall.Response σ) (s : σ)
    : ∃ message, AuthenticateEnds made connection message
        ((authenticate snow connection).run.run server.logged (s, [])).2.2
        ((authenticate snow connection).run.run server.logged (s, [])).1 := by
  rcases h.builds with ⟨state, message, hBuild, hMessage, hFits, hReads, hTransport⟩
  have hInitiator : buildNoiseInitiator snow connection = .ok state := by
    unfold buildNoiseInitiator
    rw [hBuild]
    rfl
  have hFrame : clientNoiseFrame message = .ok (.noise ⟨message, hFits⟩) := by
    unfold clientNoiseFrame HVec.fromSlice
    rw [dif_pos hFits]
  refine ⟨⟨message, hFits⟩, ?_⟩
  unfold authenticate
  rw [run_bind, run_writeRequest]
  rcases hHello : server s (sendsHello connection) with ⟨_ | _, t⟩
  . simp only [sendsHello] at hHello
    simp only [Script.Server.logged, hHello, List.nil_append]
    exact .hello
  simp only [sendsHello] at hHello
  simp only [Script.Server.logged, hHello, List.nil_append]
  rw [run_bind, run_ofExcept, hInitiator]
  simp only
  rw [run_bind, run_ofExcept, hMessage]
  simp only [Except.mapError]
  rw [run_bind, run_ofExcept, hFrame]
  simp only
  rw [run_bind, run_writeRequest]
  rcases hNoise : server t (sendsNoise ⟨message, hFits⟩) with ⟨_ | _, u⟩
  . simp only [sendsNoise] at hNoise
    simp only [Script.Server.logged, hNoise]
    exact .noise
  simp only [sendsNoise] at hNoise
  simp only [Script.Server.logged, hNoise]
  rw [run_bind, run_attempt]
  rcases hRead : server u .readFrame with ⟨_ | response, v⟩
  . simp only [Script.Server.logged, hRead]
    exact .read
  simp only [Script.Server.logged, hRead]
  cases response with
  | noise payload => exact .response (finishHandshake_spec h hReads hTransport payload)
  | pairingNoise payload => exact .response .pairing
  | error error => exact .response .refused

end Authenticate

def openMade : Made := fun key prologue _ response payload =>
  key.length = 32 ∧ response = key ++ prologue ∧ payload = []

def openSnow : Snow where
  buildInitiator key prologue :=
    .ok
      { writeMessage := .ok [6]
        readMessage response := if response = key.getD [] ++ prologue then .ok [] else .error .decrypt
        intoTransportMode _ := .ok ⟨nonceTagNoise, nonceTagNoise⟩ }

theorem openSnow_agrees {key prologue : List UInt8} (hKey : key.length = 32)
    : openSnow.Agrees openMade key prologue where
  builds := by
    refine ⟨_, _, rfl, rfl, by decide, ?_, fun _ _ _ => ⟨_, rfl⟩⟩
    intro response payload
    by_cases hResponse : response = key ++ prologue
    . simp [openMade, hKey, hResponse, eq_comm]
    . simp [openMade, hResponse]
  unique := by
    rintro message response payload otherKey otherPrologue otherPayload ⟨_, hResponse, _⟩ ⟨hOther, hSame, _⟩
    rw [hResponse] at hSame
    rcases List.append_inj hSame (by rw [hKey, hOther]) with ⟨hKeys, hPrologues⟩
    exact ⟨hKeys.symm, hPrologues.symm⟩

def lampConnection : WifiConnection where
  endpoint := "ep01.local:8788"
  identifier := 3
  keyId := ⟨"lamp", by decide⟩
  key := List.replicate 32 3
  key_length := by decide

def lampAnswer (hostId : Identifier) : NoisePayload where
  items := lampConnection.key ++ noisePrologue lampConnection.keyId hostId
  fits := by
    unfold noisePrologue
    rw [List.length_append, List.length_append, length_uuidBytes]
    decide +kernel

def answeringPeer (answer : NoisePayload) : Script.Server StreamCall StreamCall.Response Unit := fun _ call =>
  match call with
  | .writeAll _ => (.ok (), ())
  | .readFrame => (.ok (.noise answer), ())

theorem otherLamp_refused
    : (∃ transport,
        ((authenticate openSnow lampConnection).run.run (answeringPeer (lampAnswer 3)).logged ((), [])).1
          = .ok transport)
        ∧
      ¬ ∃ transport,
        ((authenticate openSnow lampConnection).run.run (answeringPeer (lampAnswer 4)).logged ((), [])).1
          = .ok transport := by
  have hSnow : openSnow.Agrees openMade lampConnection.key
      (noisePrologue lampConnection.keyId lampConnection.identifier) := openSnow_agrees (by decide)
  constructor
  . rcases authenticate_agrees lampConnection hSnow (answeringPeer (lampAnswer 3)) () with ⟨message, hEnds⟩
    exact (hEnds.accepts_iff rfl).mpr ⟨by decide, rfl, rfl⟩
  . rcases authenticate_agrees lampConnection hSnow (answeringPeer (lampAnswer 4)) () with ⟨message, hEnds⟩
    rw [hEnds.accepts_iff rfl]
    rintro ⟨_, hAnswer, _⟩
    have hHost := (noisePrologue_injective (List.append_cancel_left hAnswer)).2
    exact absurd hHost (by decide)

end Wifi
end Enody
