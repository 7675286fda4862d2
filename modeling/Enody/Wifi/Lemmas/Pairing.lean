import Enody.Result.Basic
import Enody.Wifi.Impl.Pairing
import Enody.Wifi.Lemmas.DeviceStream

/-!
This module contains what `generate_token_from_endpoint` makes of the frames of a device: the instructions that it
reports and the token that it returns are those of the frames behind the handshake, however the bytes arrive, and
it gives up by itself no earlier than 45 seconds after the handshake.
-/

namespace Enody
namespace Wifi

open Message Transition

def PairingLabel.arrived : PairingLabel → List UInt8
  | .arrive bytes => bytes
  | _ => []

def PairingLabel.duration : PairingLabel → Nat
  | .tick duration => duration
  | _ => 0

def arrived (labels : List PairingLabel) : List UInt8 := labels.flatMap PairingLabel.arrived

def passed (labels : List PairingLabel) : Nat := labels.foldl (fun time label => time + label.duration) 0

namespace Pairing

variable {snow : Snow} {pairing next : Pairing} {label : PairingLabel} {labels : List PairingLabel}

def isReading (pairing : Pairing) : Bool :=
  match pairing.phase with
  | .handshaking _ => true
  | .awaiting _ _ _ => true
  | _ => false

inductive StepCase (snow : Snow) (pairing : Pairing) : PairingLabel → Pairing → Prop where
  | connectFailed {detail : String} :
      pairing.phase = .connecting →
        StepCase snow pairing (.connect (.error detail))
          { pairing with phase := .ended (.error (.debugText detail)) }
  | greetFailed {error : Error .std} :
      pairing.phase = .connecting → greet snow = .error error →
        StepCase snow pairing (.connect (.ok ())) { pairing with phase := .ended (.error error) }
  | connected {noise : HandshakeState} {bytes : List UInt8} :
      pairing.phase = .connecting → greet snow = .ok (noise, bytes) →
        StepCase snow pairing (.connect (.ok ())) { pairing with phase := .greeting noise bytes }
  | writeFailed {noise : HandshakeState} {bytes : List UInt8} {detail : String} :
      pairing.phase = .greeting noise bytes →
        StepCase snow pairing (.write (.error detail))
          { pairing with phase := .ended (.error (.debugText detail)) }
  | written {noise : HandshakeState} {bytes : List UInt8} :
      pairing.phase = .greeting noise bytes →
        StepCase snow pairing (.write (.ok ()))
          { pairing with wire := pairing.wire ++ bytes, phase := .handshaking noise }
  | arrived {bytes : List UInt8} :
      StepCase snow pairing (.arrive bytes) { pairing with socket := pairing.socket ++ bytes }
  | closed : StepCase snow pairing .close { pairing with closed := true }
  | socketFailed {detail : String} :
      pairing.isReading = true →
        StepCase snow pairing (.socketError detail)
          { pairing with phase := .ended (.error (.debugText detail)) }
  | streamEnded :
      pairing.isReading = true → pairing.closed = true →
        StepCase snow pairing .readFrame { pairing with phase := .ended (.error earlyEof) }
  | handshakeFailed {noise : HandshakeState} {rest : List UInt8} {error : Error .std} :
      pairing.phase = .handshaking noise → Fails (fun _ => handshakeResponse noise) 0 pairing.socket error →
        StepCase snow pairing .readFrame { pairing with socket := rest, phase := .ended (.error error) }
  | established {noise : HandshakeState} {frame : Response} {rest : List UInt8} {transport : TransportState} :
      pairing.phase = .handshaking noise → Wifi.readFrame responsePostcard pairing.socket = .frame frame rest →
        handshakeResponse noise frame = .ok transport →
        StepCase snow pairing .readFrame
          { pairing with
            socket := rest
            phase := .looping transport.receiving (pairing.now + pairingTokenTimeout) 0 }
  | frameFailed {noise : Noise} {deadline counter : Nat} {rest : List UInt8} {error : Error .std} :
      pairing.phase = .awaiting noise deadline counter →
        Fails (handlePairingFrame noise) counter pairing.socket error →
        StepCase snow pairing .readFrame { pairing with socket := rest, phase := .ended (.error error) }
  | tokenRead {noise : Noise} {deadline counter : Nat} {frame : Response} {rest : List UInt8}
      {token : Message.Token} :
      pairing.phase = .awaiting noise deadline counter →
        Wifi.readFrame responsePostcard pairing.socket = .frame frame rest →
        handlePairingFrame noise counter frame = .ok (.token token) →
        StepCase snow pairing .readFrame { pairing with socket := rest, phase := .ended (.ok token) }
  | approvalRead {noise : Noise} {deadline counter : Nat} {frame : Response} {rest : List UInt8}
      {method : String} :
      pairing.phase = .awaiting noise deadline counter →
        Wifi.readFrame responsePostcard pairing.socket = .frame frame rest →
        handlePairingFrame noise counter frame = .ok (.approval method) →
        StepCase snow pairing .readFrame
          { pairing with
            socket := rest
            approvals := pairing.approvals ++ [method]
            phase := .looping noise deadline (counter + 1) }
  | awaited {noise : Noise} {deadline counter : Nat} :
      pairing.phase = .looping noise deadline counter →
        StepCase snow pairing .check { pairing with phase := .awaiting noise deadline counter }
  | expired {noise : Noise} {deadline counter : Nat} :
      pairing.phase = .looping noise deadline counter → deadline ≤ pairing.now →
        StepCase snow pairing .check { pairing with phase := .ended (.error .timeout) }
  | elapsed {noise : Noise} {deadline counter : Nat} :
      pairing.phase = .awaiting noise deadline counter → deadline ≤ pairing.now →
        StepCase snow pairing .elapse { pairing with phase := .ended (.error .timeout) }
  | ticked {duration : Nat} :
      StepCase snow pairing (.tick duration) { pairing with now := pairing.now + duration }

theorem connect_cases {result : Except String Unit} (hStep : pairing.connect snow result = some next)
    : StepCase snow pairing (.connect result) next := by
  unfold connect at hStep
  split at hStep
  . next hPhase =>
    cases result with
    | error detail =>
      injection hStep with hStep
      subst hStep
      exact .connectFailed hPhase
    | ok _ =>
      simp only at hStep
      split at hStep
      . next error hGreet =>
        injection hStep with hStep
        subst hStep
        exact .greetFailed hPhase hGreet
      . next noise bytes hGreet =>
        injection hStep with hStep
        subst hStep
        exact .connected hPhase hGreet
  . contradiction

theorem write_cases {result : Except String Unit} (hStep : pairing.write result = some next)
    : StepCase snow pairing (.write result) next := by
  unfold write at hStep
  split at hStep
  . next noise bytes hPhase =>
    cases result with
    | error detail =>
      injection hStep with hStep
      subst hStep
      exact .writeFailed hPhase
    | ok _ =>
      injection hStep with hStep
      subst hStep
      exact .written hPhase
  . contradiction

theorem readFrame_cases (hStep : pairing.readFrame = some next) : StepCase snow pairing .readFrame next := by
  unfold readFrame at hStep
  split at hStep
  . next noise hPhase =>
    have hReading : pairing.isReading = true := by rw [isReading, hPhase]
    split at hStep
    . rw [Option.ite_none_right_eq_some] at hStep
      rcases hStep with ⟨hClosed, hStep⟩
      injection hStep with hStep
      subst hStep
      exact .streamEnded hReading hClosed
    . next error hRead =>
      injection hStep with hStep
      subst hStep
      exact .handshakeFailed hPhase (.inl hRead)
    . next frame rest hRead =>
      split at hStep
      . next error hResponse =>
        injection hStep with hStep
        subst hStep
        exact .handshakeFailed hPhase (.inr ⟨frame, rest, hRead, hResponse⟩)
      . next transport hResponse =>
        injection hStep with hStep
        subst hStep
        exact .established hPhase hRead hResponse
  . next noise deadline counter hPhase =>
    have hReading : pairing.isReading = true := by rw [isReading, hPhase]
    split at hStep
    . rw [Option.ite_none_right_eq_some] at hStep
      rcases hStep with ⟨hClosed, hStep⟩
      injection hStep with hStep
      subst hStep
      exact .streamEnded hReading hClosed
    . next error hRead =>
      injection hStep with hStep
      subst hStep
      exact .frameFailed hPhase (.inl hRead)
    . next frame rest hRead =>
      split at hStep
      . next error hHandle =>
        injection hStep with hStep
        subst hStep
        exact .frameFailed hPhase (.inr ⟨frame, rest, hRead, hHandle⟩)
      . next token hHandle =>
        injection hStep with hStep
        subst hStep
        exact .tokenRead hPhase hRead hHandle
      . next method hHandle =>
        injection hStep with hStep
        subst hStep
        exact .approvalRead hPhase hRead hHandle
  . contradiction

theorem step_cases (hStep : pairing.step snow label = some next) : StepCase snow pairing label next := by
  cases label with
  | connect result => exact connect_cases hStep
  | write result => exact write_cases hStep
  | readFrame => exact readFrame_cases hStep
  | arrive bytes =>
    unfold step arrive at hStep
    simp only [Option.ite_none_left_eq_some] at hStep
    rcases hStep with ⟨_, hStep⟩
    injection hStep with hStep
    subst hStep
    exact .arrived
  | close =>
    injection hStep with hStep
    subst hStep
    exact .closed
  | socketError detail =>
    unfold step socketError at hStep
    simp only at hStep
    split at hStep
    . next hPhase =>
      injection hStep with hStep
      subst hStep
      exact .socketFailed (by rw [isReading, hPhase])
    . next hPhase =>
      injection hStep with hStep
      subst hStep
      exact .socketFailed (by rw [isReading, hPhase])
    . contradiction
  | check =>
    unfold step check at hStep
    simp only at hStep
    split at hStep
    . next hPhase =>
      split at hStep
      . injection hStep with hStep
        subst hStep
        exact .awaited hPhase
      . injection hStep with hStep
        subst hStep
        exact .expired hPhase (by omega)
    . contradiction
  | elapse =>
    unfold step elapse at hStep
    simp only at hStep
    split at hStep
    . next hPhase =>
      split at hStep
      . next hDeadline =>
        split at hStep
        . rw [Option.ite_none_left_eq_some] at hStep
          rcases hStep with ⟨_, hStep⟩
          injection hStep with hStep
          subst hStep
          exact .elapsed hPhase hDeadline
        . contradiction
      . contradiction
    . contradiction
  | tick duration =>
    injection hStep with hStep
    subst hStep
    exact .ticked

/--
The bytes begin with the response that completes the handshake, `rest` is what follows it.
-/
def Established (snow : Snow) (bytes : List UInt8) (noise : Noise) (rest : List UInt8) : Prop :=
  ∃ state hello transport,
    greet snow = .ok (state, hello)
      ∧
    Carries (fun _ => handshakeResponse state) 0 bytes [transport] rest
      ∧
    noise = transport.receiving

def Events (snow : Snow) (bytes : List UInt8) (noise : Noise) (events : List PairingEvent) (rest : List UInt8)
    : Prop :=
  ∃ behind, Established snow bytes noise behind ∧ Carries (handlePairingFrame noise) 0 behind events rest

theorem Events.append {bytes rest : List UInt8} {noise : Noise} {events : List PairingEvent}
    (h : Events snow bytes noise events rest) (more : List UInt8)
    : Events snow (bytes ++ more) noise events (rest ++ more) := by
  rcases h with ⟨behind, ⟨state, hello, transport, hGreet, hFirst, hNoise⟩, hCarries⟩
  exact ⟨behind ++ more, ⟨state, hello, transport, hGreet, hFirst.append more, hNoise⟩, hCarries.append more⟩

/-
The deadline of a handshake that has been completed by one of the steps.
-/
def Since (labels : List PairingLabel) (deadline : Nat) : Prop :=
  ∃ before after, labels = before ++ .readFrame :: after ∧ deadline = passed before + pairingTokenTimeout

theorem Since.snoc {deadline : Nat} (h : Since labels deadline) : Since (labels ++ [label]) deadline := by
  rcases h with ⟨before, after, hLabels, hDeadline⟩
  refine ⟨before, after ++ [label], ?_, hDeadline⟩
  rw [hLabels, List.append_assoc, List.cons_append]

def NamesError (noise : Noise) (counter : Nat) (bytes : List UInt8) (error : Error .std) : Prop :=
  ∃ payload rest plaintext message,
    Wifi.readFrame responsePostcard bytes = .frame (.pairingNoise payload) rest
      ∧
    noise.readMessage counter payload.items = .ok plaintext
      ∧
    Message.fromBytes .std plaintext = some (.event message)
      ∧
    message.event = .error error

theorem NamesError.append {noise : Noise} {counter : Nat} {bytes : List UInt8} {error : Error .std}
    (h : NamesError noise counter bytes error) (more : List UInt8)
    : NamesError noise counter (bytes ++ more) error := by
  rcases h with ⟨payload, rest, plaintext, message, hRead, hNamed⟩
  refine ⟨payload, rest ++ more, plaintext, message, ?_, hNamed⟩
  rw [readFrame_more more (by rw [hRead]; simp), hRead]

/--
The reasons for which it can end without a token. A peer may name any error, also `Timeout`.
-/
inductive EndedBy (snow : Snow) (labels : List PairingLabel) (approvals : List String)
    : Error .std → Prop where
  | connect {detail : String} :
      .connect (.error detail) ∈ labels → EndedBy snow labels approvals (.debugText detail)
  | greet {error : Error .std} :
      greet snow = .error error → error ≠ .timeout → EndedBy snow labels approvals error
  | write {detail : String} : .write (.error detail) ∈ labels → EndedBy snow labels approvals (.debugText detail)
  | socket {detail : String} : .socketError detail ∈ labels → EndedBy snow labels approvals (.debugText detail)
  | stream : .close ∈ labels → EndedBy snow labels approvals earlyEof
  | handshake {state : HandshakeState} {hello : List UInt8} {error : Error .std} :
      Pairing.greet snow = .ok (state, hello) → Fails (fun _ => handshakeResponse state) 0 (arrived labels) error →
        error ≠ .timeout → EndedBy snow labels approvals error
  | frame {noise : Noise} {rest : List UInt8} {error : Error .std} :
      Events snow (arrived labels) noise (approvals.map .approval) rest →
        Fails (handlePairingFrame noise) approvals.length rest error → error ≠ .timeout →
          EndedBy snow labels approvals error
  | named {noise : Noise} {rest : List UInt8} {error : Error .std} :
      Events snow (arrived labels) noise (approvals.map .approval) rest →
        Fails (handlePairingFrame noise) approvals.length rest error →
          NamesError noise approvals.length rest error → EndedBy snow labels approvals error
  | timeout {deadline : Nat} :
      Since labels deadline → deadline ≤ passed labels → EndedBy snow labels approvals .timeout

section Timeout

variable {error : Error .std}

theorem noiseError_ne_timeout (cause : SnowError) : noiseError cause ≠ .timeout := by
  cases cause <;> simp [noiseError, Error.debugText]

theorem wifiError_ne_timeout (cause : WifiError) : wifiError cause ≠ .timeout := by
  cases cause <;> simp [wifiError]

theorem mapError_noiseError_ne_timeout {α : Type} {result : Except SnowError α}
    (h : result.mapError noiseError = .error error)
    : error ≠ .timeout := by
  cases result with
  | error cause =>
    injection h with h
    exact h ▸ noiseError_ne_timeout cause
  | ok a => contradiction

theorem greet_ne_timeout (h : greet snow = .error error) : error ≠ .timeout := by
  simp only [greet, Result.bind_eq_error_iff, Result.pure_ne_error, and_false, exists_false, or_false] at h
  rcases h with hBuild | ⟨noise, _, hMessage | ⟨handshake, _, hFrame | ⟨frame, _, hWrite⟩⟩⟩
  . exact mapError_noiseError_ne_timeout hBuild
  . exact mapError_noiseError_ne_timeout hMessage
  . unfold clientPairingNoiseFrame at hFrame
    split at hFrame <;> cases hFrame
    simp
  . rw [requestPostcard, (framed_request frame).writeFrame_eq] at hWrite
    contradiction

theorem readFrame_failed_ne_timeout {bytes : List UInt8}
    (h : Wifi.readFrame responsePostcard bytes = .failed error)
    : error ≠ .timeout := by
  unfold Wifi.readFrame at h
  split at h
  . simp only at h
    split at h
    . cases h
      simp
    . split at h
      . contradiction
      . split at h
        . cases h
          simp
        . contradiction
  . contradiction

theorem handshakeResponse_ne_timeout {state : HandshakeState} {frame : Response}
    (h : handshakeResponse state frame = .error error)
    : error ≠ .timeout := by
  cases frame with
  | pairingNoise payload =>
    unfold handshakeResponse finishHandshake at h
    simp only at h
    split at h
    . next cause _ =>
      injection h with h
      exact h ▸ noiseError_ne_timeout cause
    . split at h
      . exact mapError_noiseError_ne_timeout h
      . injection h with h
        rw [← h]
        simp
  | error cause =>
    injection h with h
    exact h ▸ wifiError_ne_timeout cause
  | noise payload =>
    injection h with h
    rw [← h]
    simp

theorem handshake_fails_ne_timeout {state : HandshakeState} {bytes : List UInt8}
    (h : Fails (fun _ => handshakeResponse state) 0 bytes error)
    : error ≠ .timeout := by
  rcases h with hFailed | ⟨frame, rest, _, hResponse⟩
  . exact readFrame_failed_ne_timeout hFailed
  . exact handshakeResponse_ne_timeout hResponse

theorem frame_fails_cases {noise : Noise} {counter : Nat} {bytes : List UInt8}
    (h : Fails (handlePairingFrame noise) counter bytes error)
    : error ≠ .timeout ∨ NamesError noise counter bytes error := by
  rcases h with hFailed | ⟨frame, rest, hRead, hHandle⟩
  . exact .inl (readFrame_failed_ne_timeout hFailed)
  cases frame with
  | error cause =>
    injection hHandle with hHandle
    exact .inl (hHandle ▸ wifiError_ne_timeout cause)
  | noise payload =>
    injection hHandle with hHandle
    exact .inl (by rw [← hHandle]; simp)
  | pairingNoise payload =>
    unfold handlePairingFrame at hHandle
    simp only at hHandle
    split at hHandle
    . next cause _ =>
      injection hHandle with hHandle
      exact .inl (hHandle ▸ noiseError_ne_timeout cause)
    . next plaintext hPlaintext =>
      split at hHandle
      . injection hHandle with hHandle
        exact .inl (by rw [← hHandle]; simp)
      . injection hHandle with hHandle
        exact .inl (by rw [← hHandle]; simp)
      . next message hMessage =>
        unfold pairingEvent at hHandle
        split at hHandle
        . contradiction
        . contradiction
        . next named hNamed =>
          injection hHandle with hHandle
          exact .inr ⟨payload, rest, plaintext, message, hRead, hPlaintext, hMessage, hHandle ▸ hNamed⟩
        . injection hHandle with hHandle
          exact .inl (by rw [← hHandle]; simp)

end Timeout

def PhaseReads (snow : Snow) (labels : List PairingLabel) (pairing : Pairing) : Prop :=
  match pairing.phase with
  | .connecting => pairing.approvals = [] ∧ pairing.socket = arrived labels ∧ pairing.wire = []
  | .greeting noise bytes =>
    pairing.approvals = [] ∧ pairing.socket = arrived labels ∧ pairing.wire = [] ∧ greet snow = .ok (noise, bytes)
  | .handshaking noise =>
    pairing.approvals = [] ∧ pairing.socket = arrived labels ∧ greet snow = .ok (noise, pairing.wire)
  | .looping noise deadline counter =>
    Events snow (arrived labels) noise (pairing.approvals.map .approval) pairing.socket
      ∧ counter = pairing.approvals.length ∧ Since labels deadline
  | .awaiting noise deadline counter =>
    Events snow (arrived labels) noise (pairing.approvals.map .approval) pairing.socket
      ∧ counter = pairing.approvals.length ∧ Since labels deadline
  | .ended (.ok token) =>
    ∃ noise, Events snow (arrived labels) noise (pairing.approvals.map .approval ++ [.token token]) pairing.socket
  | .ended (.error error) => EndedBy snow labels pairing.approvals error

def Reported (snow : Snow) (labels : List PairingLabel) (approvals : List String) : Prop :=
  approvals = [] ∨ ∃ noise rest, Events snow (arrived labels) noise (approvals.map .approval) rest

structure ReadsUpTo (snow : Snow) (labels : List PairingLabel) (pairing : Pairing) : Prop where
  now : pairing.now = passed labels
  closed : pairing.closed = true → .close ∈ labels
  reported : Reported snow labels pairing.approvals
  phase : PhaseReads snow labels pairing

theorem arrived_snoc : arrived (labels ++ [label]) = arrived labels ++ label.arrived := by
  simp [arrived]

theorem passed_snoc : passed (labels ++ [label]) = passed labels + label.duration := by
  simp [passed]

theorem arrived_snoc_of_nil (h : label.arrived = []) : arrived (labels ++ [label]) = arrived labels := by
  rw [arrived_snoc, h, List.append_nil]

theorem Reported.snoc {approvals : List String} (h : Reported snow labels approvals)
    : Reported snow (labels ++ [label]) approvals := by
  rcases h with hNone | ⟨noise, rest, hEvents⟩
  . exact .inl hNone
  . refine .inr ⟨noise, rest ++ label.arrived, ?_⟩
    rw [arrived_snoc]
    exact hEvents.append _

theorem EndedBy.snoc {approvals : List String} {error : Error .std} (h : EndedBy snow labels approvals error)
    : EndedBy snow (labels ++ [label]) approvals error := by
  cases h with
  | connect hLabel => exact .connect (List.mem_append_left _ hLabel)
  | greet hGreet hOther => exact .greet hGreet hOther
  | write hLabel => exact .write (List.mem_append_left _ hLabel)
  | socket hLabel => exact .socket (List.mem_append_left _ hLabel)
  | stream hLabel => exact .stream (List.mem_append_left _ hLabel)
  | handshake hGreet hFails hOther =>
    refine .handshake hGreet ?_ hOther
    rw [arrived_snoc]
    exact hFails.append _
  | frame hEvents hFails hOther =>
    refine .frame ?_ (hFails.append label.arrived) hOther
    rw [arrived_snoc]
    exact hEvents.append _
  | named hEvents hFails hNamed =>
    refine .named ?_ (hFails.append label.arrived) (hNamed.append label.arrived)
    rw [arrived_snoc]
    exact hEvents.append _
  | timeout hSince hPassed =>
    refine .timeout hSince.snoc ?_
    rw [passed_snoc]
    omega

theorem PhaseReads.keep (h : PhaseReads snow labels pairing) (hPhase : next.phase = pairing.phase)
    (hApprovals : next.approvals = pairing.approvals) (hWire : next.wire = pairing.wire)
    (hSocket : next.socket = pairing.socket ++ label.arrived)
    : PhaseReads snow (labels ++ [label]) next := by
  unfold PhaseReads at h ⊢
  rw [hPhase, hApprovals, hWire, hSocket]
  rw [arrived_snoc]
  split at h
  . exact ⟨h.1, by rw [h.2.1], h.2.2⟩
  . exact ⟨h.1, by rw [h.2.1], h.2.2⟩
  . exact ⟨h.1, by rw [h.2.1], h.2.2⟩
  . exact ⟨h.1.append _, h.2.1, h.2.2.snoc⟩
  . exact ⟨h.1.append _, h.2.1, h.2.2.snoc⟩
  . rcases h with ⟨noise, hEvents⟩
    exact ⟨noise, hEvents.append _⟩
  . exact h.snoc

theorem ReadsUpTo.initial : ReadsUpTo snow [] initial where
  now := rfl
  closed h := by contradiction
  reported := .inl rfl
  phase := ⟨rfl, rfl, rfl⟩

theorem ReadsUpTo.frame (h : ReadsUpTo snow labels pairing) (hNow : next.now = pairing.now)
    (hClosed : next.closed = pairing.closed) (hApprovals : next.approvals = pairing.approvals)
    (hDuration : label.duration = 0) (hPhase : PhaseReads snow (labels ++ [label]) next)
    : ReadsUpTo snow (labels ++ [label]) next where
  now := by rw [hNow, h.now, passed_snoc, hDuration, Nat.add_zero]
  closed hNext := by
    rw [hClosed] at hNext
    exact List.mem_append_left _ (h.closed hNext)
  reported := by
    rw [hApprovals]
    exact h.reported.snoc
  phase := hPhase

section Phases

variable {noise : Noise} {deadline counter : Nat}

theorem PhaseReads.connected {state : HandshakeState} {bytes : List UInt8} (h : PhaseReads snow labels pairing)
    (hPhase : pairing.phase = .connecting) (hGreet : greet snow = .ok (state, bytes))
    : PhaseReads snow (labels ++ [.connect (.ok ())]) { pairing with phase := .greeting state bytes } := by
  unfold PhaseReads at h
  rw [hPhase] at h
  exact ⟨h.1, by rw [arrived_snoc_of_nil rfl]; exact h.2.1, h.2.2, hGreet⟩

theorem PhaseReads.written {state : HandshakeState} {bytes : List UInt8} (h : PhaseReads snow labels pairing)
    (hPhase : pairing.phase = .greeting state bytes)
    : PhaseReads snow (labels ++ [.write (.ok ())])
        { pairing with wire := pairing.wire ++ bytes, phase := .handshaking state } := by
  unfold PhaseReads at h
  rw [hPhase] at h
  rcases h with ⟨hApprovals, hSocket, hWire, hGreet⟩
  refine ⟨hApprovals, by rw [arrived_snoc_of_nil rfl]; exact hSocket, ?_⟩
  simp only [hWire, List.nil_append]
  exact hGreet

theorem PhaseReads.handshakeFailed {state : HandshakeState} {error : Error .std} (h : PhaseReads snow labels pairing)
    (hPhase : pairing.phase = .handshaking state)
    (hFails : Fails (fun _ => handshakeResponse state) 0 pairing.socket error)
    : EndedBy snow (labels ++ [.readFrame]) pairing.approvals error := by
  unfold PhaseReads at h
  rw [hPhase] at h
  refine .handshake h.2.2 ?_ (handshake_fails_ne_timeout hFails)
  rw [arrived_snoc_of_nil rfl, ← h.2.1]
  exact hFails

theorem PhaseReads.established {state : HandshakeState} {frame : Response} {rest : List UInt8}
    {transport : TransportState} (h : PhaseReads snow labels pairing) (hNow : pairing.now = passed labels)
    (hPhase : pairing.phase = .handshaking state)
    (hRead : Wifi.readFrame responsePostcard pairing.socket = .frame frame rest)
    (hResponse : handshakeResponse state frame = .ok transport)
    : PhaseReads snow (labels ++ [.readFrame])
        { pairing with
          socket := rest
          phase := .looping transport.receiving (pairing.now + pairingTokenTimeout) 0 } := by
  unfold PhaseReads at h
  rw [hPhase] at h
  rcases h with ⟨hApprovals, hSocket, hGreet⟩
  refine ⟨⟨rest, ⟨state, pairing.wire, transport, hGreet, ?_, rfl⟩, ?_⟩, ?_, labels, [], rfl, ?_⟩
  . rw [arrived_snoc_of_nil rfl, ← hSocket]
    exact .cons hRead hResponse .nil
  . simp only [hApprovals]
    exact .nil
  . simp only [hApprovals, List.length_nil]
  . rw [hNow]

theorem PhaseReads.awaited (h : PhaseReads snow labels pairing)
    (hPhase : pairing.phase = .looping noise deadline counter)
    : PhaseReads snow (labels ++ [.check]) { pairing with phase := .awaiting noise deadline counter } := by
  unfold PhaseReads at h
  rw [hPhase] at h
  exact ⟨by rw [arrived_snoc_of_nil rfl]; exact h.1, h.2.1, h.2.2.snoc⟩

theorem PhaseReads.since (h : PhaseReads snow labels pairing)
    (hPhase : pairing.phase = .looping noise deadline counter ∨ pairing.phase = .awaiting noise deadline counter)
    : Since labels deadline := by
  unfold PhaseReads at h
  rcases hPhase with hPhase | hPhase
  . rw [hPhase] at h
    exact h.2.2
  . rw [hPhase] at h
    exact h.2.2

theorem ReadsUpTo.expired (h : ReadsUpTo snow labels pairing)
    (hPhase : pairing.phase = .looping noise deadline counter ∨ pairing.phase = .awaiting noise deadline counter)
    (hDeadline : deadline ≤ pairing.now)
    : EndedBy snow (labels ++ [label]) pairing.approvals .timeout := by
  refine .timeout (h.phase.since hPhase).snoc ?_
  rw [passed_snoc, ← h.now]
  exact Nat.le_add_right_of_le hDeadline

theorem PhaseReads.frameFailed {error : Error .std} (h : PhaseReads snow labels pairing)
    (hPhase : pairing.phase = .awaiting noise deadline counter)
    (hFails : Fails (handlePairingFrame noise) counter pairing.socket error)
    : EndedBy snow (labels ++ [.readFrame]) pairing.approvals error := by
  unfold PhaseReads at h
  rw [hPhase] at h
  rcases h with ⟨hEvents, hCounter, _⟩
  rw [← arrived_snoc_of_nil (show PairingLabel.readFrame.arrived = [] from rfl)] at hEvents
  subst hCounter
  rcases frame_fails_cases hFails with hOther | hNamed
  . exact .frame hEvents hFails hOther
  . exact .named hEvents hFails hNamed

theorem PhaseReads.eventRead {frame : Response} {rest : List UInt8} {event : PairingEvent}
    (h : PhaseReads snow labels pairing) (hPhase : pairing.phase = .awaiting noise deadline counter)
    (hRead : Wifi.readFrame responsePostcard pairing.socket = .frame frame rest)
    (hHandle : handlePairingFrame noise counter frame = .ok event)
    : Events snow (Wifi.arrived (labels ++ [.readFrame])) noise (pairing.approvals.map .approval ++ [event]) rest := by
  unfold PhaseReads at h
  rw [hPhase] at h
  rcases h with ⟨⟨behind, hEstablished, hCarries⟩, hCounter, _⟩
  refine ⟨behind, ?_, hCarries.snoc hRead ?_⟩
  . rw [arrived_snoc_of_nil rfl]
    exact hEstablished
  . rw [Nat.zero_add, List.length_map, ← hCounter]
    exact hHandle

theorem ReadsUpTo.approvalRead {frame : Response} {rest : List UInt8} {method : String}
    (h : ReadsUpTo snow labels pairing) (hPhase : pairing.phase = .awaiting noise deadline counter)
    (hRead : Wifi.readFrame responsePostcard pairing.socket = .frame frame rest)
    (hHandle : handlePairingFrame noise counter frame = .ok (.approval method))
    : ReadsUpTo snow (labels ++ [.readFrame])
        { pairing with
          socket := rest
          approvals := pairing.approvals ++ [method]
          phase := .looping noise deadline (counter + 1) } := by
  have hEvents : Events snow (Wifi.arrived (labels ++ [PairingLabel.readFrame])) noise
      ((pairing.approvals ++ [method]).map .approval) rest := by
    rw [List.map_append]
    exact h.phase.eventRead hPhase hRead hHandle
  have hReads := h.phase
  unfold PhaseReads at hReads
  rw [hPhase] at hReads
  rcases hReads with ⟨_, hCounter, hSince⟩
  refine ⟨?_, fun hClosed => List.mem_append_left _ (h.closed hClosed), .inr ⟨noise, rest, hEvents⟩,
    hEvents, ?_, hSince.snoc⟩
  . rw [passed_snoc]
    exact h.now
  . rw [List.length_append, hCounter]
    rfl

end Phases

theorem ReadsUpTo.step (h : ReadsUpTo snow labels pairing) (hCase : StepCase snow pairing label next)
    : ReadsUpTo snow (labels ++ [label]) next := by
  have hReads := h.phase
  have hLabel : label ∈ labels ++ [label] := by simp
  cases hCase with
  | connectFailed => exact h.frame rfl rfl rfl rfl (.connect hLabel)
  | greetFailed _ hGreet => exact h.frame rfl rfl rfl rfl (.greet hGreet (greet_ne_timeout hGreet))
  | connected hPhase hGreet => exact h.frame rfl rfl rfl rfl (hReads.connected hPhase hGreet)
  | writeFailed => exact h.frame rfl rfl rfl rfl (.write hLabel)
  | written hPhase => exact h.frame rfl rfl rfl rfl (hReads.written hPhase)
  | arrived => exact h.frame rfl rfl rfl rfl (hReads.keep rfl rfl rfl rfl)
  | closed =>
    refine ⟨?_, fun _ => hLabel, h.reported.snoc, hReads.keep rfl rfl rfl (List.append_nil _).symm⟩
    rw [passed_snoc]
    exact h.now
  | ticked =>
    refine ⟨?_, fun hClosed => List.mem_append_left _ (h.closed hClosed), h.reported.snoc,
      hReads.keep rfl rfl rfl (List.append_nil _).symm⟩
    rw [passed_snoc, ← h.now]
    rfl
  | socketFailed => exact h.frame rfl rfl rfl rfl (.socket hLabel)
  | streamEnded _ hClosed => exact h.frame rfl rfl rfl rfl (.stream (List.mem_append_left _ (h.closed hClosed)))
  | handshakeFailed hPhase hFails => exact h.frame rfl rfl rfl rfl (hReads.handshakeFailed hPhase hFails)
  | established hPhase hRead hResponse =>
    exact h.frame rfl rfl rfl rfl (hReads.established h.now hPhase hRead hResponse)
  | frameFailed hPhase hFails => exact h.frame rfl rfl rfl rfl (hReads.frameFailed hPhase hFails)
  | tokenRead hPhase hRead hHandle => exact h.frame rfl rfl rfl rfl ⟨_, hReads.eventRead hPhase hRead hHandle⟩
  | approvalRead hPhase hRead hHandle => exact h.approvalRead hPhase hRead hHandle
  | awaited hPhase => exact h.frame rfl rfl rfl rfl (hReads.awaited hPhase)
  | expired hPhase hDeadline => exact h.frame rfl rfl rfl rfl (h.expired (.inl hPhase) hDeadline)
  | elapsed hPhase hDeadline => exact h.frame rfl rfl rfl rfl (h.expired (.inr hPhase) hDeadline)

theorem run_readsUpTo {ok : Pairing → PairingLabel → Prop} (hRun : Run (step snow) ok initial labels pairing)
    : ReadsUpTo snow labels pairing := by
  apply hRun.invariant_of_labels (motive := fun labels s => ReadsUpTo snow labels s)
  . exact .initial
  . intro labels s l t h _ hStep
    exact h.step (step_cases hStep)

theorem EndedBy.timeout_cases {approvals : List String} (h : EndedBy snow labels approvals .timeout)
    : (∃ noise rest, Events snow (arrived labels) noise (approvals.map .approval) rest
        ∧ NamesError noise approvals.length rest .timeout)
        ∨
      ∃ deadline, Since labels deadline ∧ deadline ≤ passed labels := by
  cases h with
  | greet _ hOther => exact absurd rfl hOther
  | handshake _ _ hOther => exact absurd rfl hOther
  | frame _ _ hOther => exact absurd rfl hOther
  | named hEvents _ hNamed => exact .inl ⟨_, _, hEvents, hNamed⟩
  | timeout hSince hPassed => exact .inr ⟨_, hSince, hPassed⟩

/--
However the bytes arrive: a token that is returned is the one of the first frame behind the handshake that is not
an instruction, and what has been reported are the instructions before it, in order. Without a token there is one
of the reasons. A `Timeout` that the peer has not named is never earlier than 45 seconds after the handshake.
-/
theorem run_token_of_frames (snow : Snow) (hRun : Run (step snow) anyStep initial labels pairing)
    : (∀ token, pairing.phase = .ended (.ok token) →
        ∃ noise rest, Events snow (arrived labels) noise (pairing.approvals.map .approval ++ [.token token]) rest)
        ∧
      (∀ error, pairing.phase = .ended (.error error) → EndedBy snow labels pairing.approvals error)
        ∧
      (pairing.phase = .ended (.error .timeout) →
        (∃ noise rest, Events snow (arrived labels) noise (pairing.approvals.map .approval) rest
          ∧ NamesError noise pairing.approvals.length rest .timeout)
          ∨
        ∃ deadline, Since labels deadline ∧ deadline ≤ passed labels) := by
  have hReads := (run_readsUpTo hRun).phase
  unfold PhaseReads at hReads
  refine ⟨?_, ?_, ?_⟩
  . intro token hPhase
    rw [hPhase] at hReads
    rcases hReads with ⟨noise, hEvents⟩
    exact ⟨noise, _, hEvents⟩
  . intro error hPhase
    rw [hPhase] at hReads
    exact hReads
  . intro hPhase
    rw [hPhase] at hReads
    exact hReads.timeout_cases

end Pairing

section Device

/-
What an event of a device is read as. Any other event ends the pairing.
-/
def expectedEvent : Event .noStd → Option PairingEvent
  | .runtime (.tokenGenerateApproval method) => some (.approval method.val)
  | .runtime (.tokenGenerated token) => some (.token token)
  | _ => none

def deviceEvent : Message .noStd → Option PairingEvent
  | .command _ => none
  | .event message => expectedEvent message.event

def Yields (expected : Option PairingEvent) (result : Except (Error .std) PairingEvent) : Prop :=
  match expected with
  | some expected => result = .ok expected
  | none => ∃ error, result = .error error

def ReadsPairing (message : Message .noStd) (result : Except (Error .std) PairingEvent) : Prop :=
  Yields (deviceEvent message) result

theorem pairingEvent_device {event : Event .std} {other : Event .noStd} (h : Event.toNoStd? event = some other)
    : Yields (expectedEvent other) (pairingEvent event) := by
  cases event with
  | error value =>
    rcases Option.map_eq_some_iff.mp h with ⟨value', _, hValue⟩
    subst hValue
    exact ⟨value, rfl⟩
  | runtime value =>
    injection h with h
    subst h
    cases value <;> first | rfl | exact ⟨_, rfl⟩
  | _ =>
    injection h with h
    subst h
    exact ⟨_, rfl⟩

theorem handlePairingFrame_device {noise : Noise} (hNoise : noise.RoundTrips)
    : ReadsDevice .pairingNoise noise (handlePairingFrame noise) ReadsPairing := by
  intro counter message payload hWrite
  have hRead := hNoise _ _ _ hWrite
  have hBytes := fromBytes_device message
  split at hBytes
  . next hUsb =>
    -- a USB error is no event of the runtime
    have hNone : deviceEvent message = none := by
      cases message with
      | command => rfl
      | event message =>
        rcases message with ⟨identifier, context, resource, event⟩
        cases event <;> first | rfl | contradiction
    unfold ReadsPairing
    simp only [hNone, handlePairingFrame, hRead, hBytes]
    exact ⟨_, rfl⟩
  . rcases hBytes with ⟨other, hFromBytes, hOther⟩
    simp only [handlePairingFrame, hRead, hFromBytes]
    cases other with
    | command value =>
      injection hOther with hOther
      subst hOther
      exact ⟨_, rfl⟩
    | event value =>
      rcases Option.map_eq_some_iff.mp hOther with ⟨value', hValue, hMessage⟩
      subst hMessage
      rcases Option.map_eq_some_iff.mp hValue with ⟨event, hEvent, hValue'⟩
      subst hValue'
      exact pairingEvent_device hEvent

/--
The bytes that a device sends: its response to the handshake, and encrypted frames with the instructions, then the
token, and possibly more.
-/
structure PairsDevice (snow : Snow) (noise : Noise) (methods : List String) (token : Message.Token)
    (bytes : List UInt8) : Prop where
  roundTrips : noise.RoundTrips
  sends : ∃ (state : HandshakeState) (hello : List UInt8) (transport : TransportState) (payload : NoisePayload)
    (frame : List UInt8) (messages : List (Message .noStd)) (stream : List UInt8)
    (tail : List (Option PairingEvent)),
    Pairing.greet snow = .ok (state, hello)
      ∧
    finishHandshake state payload.items = .ok transport
      ∧
    noise = transport.receiving
      ∧
    writeFrame responsePostcard (.pairingNoise payload) = .ok frame
      ∧
    bytes = frame ++ stream
      ∧
    DeviceFrames .pairingNoise noise 0 messages stream
      ∧
    messages.map deviceEvent = methods.map (fun method => some (.approval method)) ++ some (.token token) :: tail

theorem split_approvals {approvals methods : List String} {token : Message.Token}
    {left tail : List (Option PairingEvent)}
    (h : approvals.map (fun method => some (.approval method)) ++ left
      = methods.map (fun method => some (.approval method)) ++ some (.token token) :: tail)
    : ∃ rest, methods = approvals ++ rest
        ∧ left = rest.map (fun method => some (.approval method)) ++ some (.token token) :: tail := by
  induction approvals generalizing methods with
  | nil => exact ⟨methods, rfl, h⟩
  | cons approval approvals ih =>
    cases methods with
    | nil =>
      injection h with hFirst
      injection hFirst with hFirst
      contradiction
    | cons method methods =>
      injection h with hFirst hRest
      injection hFirst with hFirst
      injection hFirst with hFirst
      rcases ih hRest with ⟨rest, hMethods, hLeft⟩
      exact ⟨rest, by rw [hFirst, hMethods, List.cons_append], hLeft⟩

theorem map_deviceEvent {done : List (Message .noStd)} {got : List PairingEvent}
    (h : List.Forall₂ (fun message value => ReadsPairing message (.ok value)) done got)
    : done.map deviceEvent = got.map some := by
  induction h with
  | nil => rfl
  | @cons message value done got hReads _ ih =>
    unfold ReadsPairing Yields at hReads
    rw [List.map_cons, List.map_cons, ih]
    split at hReads
    . next expected hEvent =>
      injection hReads with hReads
      rw [hEvent, hReads]
    . rcases hReads with ⟨error, hError⟩
      contradiction

namespace PairsDevice

variable {snow : Snow} {noise : Noise} {methods : List String} {token : Message.Token}
variable {bytes more rest : List UInt8}

theorem established (h : PairsDevice snow noise methods token (bytes ++ more)) {other : Noise}
    (hEstablished : Pairing.Established snow bytes other rest)
    : other = noise
        ∧
      ∃ messages tail, DeviceFrames .pairingNoise noise 0 messages (rest ++ more)
        ∧ messages.map deviceEvent
          = methods.map (fun method => some (.approval method)) ++ some (.token token) :: tail := by
  rcases h.sends with ⟨state, hello, transport, payload, frame, messages, stream, tail, hGreet, hFinish, hNoise,
    hFrame, hBytes, hFrames, hMessages⟩
  rcases hEstablished with ⟨state', hello', transport', hGreet', hCarries, hNoise'⟩
  rw [hGreet] at hGreet'
  injection hGreet' with hGreet'
  injection hGreet' with hState _
  subst hState
  have hFramed := framed_response (.pairingNoise payload)
  rw [responsePostcard, hFramed.writeFrame_eq] at hFrame
  injection hFrame with hFrame
  cases hCarries with
  | @cons _ _ middle _ first _ _ hRead hResponse hNil =>
    cases hNil
    have hMore : readFrame responsePostcard (bytes ++ more) = .frame first (rest ++ more) := by
      rw [readFrame_more more (by rw [hRead]; simp), hRead]
    rw [hBytes, ← hFrame, responsePostcard, hFramed.readFrame_eq] at hMore
    injection hMore with hFirst hRest
    rw [← hFirst, Pairing.handshakeResponse, hFinish] at hResponse
    injection hResponse with hResponse
    refine ⟨by rw [hNoise', hNoise, hResponse], messages, tail, ?_, hMessages⟩
    rw [← hRest]
    exact hFrames

theorem handshake_reads (h : PairsDevice snow noise methods token (bytes ++ more)) {state : HandshakeState}
    {hello : List UInt8} (hGreet : Pairing.greet snow = .ok (state, hello)) {error : Error .std}
    : ¬ Fails (fun _ => Pairing.handshakeResponse state) 0 bytes error := by
  rcases h.sends with ⟨state', hello', transport, payload, frame, messages, stream, tail, hGreet', hFinish, hNoise,
    hFrame, hBytes, _⟩
  rw [hGreet] at hGreet'
  injection hGreet' with hGreet'
  injection hGreet' with hState _
  subst hState
  have hFramed := framed_response (.pairingNoise payload)
  rw [responsePostcard, hFramed.writeFrame_eq] at hFrame
  injection hFrame with hFrame
  have hMore := hFramed.readFrame_eq stream
  rw [hFrame, ← hBytes] at hMore
  intro hFails
  rcases hFails.append more with hFailed | ⟨first, rest, hRead, hResponse⟩
  . rw [responsePostcard, hMore] at hFailed
    contradiction
  . rw [responsePostcard, hMore] at hRead
    injection hRead with hFirst _
    have hResponse : Pairing.handshakeResponse state first = .error error := hResponse
    rw [← hFirst, Pairing.handshakeResponse, hFinish] at hResponse
    contradiction

theorem events (h : PairsDevice snow noise methods token (bytes ++ more)) {other : Noise}
    {got : List PairingEvent} (hEvents : Pairing.Events snow bytes other got rest)
    : other = noise
        ∧
      ∃ messages tail, DeviceFrames .pairingNoise noise got.length messages (rest ++ more)
        ∧ got.map some ++ messages.map deviceEvent
          = methods.map (fun method => some (.approval method)) ++ some (.token token) :: tail := by
  rcases hEvents with ⟨behind, hEstablished, hCarries⟩
  rcases h.established hEstablished with ⟨hOther, messages, tail, hFrames, hMessages⟩
  subst hOther
  rcases DeviceFrames.of_carries (handlePairingFrame_device h.roundTrips) hCarries hFrames
    with ⟨done, left, hSplit, hDone, hLeft⟩
  rw [Nat.zero_add] at hLeft
  refine ⟨rfl, left, tail, hLeft, ?_⟩
  rw [← map_deviceEvent hDone, ← List.map_append, ← hSplit]
  exact hMessages

theorem approvals (h : PairsDevice snow noise methods token (bytes ++ more)) {other : Noise}
    {approvals : List String} (hEvents : Pairing.Events snow bytes other (approvals.map .approval) rest)
    : other = noise
        ∧
      ∃ messages left tail, DeviceFrames .pairingNoise noise approvals.length messages (rest ++ more)
        ∧ methods = approvals ++ left
        ∧ messages.map deviceEvent
          = left.map (fun method => some (.approval method)) ++ some (.token token) :: tail := by
  rcases h.events hEvents with ⟨hOther, messages, tail, hFrames, hMessages⟩
  rw [List.map_map] at hMessages
  rcases split_approvals hMessages with ⟨left, hMethods, hLeft⟩
  rw [List.length_map] at hFrames
  exact ⟨hOther, messages, left, tail, hFrames, hMethods, hLeft⟩

theorem frame_reads (h : PairsDevice snow noise methods token (bytes ++ more)) {other : Noise}
    {approvals : List String} (hEvents : Pairing.Events snow bytes other (approvals.map .approval) rest)
    {error : Error .std}
    : ¬ Fails (handlePairingFrame other) approvals.length rest error := by
  intro hFails
  rcases h.approvals hEvents with ⟨hOther, messages, left, tail, hFrames, _, hMessages⟩
  subst hOther
  rcases hFrames.of_fails (handlePairingFrame_device h.roundTrips) hFails with ⟨message, after, hMessage, hReads⟩
  rw [hMessage, List.map_cons] at hMessages
  unfold ReadsPairing Yields at hReads
  cases left with
  | nil =>
    injection hMessages with hFirst
    rw [hFirst] at hReads
    contradiction
  | cons method left =>
    injection hMessages with hFirst
    rw [hFirst] at hReads
    contradiction

end PairsDevice

namespace Pairing

variable {snow : Snow} {pairing next : Pairing} {label : PairingLabel} {labels : List PairingLabel}
variable {noise : Noise} {methods : List String} {token : Message.Token} {more : List UInt8}

structure Undisturbed (labels : List PairingLabel) : Prop where
  connect : ∀ detail, .connect (.error detail) ∉ labels
  write : ∀ detail, .write (.error detail) ∉ labels
  socket : ∀ detail, .socketError detail ∉ labels
  close : .close ∉ labels

/-
Without a disturbance it ends without a token only because the time is over.
-/
theorem EndedBy.of_device {approvals : List String} {error : Error .std}
    (h : EndedBy snow labels approvals error)
    (hDevice : PairsDevice snow noise methods token (arrived labels ++ more)) (hUndisturbed : Undisturbed labels)
    : error = .timeout ∧ ∃ deadline, Since labels deadline ∧ deadline ≤ passed labels := by
  cases h with
  | connect hLabel => exact absurd hLabel (hUndisturbed.connect _)
  | write hLabel => exact absurd hLabel (hUndisturbed.write _)
  | socket hLabel => exact absurd hLabel (hUndisturbed.socket _)
  | stream hLabel => exact absurd hLabel hUndisturbed.close
  | timeout hSince hPassed => exact ⟨rfl, _, hSince, hPassed⟩
  | greet hGreet =>
    rcases hDevice.sends with ⟨_, _, _, _, _, _, _, _, hGreet', _⟩
    rw [hGreet] at hGreet'
    contradiction
  | handshake hGreet hFails => exact absurd hFails (hDevice.handshake_reads hGreet)
  | frame hEvents hFails => exact absurd hFails (hDevice.frame_reads hEvents)
  | named hEvents hFails => exact absurd hFails (hDevice.frame_reads hEvents)

theorem readFrame_ne_none (hReads : ReadsUpTo snow labels pairing) (hReading : pairing.isReading = true)
    (hDevice : PairsDevice snow noise methods token (arrived labels))
    : pairing.step snow .readFrame ≠ none := by
  have hPhaseReads := hReads.phase
  rw [← List.append_nil (arrived labels)] at hDevice
  unfold PhaseReads at hPhaseReads
  unfold isReading at hReading
  unfold step readFrame
  split at hReading
  . next state hPhase =>
    rw [hPhase] at hPhaseReads ⊢
    simp only
    split
    . next hPending =>
      -- the response is a whole frame
      rcases hDevice.sends with ⟨_, _, _, payload, frame, _, stream, _, _, _, _, hFrame, hBytes, _⟩
      have hFramed := framed_response (.pairingNoise payload)
      rw [responsePostcard, hFramed.writeFrame_eq] at hFrame
      injection hFrame with hFrame
      rw [List.append_nil] at hBytes
      rw [hPhaseReads.2.1, hBytes, ← hFrame, responsePostcard, hFramed.readFrame_eq] at hPending
      contradiction
    . simp
    . split <;> simp
  . next noise' deadline counter hPhase =>
    rw [hPhase] at hPhaseReads ⊢
    simp only
    split
    . next hPending =>
      rcases hDevice.approvals hPhaseReads.1 with ⟨hOther, messages, left, tail, hFrames, _, hMessages⟩
      rw [List.append_nil] at hFrames
      rw [hFrames.eq_nil_of_pending hPending] at hMessages
      exact absurd hMessages.symm (by simp)
    . simp
    . split <;> simp
  . contradiction

/--
A device answers the handshake and sends instructions and then the token, in any pieces. In every run the
instructions that have been reported are the first ones of the device, in order. A token that is returned is the
one of the device, behind all instructions. If nothing happens to the connection, the only other end is that 45
seconds have passed since the handshake, and as long as it has not ended there is a frame to read once everything
has arrived.
-/
theorem run_paired_device (snow : Snow) (noise : Noise) (hRun : Run (step snow) anyStep initial labels pairing)
    (hDevice : PairsDevice snow noise methods token (arrived labels ++ more))
    : pairing.approvals <+: methods
        ∧
      (∀ other, pairing.phase = .ended (.ok other) → other = token ∧ pairing.approvals = methods)
        ∧
      (Undisturbed labels → ∀ error, pairing.phase = .ended (.error error) →
        error = .timeout ∧ ∃ deadline, Since labels deadline ∧ deadline ≤ passed labels)
        ∧
      (more = [] → pairing.isReading = true → pairing.step snow .readFrame ≠ none) := by
  have hReads := run_readsUpTo hRun
  have hPhaseReads := hReads.phase
  unfold PhaseReads at hPhaseReads
  refine ⟨?_, ?_, ?_, ?_⟩
  . rcases hReads.reported with hNone | ⟨other, rest, hEvents⟩
    . rw [hNone]
      exact List.nil_prefix
    . rcases hDevice.approvals hEvents with ⟨_, _, left, _, _, hMethods, _⟩
      exact ⟨left, hMethods.symm⟩
  . intro other hPhase
    rw [hPhase] at hPhaseReads
    rcases hPhaseReads with ⟨_, hEvents⟩
    rcases hDevice.events hEvents with ⟨_, messages, tail, _, hMessages⟩
    rw [List.map_append, List.map_map, List.append_assoc] at hMessages
    rcases split_approvals hMessages with ⟨left, hMethods, hLeft⟩
    -- the token of the device is the first message that is no instruction
    cases left with
    | nil =>
      injection hLeft with hToken
      injection hToken with hToken
      injection hToken with hToken
      rw [List.append_nil] at hMethods
      exact ⟨hToken, hMethods.symm⟩
    | cons method left =>
      injection hLeft with hToken
      injection hToken with hToken
      contradiction
  . intro hUndisturbed error hPhase
    rw [hPhase] at hPhaseReads
    exact hPhaseReads.of_device hDevice hUndisturbed
  . intro hMore hReading
    rw [hMore, List.append_nil] at hDevice
    exact readFrame_ne_none hReads hReading hDevice

def tokenMethod : HString tokenStringMaxLen := ⟨"Hold the button", by decide⟩

def issuedToken : Message.Token := ⟨9, ⟨"issued", by decide⟩, ⟨List.replicate 32 9, by decide⟩⟩

def pairingState : HandshakeState where
  writeMessage := .ok [1]
  readMessage payload := if payload = [2] then .ok [] else .error .decrypt
  intoTransportMode _ := .ok ⟨nonceTagNoise, nonceTagNoise⟩

def pairingSnow : Snow := ⟨fun _ _ => .ok pairingState⟩

def pairingResponse : NoisePayload := ⟨[2], by decide⟩

def pairingMessages : List (Message .noStd) :=
  [.event ⟨1, none, none, .runtime (.tokenGenerateApproval tokenMethod)⟩,
    .event ⟨2, none, none, .runtime (.tokenGenerated issuedToken)⟩]

def pairingStream : List UInt8 :=
  deviceFrame .pairingNoise 0 pairingMessages[0] ++ (deviceFrame .pairingNoise 1 pairingMessages[1] ++ [])

def pairingHello : List UInt8 :=
  let bytes := Response.codec.serialize (.pairingNoise pairingResponse)
  u16ToBeBytes bytes.length ++ bytes

/-
The stream is cut inside of the frame with the instruction.
-/
def pairingLabels : List PairingLabel :=
  [.connect (.ok ()), .write (.ok ()), .arrive (pairingHello ++ pairingStream.take 20), .readFrame, .check,
    .tick 1000, .arrive (pairingStream.drop 20), .readFrame, .check, .readFrame]

def returned (pairing : Pairing) : Option Message.Token :=
  match pairing.phase with
  | .ended (.ok token) => some token
  | _ => none

theorem pairing_run
    : ∃ pairing, Run (step pairingSnow) anyStep initial pairingLabels pairing
        ∧ pairing.approvals = ["Hold the button"] ∧ pairing.phase = .ended (.ok issuedToken) := by
  have hRun : (exec (step pairingSnow) initial pairingLabels).map (fun pairing =>
      (pairing.approvals, returned pairing)) = some (["Hold the button"], some issuedToken) := by
    decide +kernel
  rcases Run.exists_of_exec hRun with ⟨pairing, hRun, hState⟩
  injection hState with hApprovals hPhase
  refine ⟨pairing, hRun, hApprovals, ?_⟩
  unfold returned at hPhase
  split at hPhase
  . next token hEnded => rw [hEnded, Option.some.inj hPhase]
  . simp only [reduceCtorEq] at hPhase

theorem issuedToken_paired
    : ∃ (pairing : Pairing) (noise : Noise) (rest : List UInt8), pairing.approvals = ["Hold the button"]
        ∧ Events pairingSnow (arrived pairingLabels) noise
          (pairing.approvals.map .approval ++ [.token issuedToken]) rest := by
  rcases pairing_run with ⟨pairing, hRun, hApprovals, hPhase⟩
  rcases (run_token_of_frames pairingSnow hRun).1 issuedToken hPhase with ⟨noise, rest, hEvents⟩
  exact ⟨pairing, noise, rest, hApprovals, hEvents⟩

theorem pairing_frames : DeviceFrames .pairingNoise nonceTagNoise 0 pairingMessages pairingStream := by
  have hFirst : (pairingMessages[0].serialize .noStd ++ noiseTag 0).length ≤ wifiFramePayloadMaxLen := by
    decide +kernel
  have hSecond : (pairingMessages[1].serialize .noStd ++ noiseTag 1).length ≤ wifiFramePayloadMaxLen := by
    decide +kernel
  have hRest : DeviceFrames .pairingNoise nonceTagNoise 1 [pairingMessages[1]]
      (deviceFrame .pairingNoise 1 pairingMessages[1] ++ []) :=
    @DeviceFrames.cons _ _ _ _ _ ⟨_, hSecond⟩ _ _ rfl rfl .nil
  exact @DeviceFrames.cons _ _ _ _ _ ⟨_, hFirst⟩ _ _ rfl rfl hRest

theorem pairing_device
    : PairsDevice pairingSnow nonceTagNoise ["Hold the button"] issuedToken (pairingHello ++ pairingStream) where
  roundTrips := nonceTagNoise_roundTrips
  sends := ⟨pairingState, _, ⟨nonceTagNoise, nonceTagNoise⟩, pairingResponse, _, pairingMessages,
    pairingStream, [], rfl, rfl, rfl, rfl, rfl, pairing_frames, rfl⟩

theorem issuedToken_returned
    : ∃ (pairing : Pairing), pairing.phase = .ended (.ok issuedToken)
        ∧ pairing.approvals = ["Hold the button"] := by
  rcases pairing_run with ⟨pairing, hRun, _, hPhase⟩
  have hStream : arrived pairingLabels ++ [] = pairingHello ++ pairingStream := by decide +kernel
  have hDevice := pairing_device
  rw [← hStream] at hDevice
  rcases run_paired_device pairingSnow nonceTagNoise hRun hDevice with ⟨_, hReturned, _⟩
  exact ⟨pairing, hPhase, (hReturned issuedToken hPhase).2⟩

end Pairing

end Device

end Wifi
end Enody
