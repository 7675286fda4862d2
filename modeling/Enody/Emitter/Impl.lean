import Enody.Runtime.Impl.Exchange
import Mathlib.Algebra.Group.Nat.Defs

/-!
This module contains `RemoteEmitter` of `emitter.rs`. The download of the spectral data waits for the call of
`execute_command` that it has made last, a step is what it does with the result of this call until it makes
the next one. `emitterId` is the identifier of the emitter.
-/

namespace Enody

/-
`heapless::Vec::push`
-/
def HVec.push {α : Type} {capacity : Nat} (vec : HVec α capacity) (item : α) : Option (HVec α capacity) :=
  if h : vec.items.length < capacity then
    some ⟨vec.items ++ [item], by simp only [List.length_append, List.length_singleton]; omega⟩
  else
    none

namespace Emitter

open Message

def defaultSampleCount : Nat := 401

structure SpectralData where
  samples : HVec SpectralSample defaultSampleCount

abbrev SpectralResult := Except (Error .std) SpectralData

/-
The addition of two `u32`. It panics on overflow when the build checks for it, and wraps otherwise.
-/
def addU32 (checks : Bool) (a b : UInt32) : Option UInt32 :=
  if checks && 2 ^ 32 ≤ a.toNat + b.toNat then none else some (a + b)

/--
`counting` and `collecting` wait for the result of the call with `SampleCount` and with
`SampleBatch(offset, stop)`.
-/
inductive SpectralPhase where
  | counting
  | collecting (count offset stop : UInt32) (samples : HVec SpectralSample defaultSampleCount)
  | returned (result : SpectralResult)
  | panicked

/--
`sent` are the messages of all calls so far.
-/
structure SpectralDownload where
  phase : SpectralPhase
  sent : List CommandMessage

namespace SpectralPhase

def command? : SpectralPhase → Option SpectralDataCommand
  | counting => some .sampleCount
  | collecting _ offset stop _ => some (.sampleBatch offset stop)
  | returned _ => none
  | panicked => none

def next (checks : Bool) (count offset : UInt32) (samples : HVec SpectralSample defaultSampleCount)
    : SpectralPhase :=
  if offset < count then
    match addU32 checks offset (UInt32.ofNat spectralSampleBatchSize) with
    | none => .panicked
    | some sum => .collecting count offset (min count sum) samples
  else
    .returned (.ok ⟨samples⟩)

end SpectralPhase

def sampleCount (event : Event .std) : Option UInt32 :=
  match event with
  | .emitter (.spectralData (.sampleCount count)) => some count
  | _ => none

def sampleBatch (event : Event .std) : Option (HVec SpectralSample spectralSampleBatchSize) :=
  match event with
  | .emitter (.spectralData (.sampleBatch batch)) => some batch
  | _ => none

def pushSamples (samples : HVec SpectralSample defaultSampleCount)
    : List SpectralSample → Except (Error .std) (HVec SpectralSample defaultSampleCount)
  | [] => .ok samples
  | sample :: batch =>
    match samples.push sample with
    | none => .error .insufficientData
    | some samples => pushSamples samples batch

namespace SpectralDownload

variable (checks : Bool) (emitterId : Identifier) (uuids : Nat → Identifier)

def enter (phase : SpectralPhase) (sent : List CommandMessage) : SpectralDownload :=
  match phase.command? with
  | none => ⟨phase, sent⟩
  | some spectral =>
    ⟨phase, sent ++ [.root (uuids sent.length) (.emitter (.spectralData spectral)) (some emitterId)]⟩

def start : SpectralDownload := enter emitterId uuids .counting []

def collect (samples : HVec SpectralSample defaultSampleCount) (result : Runtime.CommandResult)
    : Except (Error .std) (HVec SpectralSample defaultSampleCount) :=
  match result with
  | .error error => .error error
  | .ok eventMessage =>
    match sampleBatch eventMessage.event with
    | none => .error .unexpectedResponse
    | some batch => pushSamples samples batch.items

def handle (phase : SpectralPhase) (result : Runtime.CommandResult) : SpectralPhase :=
  match phase with
  | .counting =>
    match result with
    | .error error => .returned (.error error)
    | .ok eventMessage =>
      match sampleCount eventMessage.event with
      | none => .returned (.error .unexpectedResponse)
      | some count => .next checks count 0 ⟨[], Nat.zero_le _⟩
  | .collecting count _ stop samples =>
    match collect samples result with
    | .error error => .returned (.error error)
    | .ok samples => .next checks count stop samples
  | .returned result => .returned result
  | .panicked => .panicked

def step (download : SpectralDownload) (result : Runtime.CommandResult) : SpectralDownload :=
  match download.phase.command? with
  | none => download
  | some _ => enter emitterId uuids (handle checks download.phase result) download.sent

/-
The download after a number of calls. What the `n`-th call yields may depend on all messages that have been
sent, of which its own is the last one.
-/
def after (call : Nat → List CommandMessage → Runtime.CommandResult) : Nat → SpectralDownload
  | 0 => start emitterId uuids
  | n + 1 =>
    let download := after call n
    step checks emitterId uuids download (call n download.sent)

end SpectralDownload

def state (emitterId : Identifier) : Runtime.Exchange EmitterState where
  resource := emitterId
  command := .emitter .state
  checksResource := true
  answer event :=
    match event with
    | .emitter (.state state) => some state
    | _ => none

def setFlux (emitterId : Identifier) (flux : Flux) : Runtime.Exchange Flux where
  resource := emitterId
  command := .emitter (.fluxSet flux)
  checksResource := false
  answer event :=
    match event with
    | .emitter (.fluxSet resultFlux) => some resultFlux
    | _ => none

def spectralSampleCount (emitterId : Identifier) : Runtime.Exchange UInt32 where
  resource := emitterId
  command := .emitter (.spectralData .sampleCount)
  checksResource := false
  answer := sampleCount

def spectralSampleBatch (emitterId : Identifier) (offset stop : UInt32)
    : Runtime.Exchange (HVec SpectralSample spectralSampleBatchSize) where
  resource := emitterId
  command := .emitter (.spectralData (.sampleBatch offset stop))
  checksResource := false
  answer := sampleBatch

end Emitter
end Enody
