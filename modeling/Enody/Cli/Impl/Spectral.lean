import Enody.Cli.Impl.Commands

/-!
This module contains `download_spectral_data` of `main.rs` and `spectral_data` of `RemoteEmitter` as a session. What
is printed is left out, and so is the file: the result is what is written as JSON to a path where there is no
file.

`budget` bounds the calls of one download, which need not end in a build that does not check for overflow. A download
that runs out of it or panics ends with `unknown` here.
-/

namespace Enody

namespace Emitter

open Message Enody.Runtime

def spectralAsk (remote : Nat) (emitterId : Identifier) (spectral : SpectralDataCommand) : Ask where
  runtime := remote
  resource := some emitterId
  command := .emitter (.spectralData spectral)

def SpectralPhase.session (checks : Bool) (remote : Nat) (emitterId : Identifier)
    : Nat → SpectralPhase → Session SpectralData
  | _, .returned result => Fallible.ofExcept result
  | _, .panicked => throw .unknown
  | 0, _ => throw .unknown
  | budget + 1, phase =>
    match phase.command? with
    | none => throw .unknown
    | some spectral => do
      let result ← Fallible.ask (spectralAsk remote emitterId spectral)
      session checks remote emitterId budget (SpectralDownload.handle checks phase result)

end Emitter

namespace Remote

open Enody.Runtime

def RemoteEmitter.spectralData (checks : Bool) (budget : Nat) (emitter : RemoteEmitter)
    : Session Emitter.SpectralData :=
  Emitter.SpectralPhase.session checks emitter.remote emitter.info.identifier budget .counting

end Remote

namespace Cli

open Message Remote Enody.Runtime

structure EmitterSpectralData where
  identifier : Identifier
  spectralData : Emitter.SpectralData

structure SourceSpectralData where
  identifier : Identifier
  emitters : List EmitterSpectralData

structure FixtureSpectralData where
  identifier : Identifier
  sources : List SourceSpectralData

structure HostSpectralData where
  host : HostInfo
  fixtures : List FixtureSpectralData

section Download

variable (checks : Bool) (budget : Nat)

def emitterOutput (emitter : RemoteEmitter) : Session EmitterSpectralData := do
  let spectralData ← emitter.spectralData checks budget
  return ⟨emitter.info.identifier, spectralData⟩

def sourceOutputs (outputs : List SourceSpectralData) (source : RemoteSource)
    : Session (List SourceSpectralData) := do
  let emitters ← source.emitters.handled
  match emitters with
  | .error _ => return outputs
  | .ok emitters => do
    let emitterOutputs ← emitters.mapM (emitterOutput checks budget)
    return outputs ++ [⟨source.info.identifier, emitterOutputs⟩]

def fixtureOutputs (outputs : List FixtureSpectralData) (fixture : RemoteFixture)
    : Session (List FixtureSpectralData) := do
  let sources ← fixture.sources.handled
  match sources with
  | .error _ => return outputs
  | .ok sources => do
    let sourceOutputs ← sources.foldlM (sourceOutputs checks budget) []
    return outputs ++ [⟨fixture.info.identifier, sourceOutputs⟩]

/-
`present` says that there is a file at the path.
-/
def downloadSpectralData (outputPath : String) (present : Bool) (runtimes : List Nat)
    : Session (Option HostSpectralData) :=
  if present then
    throw (.debugText s!"Output file already exists: {outputPath}")
  else
    match runtimes with
    | [] => return none
    | runtime :: _ => do
      let host ← (RemoteHost.fromRuntime runtime).handled
      match host with
      | .error _ => return none
      | .ok host => do
        let fixtures ← host.fixtures.handled
        match fixtures with
        | .error _ => return none
        | .ok fixtures => do
          let outputs ← fixtures.foldlM (fixtureOutputs checks budget) []
          return some ⟨host.info, outputs⟩

end Download

end Cli
end Enody
