import Enody.Host.Impl
import Enody.Message.Version

/-!
This module contains the commands of `main.rs` that read and set what is attached. `runtimes` are the runtimes
that have been discovered. What is printed is left out.
-/

namespace Enody
namespace Cli

open Message Remote Enody.Runtime

structure SourceStateEntry where
  identifier : Identifier
  state : SourceState

structure FixtureSourceStateDump where
  identifier : Identifier
  sources : List SourceStateEntry

structure HostSourceStateDump where
  identifier : Identifier
  version : String
  fixtures : List FixtureSourceStateDump

def stateDevices (runtimes : List Nat) : Session (List HostSourceStateDump) :=
  runtimes.mapM fun runtime => do
    let host ← RemoteHost.fromRuntime runtime
    let fixtures ← host.fixtures
    let fixtureOutputs ← fixtures.mapM fun fixture => do
      let sources ← fixture.sources
      let sourceOutputs ← sources.mapM fun source => do
        let state ← source.state
        return (⟨source.info.identifier, state⟩ : SourceStateEntry)
      return (⟨fixture.info.identifier, sourceOutputs⟩ : FixtureSourceStateDump)
    return ⟨host.info.identifier, host.info.version.toString, fixtureOutputs⟩

structure ScanEntry where
  fixture : RemoteFixture
  label : String
  emitter : RemoteEmitter

/-
The loop over the emitters of a source.
-/
def emitterEntries (fixture : RemoteFixture) (fi si : Nat) (emitters : List RemoteEmitter) : List ScanEntry :=
  emitters.zipIdx.map fun (emitter, ei) => ⟨fixture, s!"F{fi}S{si}E{ei}", emitter⟩

def sourceEntries (fixture : RemoteFixture) (fi : Nat) (entries : List ScanEntry)
    (source : RemoteSource × Nat)
    : Session (List ScanEntry) := do
  let emitters ← source.1.emitters.handled
  match emitters with
  | .error _ => return entries
  | .ok emitters => return entries ++ emitterEntries fixture fi source.2 emitters

def fixtureEntries (entries : List ScanEntry) (fixture : RemoteFixture × Nat) : Session (List ScanEntry) := do
  let sources ← fixture.1.sources.handled
  match sources with
  | .error _ => return entries
  | .ok sources => sources.zipIdx.foldlM (sourceEntries fixture.1 fixture.2) entries

/-
`host` and `fixtures` of one runtime, where `continue` follows a failure.
-/
def hostFixtures (runtime : Nat) : Session (Option (List RemoteFixture)) := do
  let host ← (RemoteHost.fromRuntime runtime).handled
  match host with
  | .error _ => return none
  | .ok host =>
    let fixtures ← host.fixtures.handled
    match fixtures with
    | .error _ => return none
    | .ok fixtures => return some fixtures

def runtimeEntries (entries : List ScanEntry) (runtime : Nat) : Session (List ScanEntry) := do
  let fixtures ← hostFixtures runtime
  match fixtures with
  | none => return entries
  | some fixtures => fixtures.zipIdx.foldlM fixtureEntries entries

/-
The first half of `scan`.
-/
def scanEntries (runtimes : List Nat) : Session (List ScanEntry) := runtimes.foldlM runtimeEntries []

/-
The `f32` values 0.0 and 0.5.
-/
def fluxZero : Measurement := 0x00000000
def fluxHalf : Measurement := 0x3F000000

def scanEmitter (flux : Measurement) (entry : ScanEntry) : Session PUnit := do
  let _ ← entry.emitter.setFlux (.relative flux)
  let _ ← entry.fixture.display .manual (.relative fluxHalf)
  let _ ← entry.emitter.setFlux (.relative fluxZero)
  let _ ← entry.fixture.display .manual (.relative fluxHalf)
  return ⟨⟩

def scan (flux : Measurement) (runtimes : List Nat) : Session PUnit := do
  let entries ← scanEntries runtimes
  forM entries (scanEmitter flux)

end Cli
end Enody
