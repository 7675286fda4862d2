import Enody.Emitter.Impl
import Enody.Fixture.Impl
import Enody.Runtime.Impl.Session
import Enody.Source.Impl

/-!
This module contains `RemoteHost` of `host.rs`, and the loops of `fixture.rs` and `source.rs` as sessions. A
handle is the info that it is made of, with the runtime that it belongs to.
-/

namespace Enody
namespace Host

open Message Enody.Runtime

def fixtureCount (hostId : Identifier) : Exchange UInt32 where
  resource := hostId
  command := .host .fixtureCount
  checksResource := false
  answer event :=
    match event with
    | .host (.fixtureCount count) => some count
    | _ => none

def fixtureInfo (hostId : Identifier) (index : UInt32) : Exchange FixtureInfo where
  resource := hostId
  command := .host (.fixtureInfo index)
  checksResource := false
  answer event :=
    match event with
    | .host (.fixtureInfo info) => some info
    | _ => none

end Host

namespace Remote

open Message Enody.Runtime

structure RemoteEmitter where
  info : EmitterInfo
  remote : Nat

structure RemoteSource where
  info : SourceInfo
  remote : Nat

structure RemoteFixture where
  info : FixtureInfo
  remote : Nat

structure RemoteHost where
  info : HostInfo
  remote : Nat

namespace RemoteEmitter

def setFlux (emitter : RemoteEmitter) (flux : Flux) : Session Flux :=
  (Emitter.setFlux emitter.info.identifier flux).session emitter.remote

end RemoteEmitter

namespace RemoteSource

def state (source : RemoteSource) : Session SourceState :=
  (Source.state source.info.identifier).session source.remote

def emitters (source : RemoteSource) : Session (List RemoteEmitter) := do
  let infos ← discoverAll (Source.emitterCount source.info.identifier)
    (Source.emitterInfo source.info.identifier) source.remote
  return infos.map (⟨·, source.remote⟩)

end RemoteSource

namespace RemoteFixture

def sources (fixture : RemoteFixture) : Session (List RemoteSource) := do
  let infos ← discoverAll (Fixture.sourceCount fixture.info.identifier)
    (Fixture.sourceInfo fixture.info.identifier) fixture.remote
  return infos.map (⟨·, fixture.remote⟩)

def display (fixture : RemoteFixture) (config : Configuration) (targetFlux : Flux)
    : Session (Configuration × Flux) :=
  (Fixture.display fixture.info.identifier config targetFlux).session fixture.remote

end RemoteFixture

namespace RemoteHost

/-
`RemoteRuntime::host`
-/
def fromRuntime (remote : Nat) : Session RemoteHost := do
  let info ← RemoteRuntime.fetchHostInfo remote
  return ⟨info, remote⟩

def fixtures (host : RemoteHost) : Session (List RemoteFixture) := do
  let infos ← discoverAll (Host.fixtureCount host.info.identifier) (Host.fixtureInfo host.info.identifier)
    host.remote
  return infos.map (⟨·, host.remote⟩)

end RemoteHost

end Remote
end Enody
