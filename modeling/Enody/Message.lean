import Enody.Basic

/-!
This module contains the wire types of `message.rs` that the transports and the runtime exchange. The
error type inside of an event depends on the build, all other payloads are the same in both builds.
-/

namespace Enody
namespace Message

def spectralSampleBatchSize : Nat := 32
def logEventBufferSize : Nat := 256
def networkScanFilterMaxLen : Nat := 4
def networkScanResultMaxLen : Nat := 16
def wifiSsidMaxLen : Nat := 32
def wifiPasswordMaxLen : Nat := 64
def settingKeyMaxLen : Nat := 64
def settingValueMaxLen : Nat := 128
def tokenStringMaxLen : Nat := 64
def tokenDataMaxLen : Nat := 32

/--
A `core::time::Duration`.
-/
structure Duration where
  secs : UInt64
  nanos : UInt32
  nanos_lt : nanos.toNat < 1000000000

structure SpectralSample where
  wavelength : Measurement
  measurement : Measurement

inductive Flux where
  | relative (flux : Measurement)

structure Chromaticity where
  x : Measurement
  y : Measurement

inductive Configuration where
  | flux
  | blackbody (kelvin : Measurement)
  | chromatic (chromaticity : Chromaticity)
  | spectral
  | manual

inductive TransitionMethod where
  | linear (duration : Duration)

structure Transition (State : Type) where
  target : State
  method : TransitionMethod

structure Version where
  major : UInt8
  minor : UInt8
  patch : UInt16
  deriving DecidableEq

structure HostInfo where
  version : Version
  identifier : Identifier

inductive WifiAuth where
  | unknown
  | «open»
  | secured

structure WifiNetwork where
  ssid : Option (HString wifiSsidMaxLen)
  bssid : Option (Vector UInt8 6)
  channel : Option UInt8
  rssi : Option Int8
  auth : Option WifiAuth

inductive Network where
  | wifi (network : WifiNetwork)

inductive WifiCredentials where
  | password (password : HString wifiPasswordMaxLen)

inductive NetworkCredentials where
  | none
  | wifi (credentials : WifiCredentials)

inductive HostCommand where
  | info
  | fixtureCount
  | fixtureInfo (index : UInt32)
  | networkScan (filters : HVec Network networkScanFilterMaxLen)
  | networkJoin (network : Network) (credentials : NetworkCredentials)

structure FixtureInfo where
  identifier : Identifier

inductive HostEvent where
  | info (info : HostInfo)
  | fixtureCount (count : UInt32)
  | fixtureInfo (info : FixtureInfo)
  | networkScanStart (filters : HVec Network networkScanFilterMaxLen)
  | networkScanComplete (networks : HVec Network networkScanResultMaxLen)
  | networkJoinStart (network : Network)
  | networkJoinComplete (network : Network)

structure FixtureState where
  configuration : Configuration
  flux : Flux

inductive FixtureCommand where
  | info
  | display (configuration : Configuration) (flux : Flux)
  | sourceCount
  | sourceInfo (index : UInt32)
  | state
  | transition (transition : Transition FixtureState)

structure SourceInfo where
  identifier : Identifier

inductive FixtureEvent where
  | info (info : FixtureInfo)
  | display (configuration : Configuration) (flux : Flux)
  | sourceCount (count : UInt32)
  | sourceInfo (info : SourceInfo)
  | state (state : FixtureState)
  | transitionStart (current : FixtureState) (transition : Transition FixtureState)
  | transitionEnd (transition : Transition FixtureState) (final : FixtureState)

structure SourceState where
  configuration : Configuration
  flux : Flux

inductive SourceCommand where
  | info
  | display (configuration : Configuration) (flux : Flux)
  | emitterCount
  | emitterInfo (index : UInt32)
  | state
  | transition (transition : Transition SourceState)

structure EmitterInfo where
  identifier : Identifier

inductive SourceEvent where
  | info (info : SourceInfo)
  | display (configuration : Configuration) (flux : Flux)
  | emitterCount (count : UInt32)
  | emitterInfo (info : EmitterInfo)
  | state (state : SourceState)
  | transitionStart (current : SourceState) (transition : Transition SourceState)
  | transitionEnd (transition : Transition SourceState) (final : SourceState)

inductive SpectralDataCommand where
  | info
  | domain
  | sampleCount
  | sample (index : UInt32)
  | sampleBatch (start stop : UInt32)

structure SpectralDataInfo where
  identifier : Identifier

inductive SpectralDataEvent where
  | info (info : SpectralDataInfo)
  | domain (minimum maximum : Measurement)
  | sampleCount (count : UInt32)
  | sample (sample : SpectralSample)
  | sampleBatch (samples : HVec SpectralSample spectralSampleBatchSize)

inductive EmitterCommand where
  | info
  | fluxRange
  | fluxSet (flux : Flux)
  | spectralData (command : SpectralDataCommand)
  | state

structure EmitterState where
  flux : Measurement

inductive EmitterEvent where
  | info (info : EmitterInfo)
  | fluxRange (minimum maximum : Flux)
  | fluxSet (flux : Flux)
  | spectralData (event : SpectralDataEvent)
  | state (state : EmitterState)

abbrev SettingKey := HString settingKeyMaxLen
abbrev SettingValue := HVec UInt8 settingValueMaxLen
abbrev TokenKeyId := HString tokenStringMaxLen
abbrev TokenApprovalMethod := HString tokenStringMaxLen

inductive StoredSetting where
  | missing
  | «public» (value : SettingValue)
  | «private»

structure Token where
  hostId : Identifier
  keyId : TokenKeyId
  data : HVec UInt8 tokenDataMaxLen
  deriving DecidableEq

inductive RuntimeCommand where
  | info
  | host
  | environmentCount
  | environmentInfo (index : UInt32)
  | settingGet (key : SettingKey)
  | settingSet (key : SettingKey) (value : SettingValue)
  | settingDelete (key : SettingKey)
  | settingReset
  | tokenGenerate
  | tokenRevoke (keyId : TokenKeyId)

structure RuntimeInfo where
  version : Version
  identifier : Identifier

inductive LogLevel where
  | error
  | warn
  | info
  | debug
  | trace

structure LogEvent where
  level : LogLevel
  output : HString logEventBufferSize

structure EnvironmentInfo where
  identifier : Identifier

inductive RuntimeEvent where
  | info (info : RuntimeInfo)
  | log (log : LogEvent)
  | host (info : HostInfo)
  | environmentCount (count : UInt32)
  | environmentInfo (info : EnvironmentInfo)
  | settingGet (key : SettingKey) (setting : StoredSetting)
  | settingSet (key : SettingKey)
  | settingDelete (key : SettingKey)
  | settingReset
  | tokenGenerateStart
  | tokenGenerateApproval (method : TokenApprovalMethod)
  | tokenGenerated (token : Token)
  | tokenRevoked (keyId : TokenKeyId)

inductive EnvironmentCommand where
  | info
  | display (configuration : Configuration) (flux : Flux)
  | runtimeCount
  | runtimeInfo (index : UInt32)
  | fixtureCount
  | fixtureInfo (index : UInt32)

inductive EnvironmentEvent where
  | info (info : EnvironmentInfo)
  | display (configuration : Configuration) (flux : Flux)
  | runtimeCount (count : UInt32)
  | runtimeInfo (info : RuntimeInfo)
  | fixtureCount (count : UInt32)
  | fixtureInfo (info : FixtureInfo) (runtimeIndex : UInt32)

inductive Command where
  | internal
  | host (command : HostCommand)
  | runtime (command : RuntimeCommand)
  | environment (command : EnvironmentCommand)
  | fixture (command : FixtureCommand)
  | source (command : SourceCommand)
  | emitter (command : EmitterCommand)

inductive Event (build : Build) where
  | error (error : Error build)
  | internal
  | host (event : HostEvent)
  | runtime (event : RuntimeEvent)
  | environment (event : EnvironmentEvent)
  | fixture (event : FixtureEvent)
  | source (event : SourceEvent)
  | emitter (event : EmitterEvent)

end Message

open Message

structure CommandMessage where
  identifier : Identifier
  context : Option Identifier
  resource : Option Identifier
  command : Command

structure EventMessage (build : Build) where
  identifier : Identifier
  context : Option Identifier
  resource : Option Identifier
  event : Event build

inductive Message (build : Build) where
  | command (message : CommandMessage)
  | event (message : EventMessage build)

end Enody
