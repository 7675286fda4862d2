import Enody.Message
import Enody.Serde.Codec

/-!
This module contains the codecs that `serde` derives for the wire types which are the same in both builds:
the fields of a structure in their order, the variants of an enumeration in their order.
-/

namespace Enody

open Serde

/-
A UUID is serialized as its 16 bytes, most significant first, behind their length.
-/
def Identifier.codec : Codec Identifier :=
  (Codec.bytes 16 (by decide)).map (fun bytes => BitVec.ofNat 128 (ofLeBytes bytes.val.reverse))
    (fun identifier => ⟨(leBytes 16 identifier.toNat).reverse, by simp [length_leBytes]⟩)
    (by
      intro identifier
      rw [List.reverse_reverse, ofLeBytes_leBytes (by have := identifier.isLt; omega),
        BitVec.ofNat_toNat, BitVec.setWidth_eq])

def Measurement.codec : Codec Measurement :=
  (Codec.u8.array 4).map (fun bytes => BitVec.ofNat 32 (ofLeBytes bytes.val))
    (fun measurement => ⟨leBytes 4 measurement.toNat, length_leBytes 4 _⟩)
    (by
      intro measurement
      rw [ofLeBytes_leBytes (by have := measurement.isLt; omega), BitVec.ofNat_toNat,
        BitVec.setWidth_eq])

def HString.codec (capacity : Nat) (hCapacity : capacity < 2 ^ 64) : Codec (HString capacity) :=
  (Codec.str capacity hCapacity).map (fun s => ⟨s.val, s.property⟩) (fun s => ⟨s.val, s.fits⟩)
    (fun _ => rfl)

def HVec.codec {α : Type} (codec : Codec α) (capacity : Nat) (hCapacity : capacity < 2 ^ 64)
    : Codec (HVec α capacity) :=
  (codec.seq capacity hCapacity).map (fun items => ⟨items.val, items.property⟩)
    (fun v => ⟨v.items, v.fits⟩) (fun _ => rfl)

namespace Message

/-
`Duration::new` carries whole seconds among the nanoseconds, an overflow is an error.
-/
def Duration.codec : Codec Duration where
  serialize duration := Codec.u64.serialize duration.secs ++ Codec.u32.serialize duration.nanos
  deserialize := do
    let secs ← Codec.u64.deserialize
    let nanos ← Codec.u32.deserialize
    let carried := secs.toNat + nanos.toNat / 1000000000
    if carried < 2 ^ 64 then
      return ⟨UInt64.ofNat carried, UInt32.ofNat (nanos.toNat % 1000000000), by
        rw [UInt32.toNat_ofNat']
        omega⟩
    else
      failure
  maxSize := some 15
  reads := by
    intro ⟨secs, nanos, hNanos⟩
    have hCarried : secs.toNat + nanos.toNat / 1000000000 = secs.toNat := by omega
    have hRest : nanos.toNat % 1000000000 = nanos.toNat := by omega
    have hSecs : secs.toNat < 2 ^ 64 := secs.toNat_lt
    apply (Codec.u64.reads secs).bind
    apply (Codec.u32.reads nanos).bind_pure
    simp only [hCarried, hRest, hSecs, ↓reduceIte, UInt64.ofNat_toNat, UInt32.ofNat_toNat]
    exact .pure _
  length_le := by
    intro max hMax duration
    injection hMax with hMax
    have hSecs := Codec.u64.length_le 10 rfl duration.secs
    have hNanos := Codec.u32.length_le 5 rfl duration.nanos
    rw [← hMax, List.length_append]
    exact Nat.add_le_add hSecs hNanos

def SpectralSample.codec : Codec SpectralSample :=
  (Measurement.codec.pair Measurement.codec).map (fun fields => ⟨fields.1, fields.2⟩)
    (fun sample => (sample.wavelength, sample.measurement)) (fun _ => rfl)

def Flux.codec : Codec Flux :=
  .enum [.newtype .relative Measurement.codec]
    (fun
      | .relative flux => ⟨0, _, flux, rfl, rfl⟩)
    (by decide)

def Chromaticity.codec : Codec Chromaticity :=
  (Measurement.codec.pair Measurement.codec).map (fun fields => ⟨fields.1, fields.2⟩)
    (fun chromaticity => (chromaticity.x, chromaticity.y)) (fun _ => rfl)

def Configuration.codec : Codec Configuration :=
  .enum
    [.unit .flux, .newtype .blackbody Measurement.codec, .newtype .chromatic Chromaticity.codec,
      .unit .spectral, .unit .manual]
    (fun
      | .flux => ⟨0, _, (), rfl, rfl⟩
      | .blackbody kelvin => ⟨1, _, kelvin, rfl, rfl⟩
      | .chromatic chromaticity => ⟨2, _, chromaticity, rfl, rfl⟩
      | .spectral => ⟨3, _, (), rfl, rfl⟩
      | .manual => ⟨4, _, (), rfl, rfl⟩)
    (by decide)

def TransitionMethod.codec : Codec TransitionMethod :=
  .enum
    [.newtype .linear Duration.codec]
    (fun
      | .linear value => ⟨0, _, value, rfl, rfl⟩)
    (by decide)

def Transition.codec {State : Type} (state : Codec State) : Codec (Transition State) :=
  (state.pair TransitionMethod.codec).map
    (fun fields => ⟨fields.1, fields.2⟩)
    (fun value => (value.target, value.method))
    (fun _ => rfl)

def Version.codec : Codec Version :=
  (Codec.u8.pair (Codec.u8.pair Codec.u16)).map
    (fun fields => ⟨fields.1, fields.2.1, fields.2.2⟩)
    (fun value => (value.major, value.minor, value.patch))
    (fun _ => rfl)

def HostInfo.codec : Codec HostInfo :=
  (Version.codec.pair Identifier.codec).map
    (fun fields => ⟨fields.1, fields.2⟩)
    (fun value => (value.version, value.identifier))
    (fun _ => rfl)

def WifiAuth.codec : Codec WifiAuth :=
  .enum
    [.unit .unknown, .unit .«open», .unit .secured]
    (fun
      | .unknown => ⟨0, _, (), rfl, rfl⟩
      | .«open» => ⟨1, _, (), rfl, rfl⟩
      | .secured => ⟨2, _, (), rfl, rfl⟩)
    (by decide)

def Bssid.codec : Codec (Vector UInt8 6) :=
  (Codec.u8.array 6).map
    (fun bytes => ⟨bytes.val.toArray, bytes.property⟩)
    (fun bssid => ⟨bssid.toList, bssid.length_toList⟩)
    (fun _ => rfl)

def WifiNetwork.codec : Codec WifiNetwork :=
  ((HString.codec wifiSsidMaxLen (by decide)).option.pair
    (Bssid.codec.option.pair
      (Codec.u8.option.pair (Codec.i8.option.pair WifiAuth.codec.option)))).map
    (fun fields => ⟨fields.1, fields.2.1, fields.2.2.1, fields.2.2.2.1, fields.2.2.2.2⟩)
    (fun value => (value.ssid, value.bssid, value.channel, value.rssi, value.auth))
    (fun _ => rfl)

def Network.codec : Codec Network :=
  .enum
    [.newtype .wifi WifiNetwork.codec]
    (fun
      | .wifi value => ⟨0, _, value, rfl, rfl⟩)
    (by decide)

def WifiCredentials.codec : Codec WifiCredentials :=
  .enum
    [.newtype .password (HString.codec wifiPasswordMaxLen (by decide))]
    (fun
      | .password value => ⟨0, _, value, rfl, rfl⟩)
    (by decide)

def NetworkCredentials.codec : Codec NetworkCredentials :=
  .enum
    [.unit .none, .newtype .wifi WifiCredentials.codec]
    (fun
      | .none => ⟨0, _, (), rfl, rfl⟩
      | .wifi value => ⟨1, _, value, rfl, rfl⟩)
    (by decide)

def HostCommand.codec : Codec HostCommand :=
  .enum
    [.unit .info, .unit .fixtureCount, .newtype .fixtureInfo Codec.u32,
      .newtype .networkScan (HVec.codec Network.codec networkScanFilterMaxLen (by decide)),
      .pair .networkJoin Network.codec NetworkCredentials.codec]
    (fun
      | .info => ⟨0, _, (), rfl, rfl⟩
      | .fixtureCount => ⟨1, _, (), rfl, rfl⟩
      | .fixtureInfo value => ⟨2, _, value, rfl, rfl⟩
      | .networkScan value => ⟨3, _, value, rfl, rfl⟩
      | .networkJoin network credentials => ⟨4, _, (network, credentials), rfl, rfl⟩)
    (by decide)

def FixtureInfo.codec : Codec FixtureInfo :=
  Identifier.codec.map (fun identifier => ⟨identifier⟩) (fun value => value.identifier)
    (fun _ => rfl)

def HostEvent.codec : Codec HostEvent :=
  .enum
    [.newtype .info HostInfo.codec, .newtype .fixtureCount Codec.u32,
      .newtype .fixtureInfo FixtureInfo.codec,
      .newtype .networkScanStart (HVec.codec Network.codec networkScanFilterMaxLen (by decide)),
      .newtype .networkScanComplete (HVec.codec Network.codec networkScanResultMaxLen (by decide)),
      .newtype .networkJoinStart Network.codec, .newtype .networkJoinComplete Network.codec]
    (fun
      | .info value => ⟨0, _, value, rfl, rfl⟩
      | .fixtureCount value => ⟨1, _, value, rfl, rfl⟩
      | .fixtureInfo value => ⟨2, _, value, rfl, rfl⟩
      | .networkScanStart value => ⟨3, _, value, rfl, rfl⟩
      | .networkScanComplete value => ⟨4, _, value, rfl, rfl⟩
      | .networkJoinStart value => ⟨5, _, value, rfl, rfl⟩
      | .networkJoinComplete value => ⟨6, _, value, rfl, rfl⟩)
    (by decide)

def FixtureState.codec : Codec FixtureState :=
  (Configuration.codec.pair Flux.codec).map
    (fun fields => ⟨fields.1, fields.2⟩)
    (fun value => (value.configuration, value.flux))
    (fun _ => rfl)

def FixtureCommand.codec : Codec FixtureCommand :=
  .enum
    [.unit .info, .pair .display Configuration.codec Flux.codec, .unit .sourceCount,
      .newtype .sourceInfo Codec.u32, .unit .state,
      .newtype .transition (Transition.codec FixtureState.codec)]
    (fun
      | .info => ⟨0, _, (), rfl, rfl⟩
      | .display configuration flux => ⟨1, _, (configuration, flux), rfl, rfl⟩
      | .sourceCount => ⟨2, _, (), rfl, rfl⟩
      | .sourceInfo value => ⟨3, _, value, rfl, rfl⟩
      | .state => ⟨4, _, (), rfl, rfl⟩
      | .transition value => ⟨5, _, value, rfl, rfl⟩)
    (by decide)

def SourceInfo.codec : Codec SourceInfo :=
  Identifier.codec.map (fun identifier => ⟨identifier⟩) (fun value => value.identifier)
    (fun _ => rfl)

def FixtureEvent.codec : Codec FixtureEvent :=
  .enum
    [.newtype .info FixtureInfo.codec, .pair .display Configuration.codec Flux.codec,
      .newtype .sourceCount Codec.u32, .newtype .sourceInfo SourceInfo.codec,
      .newtype .state FixtureState.codec,
      .pair .transitionStart FixtureState.codec (Transition.codec FixtureState.codec),
      .pair .transitionEnd (Transition.codec FixtureState.codec) FixtureState.codec]
    (fun
      | .info value => ⟨0, _, value, rfl, rfl⟩
      | .display configuration flux => ⟨1, _, (configuration, flux), rfl, rfl⟩
      | .sourceCount value => ⟨2, _, value, rfl, rfl⟩
      | .sourceInfo value => ⟨3, _, value, rfl, rfl⟩
      | .state value => ⟨4, _, value, rfl, rfl⟩
      | .transitionStart current transition => ⟨5, _, (current, transition), rfl, rfl⟩
      | .transitionEnd transition final => ⟨6, _, (transition, final), rfl, rfl⟩)
    (by decide)

def SourceState.codec : Codec SourceState :=
  (Configuration.codec.pair Flux.codec).map
    (fun fields => ⟨fields.1, fields.2⟩)
    (fun value => (value.configuration, value.flux))
    (fun _ => rfl)

def SourceCommand.codec : Codec SourceCommand :=
  .enum
    [.unit .info, .pair .display Configuration.codec Flux.codec, .unit .emitterCount,
      .newtype .emitterInfo Codec.u32, .unit .state,
      .newtype .transition (Transition.codec SourceState.codec)]
    (fun
      | .info => ⟨0, _, (), rfl, rfl⟩
      | .display configuration flux => ⟨1, _, (configuration, flux), rfl, rfl⟩
      | .emitterCount => ⟨2, _, (), rfl, rfl⟩
      | .emitterInfo value => ⟨3, _, value, rfl, rfl⟩
      | .state => ⟨4, _, (), rfl, rfl⟩
      | .transition value => ⟨5, _, value, rfl, rfl⟩)
    (by decide)

def EmitterInfo.codec : Codec EmitterInfo :=
  Identifier.codec.map (fun identifier => ⟨identifier⟩) (fun value => value.identifier)
    (fun _ => rfl)

def SourceEvent.codec : Codec SourceEvent :=
  .enum
    [.newtype .info SourceInfo.codec, .pair .display Configuration.codec Flux.codec,
      .newtype .emitterCount Codec.u32, .newtype .emitterInfo EmitterInfo.codec,
      .newtype .state SourceState.codec,
      .pair .transitionStart SourceState.codec (Transition.codec SourceState.codec),
      .pair .transitionEnd (Transition.codec SourceState.codec) SourceState.codec]
    (fun
      | .info value => ⟨0, _, value, rfl, rfl⟩
      | .display configuration flux => ⟨1, _, (configuration, flux), rfl, rfl⟩
      | .emitterCount value => ⟨2, _, value, rfl, rfl⟩
      | .emitterInfo value => ⟨3, _, value, rfl, rfl⟩
      | .state value => ⟨4, _, value, rfl, rfl⟩
      | .transitionStart current transition => ⟨5, _, (current, transition), rfl, rfl⟩
      | .transitionEnd transition final => ⟨6, _, (transition, final), rfl, rfl⟩)
    (by decide)

def SpectralDataCommand.codec : Codec SpectralDataCommand :=
  .enum
    [.unit .info, .unit .domain, .unit .sampleCount, .newtype .sample Codec.u32,
      .pair .sampleBatch Codec.u32 Codec.u32]
    (fun
      | .info => ⟨0, _, (), rfl, rfl⟩
      | .domain => ⟨1, _, (), rfl, rfl⟩
      | .sampleCount => ⟨2, _, (), rfl, rfl⟩
      | .sample value => ⟨3, _, value, rfl, rfl⟩
      | .sampleBatch start stop => ⟨4, _, (start, stop), rfl, rfl⟩)
    (by decide)

def SpectralDataInfo.codec : Codec SpectralDataInfo :=
  Identifier.codec.map (fun identifier => ⟨identifier⟩) (fun value => value.identifier)
    (fun _ => rfl)

def SpectralDataEvent.codec : Codec SpectralDataEvent :=
  .enum
    [.newtype .info SpectralDataInfo.codec, .pair .domain Measurement.codec Measurement.codec,
      .newtype .sampleCount Codec.u32, .newtype .sample SpectralSample.codec,
      .newtype .sampleBatch (HVec.codec SpectralSample.codec spectralSampleBatchSize (by decide))]
    (fun
      | .info value => ⟨0, _, value, rfl, rfl⟩
      | .domain minimum maximum => ⟨1, _, (minimum, maximum), rfl, rfl⟩
      | .sampleCount value => ⟨2, _, value, rfl, rfl⟩
      | .sample value => ⟨3, _, value, rfl, rfl⟩
      | .sampleBatch value => ⟨4, _, value, rfl, rfl⟩)
    (by decide)

def EmitterCommand.codec : Codec EmitterCommand :=
  .enum
    [.unit .info, .unit .fluxRange, .newtype .fluxSet Flux.codec,
      .newtype .spectralData SpectralDataCommand.codec, .unit .state]
    (fun
      | .info => ⟨0, _, (), rfl, rfl⟩
      | .fluxRange => ⟨1, _, (), rfl, rfl⟩
      | .fluxSet value => ⟨2, _, value, rfl, rfl⟩
      | .spectralData value => ⟨3, _, value, rfl, rfl⟩
      | .state => ⟨4, _, (), rfl, rfl⟩)
    (by decide)

def EmitterState.codec : Codec EmitterState :=
  Measurement.codec.map (fun flux => ⟨flux⟩) (fun value => value.flux) (fun _ => rfl)

def EmitterEvent.codec : Codec EmitterEvent :=
  .enum
    [.newtype .info EmitterInfo.codec, .pair .fluxRange Flux.codec Flux.codec,
      .newtype .fluxSet Flux.codec, .newtype .spectralData SpectralDataEvent.codec,
      .newtype .state EmitterState.codec]
    (fun
      | .info value => ⟨0, _, value, rfl, rfl⟩
      | .fluxRange minimum maximum => ⟨1, _, (minimum, maximum), rfl, rfl⟩
      | .fluxSet value => ⟨2, _, value, rfl, rfl⟩
      | .spectralData value => ⟨3, _, value, rfl, rfl⟩
      | .state value => ⟨4, _, value, rfl, rfl⟩)
    (by decide)

def SettingKey.codec : Codec SettingKey :=
  HString.codec settingKeyMaxLen (by decide)

def SettingValue.codec : Codec SettingValue :=
  HVec.codec Codec.u8 settingValueMaxLen (by decide)

def TokenKeyId.codec : Codec TokenKeyId :=
  HString.codec tokenStringMaxLen (by decide)

def TokenApprovalMethod.codec : Codec TokenApprovalMethod :=
  HString.codec tokenStringMaxLen (by decide)

def StoredSetting.codec : Codec StoredSetting :=
  .enum
    [.unit .missing, .newtype .«public» SettingValue.codec, .unit .«private»]
    (fun
      | .missing => ⟨0, _, (), rfl, rfl⟩
      | .«public» value => ⟨1, _, value, rfl, rfl⟩
      | .«private» => ⟨2, _, (), rfl, rfl⟩)
    (by decide)

def Token.codec : Codec Token :=
  (Identifier.codec.pair
    (TokenKeyId.codec.pair (HVec.codec Codec.u8 tokenDataMaxLen (by decide)))).map
    (fun fields => ⟨fields.1, fields.2.1, fields.2.2⟩)
    (fun value => (value.hostId, value.keyId, value.data))
    (fun _ => rfl)

def RuntimeCommand.codec : Codec RuntimeCommand :=
  .enum
    [.unit .info, .unit .host, .unit .environmentCount, .newtype .environmentInfo Codec.u32,
      .newtype .settingGet SettingKey.codec,
      .pair .settingSet SettingKey.codec SettingValue.codec,
      .newtype .settingDelete SettingKey.codec, .unit .settingReset, .unit .tokenGenerate,
      .newtype .tokenRevoke TokenKeyId.codec]
    (fun
      | .info => ⟨0, _, (), rfl, rfl⟩
      | .host => ⟨1, _, (), rfl, rfl⟩
      | .environmentCount => ⟨2, _, (), rfl, rfl⟩
      | .environmentInfo value => ⟨3, _, value, rfl, rfl⟩
      | .settingGet value => ⟨4, _, value, rfl, rfl⟩
      | .settingSet key value => ⟨5, _, (key, value), rfl, rfl⟩
      | .settingDelete value => ⟨6, _, value, rfl, rfl⟩
      | .settingReset => ⟨7, _, (), rfl, rfl⟩
      | .tokenGenerate => ⟨8, _, (), rfl, rfl⟩
      | .tokenRevoke value => ⟨9, _, value, rfl, rfl⟩)
    (by decide)

def RuntimeInfo.codec : Codec RuntimeInfo :=
  (Version.codec.pair Identifier.codec).map
    (fun fields => ⟨fields.1, fields.2⟩)
    (fun value => (value.version, value.identifier))
    (fun _ => rfl)

def LogLevel.codec : Codec LogLevel :=
  .enum
    [.unit .error, .unit .warn, .unit .info, .unit .debug, .unit .trace]
    (fun
      | .error => ⟨0, _, (), rfl, rfl⟩
      | .warn => ⟨1, _, (), rfl, rfl⟩
      | .info => ⟨2, _, (), rfl, rfl⟩
      | .debug => ⟨3, _, (), rfl, rfl⟩
      | .trace => ⟨4, _, (), rfl, rfl⟩)
    (by decide)

def LogEvent.codec : Codec LogEvent :=
  (LogLevel.codec.pair (HString.codec logEventBufferSize (by decide))).map
    (fun fields => ⟨fields.1, fields.2⟩)
    (fun value => (value.level, value.output))
    (fun _ => rfl)

def EnvironmentInfo.codec : Codec EnvironmentInfo :=
  Identifier.codec.map (fun identifier => ⟨identifier⟩) (fun value => value.identifier)
    (fun _ => rfl)

def RuntimeEvent.codec : Codec RuntimeEvent :=
  .enum
    [.newtype .info RuntimeInfo.codec, .newtype .log LogEvent.codec,
      .newtype .host HostInfo.codec, .newtype .environmentCount Codec.u32,
      .newtype .environmentInfo EnvironmentInfo.codec,
      .pair .settingGet SettingKey.codec StoredSetting.codec,
      .newtype .settingSet SettingKey.codec, .newtype .settingDelete SettingKey.codec,
      .unit .settingReset, .unit .tokenGenerateStart,
      .newtype .tokenGenerateApproval TokenApprovalMethod.codec,
      .newtype .tokenGenerated Token.codec, .newtype .tokenRevoked TokenKeyId.codec]
    (fun
      | .info value => ⟨0, _, value, rfl, rfl⟩
      | .log value => ⟨1, _, value, rfl, rfl⟩
      | .host value => ⟨2, _, value, rfl, rfl⟩
      | .environmentCount value => ⟨3, _, value, rfl, rfl⟩
      | .environmentInfo value => ⟨4, _, value, rfl, rfl⟩
      | .settingGet key setting => ⟨5, _, (key, setting), rfl, rfl⟩
      | .settingSet value => ⟨6, _, value, rfl, rfl⟩
      | .settingDelete value => ⟨7, _, value, rfl, rfl⟩
      | .settingReset => ⟨8, _, (), rfl, rfl⟩
      | .tokenGenerateStart => ⟨9, _, (), rfl, rfl⟩
      | .tokenGenerateApproval value => ⟨10, _, value, rfl, rfl⟩
      | .tokenGenerated value => ⟨11, _, value, rfl, rfl⟩
      | .tokenRevoked value => ⟨12, _, value, rfl, rfl⟩)
    (by decide)

def EnvironmentCommand.codec : Codec EnvironmentCommand :=
  .enum
    [.unit .info, .pair .display Configuration.codec Flux.codec, .unit .runtimeCount,
      .newtype .runtimeInfo Codec.u32, .unit .fixtureCount, .newtype .fixtureInfo Codec.u32]
    (fun
      | .info => ⟨0, _, (), rfl, rfl⟩
      | .display configuration flux => ⟨1, _, (configuration, flux), rfl, rfl⟩
      | .runtimeCount => ⟨2, _, (), rfl, rfl⟩
      | .runtimeInfo value => ⟨3, _, value, rfl, rfl⟩
      | .fixtureCount => ⟨4, _, (), rfl, rfl⟩
      | .fixtureInfo value => ⟨5, _, value, rfl, rfl⟩)
    (by decide)

def EnvironmentEvent.codec : Codec EnvironmentEvent :=
  .enum
    [.newtype .info EnvironmentInfo.codec, .pair .display Configuration.codec Flux.codec,
      .newtype .runtimeCount Codec.u32, .newtype .runtimeInfo RuntimeInfo.codec,
      .newtype .fixtureCount Codec.u32, .pair .fixtureInfo FixtureInfo.codec Codec.u32]
    (fun
      | .info value => ⟨0, _, value, rfl, rfl⟩
      | .display configuration flux => ⟨1, _, (configuration, flux), rfl, rfl⟩
      | .runtimeCount value => ⟨2, _, value, rfl, rfl⟩
      | .runtimeInfo value => ⟨3, _, value, rfl, rfl⟩
      | .fixtureCount value => ⟨4, _, value, rfl, rfl⟩
      | .fixtureInfo fixture runtimeIndex => ⟨5, _, (fixture, runtimeIndex), rfl, rfl⟩)
    (by decide)

def Command.codec : Codec Command :=
  .enum
    [.unit .internal, .newtype .host HostCommand.codec, .newtype .runtime RuntimeCommand.codec,
      .newtype .environment EnvironmentCommand.codec, .newtype .fixture FixtureCommand.codec,
      .newtype .source SourceCommand.codec, .newtype .emitter EmitterCommand.codec]
    (fun
      | .internal => ⟨0, _, (), rfl, rfl⟩
      | .host value => ⟨1, _, value, rfl, rfl⟩
      | .runtime value => ⟨2, _, value, rfl, rfl⟩
      | .environment value => ⟨3, _, value, rfl, rfl⟩
      | .fixture value => ⟨4, _, value, rfl, rfl⟩
      | .source value => ⟨5, _, value, rfl, rfl⟩
      | .emitter value => ⟨6, _, value, rfl, rfl⟩)
    (by decide)

end Message

open Message

def CommandMessage.codec : Codec CommandMessage :=
  (Identifier.codec.pair
    (Identifier.codec.option.pair (Identifier.codec.option.pair Command.codec))).map
    (fun fields => ⟨fields.1, fields.2.1, fields.2.2.1, fields.2.2.2⟩)
    (fun value => (value.identifier, value.context, value.resource, value.command))
    (fun _ => rfl)

end Enody
