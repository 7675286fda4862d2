import Enody.Cli.Impl.Spectral
import Enody.Cli.Lemmas.Scan
import Enody.Emitter.Lemmas.Conforming

/-!
This module contains what `download_spectral_data` writes. Whatever calls fail, the fixtures and sources that it
lists are some of those of the host, in their order, and each source has all of its emitters with exactly their
samples. When no call fails it has the whole host.
-/

namespace Enody

namespace Remote

open Message

def HostTree.HasEmitter (tree : HostTree) (emitterId : Identifier) : Prop :=
  ∃ source ∈ tree.sources, ∃ emitter ∈ source.emitters, emitter.identifier = emitterId

end Remote

namespace Cli

open Message Remote Enody.Runtime Fallible Emitter

section Download

variable {σ : Type} {devices : Devices σ} {trees : Nat → HostTree} {spectra : Nat → Identifier → SpectralData}
  {checks : Bool} {budget runtime : Nat}

structure ReportsSpectra (devices : Devices σ) (trees : Nat → HostTree)
    (spectra : Nat → Identifier → SpectralData)
    : Prop where
  count : ∀ s ask reply emitterId, (devices s ask).1 = .ok reply →
    ask.command = .emitter (.spectralData .sampleCount) → ask.resource = some emitterId →
    (trees ask.runtime).HasEmitter emitterId →
      sampleCount reply.event = some (.ofNat (spectra ask.runtime emitterId).samples.items.length)
  batch : ∀ s ask reply emitterId start stop, (devices s ask).1 = .ok reply →
    ask.command = .emitter (.spectralData (.sampleBatch start stop)) → ask.resource = some emitterId →
    (trees ask.runtime).HasEmitter emitterId →
    start ≤ stop → stop.toNat ≤ (spectra ask.runtime emitterId).samples.items.length →
    stop.toNat ≤ start.toNat + spectralSampleBatchSize →
      ∃ batch, sampleBatch reply.event = some batch
        ∧ batch.items
            = ((spectra ask.runtime emitterId).samples.items.take stop.toNat).drop start.toNat

theorem session_returned (checks : Bool) (remote : Nat) (emitterId : Identifier) (budget : Nat)
    (result : SpectralResult)
    : SpectralPhase.session checks remote emitterId budget (.returned result) = ofExcept result := by
  cases budget <;> rfl

theorem session_call {phase : SpectralPhase} {spectral : SpectralDataCommand} (checks : Bool) (remote : Nat)
    (emitterId : Identifier) (budget : Nat) (h : phase.command? = some spectral)
    : SpectralPhase.session checks remote emitterId (budget + 1) phase
        =
      (Fallible.ask (spectralAsk remote emitterId spectral) >>= fun result =>
        SpectralPhase.session checks remote emitterId budget (SpectralDownload.handle checks phase result)) := by
  unfold SpectralPhase.command? at h
  split at h
  . injection h with h
    subst h
    rfl
  . injection h with h
    subst h
    rfl
  . contradiction
  . contradiction

theorem spectralData_eq {data other : SpectralData} (h : data.samples.items = other.samples.items)
    : data = other := by
  rcases data with ⟨⟨items, _⟩⟩
  rcases other with ⟨⟨items', _⟩⟩
  simp only at h
  subst h
  rfl

theorem next_of_lt (checks : Bool) {count offset : UInt32} (samples : HVec SpectralSample defaultSampleCount)
    (hLt : offset < count) (hFew : count.toNat ≤ defaultSampleCount)
    : ∃ stop, SpectralPhase.next checks count offset samples = .collecting count offset stop samples
        ∧ stop.toNat = min count.toNat (offset.toNat + 32) := by
  have hBelow := UInt32.lt_iff_toNat_lt.mp hLt
  unfold defaultSampleCount at hFew
  have hSum : addU32 checks offset (UInt32.ofNat spectralSampleBatchSize) = some (offset + 32) := by
    unfold addU32 spectralSampleBatchSize
    rw [if_neg]
    . rfl
    . have hSize : (UInt32.ofNat 32).toNat = 32 := rfl
      rw [hSize, Bool.and_eq_true, decide_eq_true_eq]
      omega
  refine ⟨min count (offset + 32), ?_, ?_⟩
  . unfold SpectralPhase.next
    rw [if_pos hLt, hSum]
  . rw [toNat_min, UInt32.toNat_add]
    have hSize : (32 : UInt32).toNat = 32 := rfl
    rw [hSize, Nat.mod_eq_of_lt]
    omega

theorem collect_of_batch {samples : HVec SpectralSample defaultSampleCount} {items : List SpectralSample}
    {start stop : Nat} {reply : EventMessage .std} {batch : HVec SpectralSample spectralSampleBatchSize}
    (hFits : items.length ≤ defaultSampleCount) (hSamples : samples.items = items.take start)
    (hOrder : start ≤ stop) (hBatch : sampleBatch reply.event = some batch)
    (hItems : batch.items = (items.take stop).drop start)
    : ∃ all, SpectralDownload.collect samples (.ok reply) = .ok all ∧ all.items = items.take stop := by
  have hReply : samplesOf (.ok reply) = some batch.items := by simp [samplesOf, hBatch]
  have hAll : samples.items ++ batch.items = items.take stop := by
    have hStart : samples.items = (items.take stop).take start := by
      rw [hSamples, List.take_take, Nat.min_eq_left hOrder]
    rw [hStart, hItems, List.take_append_drop]
  rcases collect_spec samples (.ok reply)
    with ⟨more, all, hMore, hCollect, hSame⟩ | ⟨error, _, hNone | ⟨more, hMore, _, hTooMany⟩⟩
  . rw [hReply] at hMore
    injection hMore with hMore
    exact ⟨all, hCollect, by rw [hSame, ← hMore, hAll]⟩
  . rw [hReply] at hNone
    contradiction
  . rw [hReply] at hMore
    injection hMore with hMore
    rw [← hMore, ← List.length_append, hAll, List.length_take] at hTooMany
    omega

theorem yields_end {emitterId : Identifier} {count offset : UInt32}
    {samples : HVec SpectralSample defaultSampleCount}
    (hCount : count.toNat = (spectra runtime emitterId).samples.items.length)
    (hSamples : samples.items = (spectra runtime emitterId).samples.items.take offset.toNat)
    (hEnd : ¬ offset < count)
    : Yields devices (fun _ => True)
        (SpectralPhase.session checks runtime emitterId budget (.next checks count offset samples))
        (spectra runtime emitterId) := by
  have hAll : (⟨samples⟩ : SpectralData) = spectra runtime emitterId := by
    apply spectralData_eq
    rw [UInt32.lt_iff_toNat_lt] at hEnd
    rw [hSamples, List.take_of_length_le]
    omega
  unfold SpectralPhase.next
  rw [if_neg hEnd, session_returned, hAll]
  exact .pure _

/-
The induction is on the budget: each batch takes a call and 32 samples, if so many are left.
-/
theorem yields_next (h : ReportsSpectra devices trees spectra) {emitterId : Identifier}
    (hEmitter : (trees runtime).HasEmitter emitterId) {count offset : UInt32}
    {samples : HVec SpectralSample defaultSampleCount}
    (hCount : count.toNat = (spectra runtime emitterId).samples.items.length)
    (hSamples : samples.items = (spectra runtime emitterId).samples.items.take offset.toNat)
    (hBudget : count.toNat ≤ offset.toNat + 32 * budget)
    : Yields devices (fun _ => True)
        (SpectralPhase.session checks runtime emitterId budget (.next checks count offset samples))
        (spectra runtime emitterId) := by
  have hFits := (spectra runtime emitterId).samples.fits
  induction budget generalizing offset samples with
  | zero =>
    apply yields_end hCount hSamples
    rw [UInt32.lt_iff_toNat_lt]
    omega
  | succ budget ih =>
    by_cases hLt : offset < count
    . rcases next_of_lt checks samples hLt (by omega) with ⟨stop, hNext, hStop⟩
      rw [hNext, session_call checks runtime emitterId budget rfl]
      refine Yields.ask_bind (fun _ _ => trivial) ?_
        fun error => session_returned checks runtime emitterId budget (.error error)
      intro s reply _ hReply
      rw [UInt32.lt_iff_toNat_lt] at hLt
      have hOrder : offset.toNat ≤ stop.toNat := by omega
      have hWithin : stop.toNat ≤ (spectra runtime emitterId).samples.items.length := by omega
      have hSize : stop.toNat ≤ offset.toNat + spectralSampleBatchSize := by
        unfold spectralSampleBatchSize
        omega
      rcases h.batch s _ reply emitterId offset stop hReply rfl rfl hEmitter
        (UInt32.le_iff_toNat_le.mpr hOrder) hWithin hSize with ⟨batch, hBatch, hItems⟩
      rcases collect_of_batch hFits hSamples hOrder hBatch hItems with ⟨all, hCollect, hAll⟩
      have hHandle : SpectralDownload.handle checks (.collecting count offset stop samples) (.ok reply)
          = .next checks count stop all := by
        unfold SpectralDownload.handle
        simp only [hCollect]
      rw [hHandle]
      apply ih hAll
      omega
    . exact yields_end hCount hSamples hLt

theorem yields_spectralData (h : ReportsSpectra devices trees spectra) {emitter : EmitterInfo}
    (hEmitter : (trees runtime).HasEmitter emitter.identifier) (hBudget : 14 ≤ budget)
    : Yields devices (fun _ => True) (RemoteEmitter.spectralData checks budget ⟨emitter, runtime⟩)
        (spectra runtime emitter.identifier) := by
  rcases Nat.exists_eq_add_of_le' hBudget with ⟨more, hMore⟩
  have hFits := (spectra runtime emitter.identifier).samples.fits
  unfold defaultSampleCount at hFits
  subst hMore
  unfold RemoteEmitter.spectralData
  rw [session_call checks runtime emitter.identifier (more + 13) rfl]
  refine Yields.ask_bind (fun _ _ => trivial) ?_
    fun error => session_returned checks runtime emitter.identifier _ (.error error)
  intro s reply _ hReply
  have hCount : sampleCount reply.event
      = some (.ofNat (spectra runtime emitter.identifier).samples.items.length) :=
    h.count s _ reply emitter.identifier hReply rfl rfl hEmitter
  have hHandle : SpectralDownload.handle checks .counting (.ok reply)
      = .next checks (.ofNat (spectra runtime emitter.identifier).samples.items.length) 0 ⟨[], Nat.zero_le _⟩ := by
    unfold SpectralDownload.handle
    simp only [hCount]
  have hLength : (UInt32.ofNat (spectra runtime emitter.identifier).samples.items.length).toNat
      = (spectra runtime emitter.identifier).samples.items.length := by
    rw [UInt32.toNat_ofNat', Nat.mod_eq_of_lt]
    omega
  rw [hHandle]
  have hEnough : (spectra runtime emitter.identifier).samples.items.length ≤ 32 * (more + 13) := by omega
  refine yields_next h hEmitter hLength rfl ?_
  rw [hLength]
  exact Nat.le_trans hEnough (Nat.le_add_left _ _)

def emitterSpectrum (spectra : Nat → Identifier → SpectralData) (runtime : Nat) (emitter : EmitterInfo)
    : EmitterSpectralData :=
  ⟨emitter.identifier, spectra runtime emitter.identifier⟩

def sourceSpectrum (spectra : Nat → Identifier → SpectralData) (runtime : Nat) (source : SourceTree)
    : SourceSpectralData :=
  ⟨source.info.identifier, source.emitters.map (emitterSpectrum spectra runtime)⟩

def fixtureSpectrum (spectra : Nat → Identifier → SpectralData) (runtime : Nat) (fixture : FixtureTree)
    : FixtureSpectralData :=
  ⟨fixture.info.identifier, fixture.sources.map (sourceSpectrum spectra runtime)⟩

def hostSpectrum (trees : Nat → HostTree) (spectra : Nat → Identifier → SpectralData) (runtime : Nat)
    : HostSpectralData :=
  ⟨(trees runtime).info, (trees runtime).fixtures.map (fixtureSpectrum spectra runtime)⟩

theorem yields_emitterOutputs (h : ReportsSpectra devices trees spectra) {source : SourceTree}
    (hSource : source ∈ (trees runtime).sources) (hBudget : 14 ≤ budget)
    : Yields devices (fun _ => True)
        ((source.emitters.map (⟨·, runtime⟩ : EmitterInfo → RemoteEmitter)).mapM (emitterOutput checks budget))
        (source.emitters.map (emitterSpectrum spectra runtime)) := by
  apply Yields.mapM
  rw [List.forall₂_map_left_iff, List.forall₂_map_right_iff, List.forall₂_same]
  intro emitter hEmitter
  unfold emitterOutput
  exact Yields.bind (yields_spectralData h ⟨source, hSource, emitter, hEmitter, rfl⟩ hBudget) (.pure _)

section Complete

theorem yields_sourceOutputs (hTruth : Truthful devices (fun _ => True) trees)
    (h : ReportsSpectra devices trees spectra)
    {source : SourceTree} (hSource : source ∈ (trees runtime).sources) (hBudget : 14 ≤ budget)
    (outputs : List SourceSpectralData)
    : YieldsIfClean devices (sourceOutputs checks budget outputs ⟨source.info, runtime⟩)
        (outputs ++ [sourceSpectrum spectra runtime source]) := by
  unfold sourceOutputs
  apply YieldsIfClean.bind (YieldsIfClean.of_yields (hTruth.yields_emitters hSource)).handled
  exact YieldsIfClean.bind (YieldsIfClean.of_yields (yields_emitterOutputs h hSource hBudget)) (.pure _)

theorem yields_fixtureOutputs (hTruth : Truthful devices (fun _ => True) trees)
    (h : ReportsSpectra devices trees spectra) {fixture : FixtureTree} (hFixture : fixture ∈ (trees runtime).fixtures)
    (hBudget : 14 ≤ budget) (outputs : List FixtureSpectralData)
    : YieldsIfClean devices (fixtureOutputs checks budget outputs ⟨fixture.info, runtime⟩)
        (outputs ++ [fixtureSpectrum spectra runtime fixture]) := by
  unfold fixtureOutputs
  apply YieldsIfClean.bind (YieldsIfClean.of_yields (hTruth.yields_sources hFixture)).handled
  refine YieldsIfClean.bind (a := fixture.sources.map (sourceSpectrum spectra runtime)) ?_ (.pure _)
  rw [List.foldlM_map, ← List.flatMap_pure_eq_map]
  refine YieldsIfClean.foldlM_append fixture.sources (fun outputs source hSource => ?_) []
  exact yields_sourceOutputs hTruth h ((trees runtime).mem_sources hFixture hSource) hBudget outputs

theorem yields_downloadSpectralData (hTruth : Truthful devices (fun _ => True) trees)
    (h : ReportsSpectra devices trees spectra) (hBudget : 14 ≤ budget) (outputPath : String) (runtimes : List Nat)
    : YieldsIfClean devices (downloadSpectralData checks budget outputPath false runtimes)
        (runtimes.head?.map (hostSpectrum trees spectra)) := by
  cases runtimes with
  | nil => exact .pure _
  | cons runtime rest =>
    have hHost : Yields devices (fun _ => True) (RemoteHost.fromRuntime runtime) _ := hTruth.yields_fromRuntime
    apply YieldsIfClean.bind (YieldsIfClean.of_yields hHost).handled
    apply YieldsIfClean.bind (YieldsIfClean.of_yields hTruth.yields_fixtures).handled
    refine YieldsIfClean.bind (a := (trees runtime).fixtures.map (fixtureSpectrum spectra runtime)) ?_ (.pure _)
    rw [List.foldlM_map, ← List.flatMap_pure_eq_map]
    refine YieldsIfClean.foldlM_append (trees runtime).fixtures (fun outputs fixture hFixture => ?_) []
    exact yields_fixtureOutputs hTruth h hFixture hBudget outputs

end Complete

section Pruned

structure PrunedFixture (spectra : Nat → Identifier → SpectralData) (runtime : Nat) (output : FixtureSpectralData)
    (fixture : FixtureTree)
    : Prop where
  identifier : output.identifier = fixture.info.identifier
  sources : output.sources.SublistForall₂ (fun output source => output = sourceSpectrum spectra runtime source)
    fixture.sources

structure PrunedHost (trees : Nat → HostTree) (spectra : Nat → Identifier → SpectralData) (runtime : Nat)
    (output : HostSpectralData)
    : Prop where
  host : output.host = (trees runtime).info
  fixtures : output.fixtures.SublistForall₂ (PrunedFixture spectra runtime) (trees runtime).fixtures

theorem returns_sourceOutputs (checks : Bool) (hTruth : Truthful devices (fun _ => True) trees)
    (h : ReportsSpectra devices trees spectra) {source : SourceTree} (hSource : source ∈ (trees runtime).sources)
    (hBudget : 14 ≤ budget) (outputs : List SourceSpectralData)
    : Returns devices (fun _ => True) (sourceOutputs checks budget outputs ⟨source.info, runtime⟩)
        fun outputs' => outputs' = outputs
          ∨ ∃ output, output = sourceSpectrum spectra runtime source ∧ outputs' = outputs ++ [output] := by
  unfold sourceOutputs
  apply Returns.bind (Returns.of_yields (hTruth.yields_emitters hSource)).handled
  intro result hEmitters
  cases result with
  | error error => exact .pure (.inl rfl)
  | ok emitters =>
    have hSame := hEmitters emitters rfl
    subst hSame
    apply Returns.bind (Returns.of_yields (yields_emitterOutputs h hSource hBudget))
    intro emitterOutputs hOutputs
    rw [hOutputs]
    exact .pure (.inr ⟨_, rfl, rfl⟩)

theorem returns_fixtureOutputs (checks : Bool) (hTruth : Truthful devices (fun _ => True) trees)
    (h : ReportsSpectra devices trees spectra) {fixture : FixtureTree} (hFixture : fixture ∈ (trees runtime).fixtures)
    (hBudget : 14 ≤ budget) (outputs : List FixtureSpectralData)
    : Returns devices (fun _ => True) (fixtureOutputs checks budget outputs ⟨fixture.info, runtime⟩)
        fun outputs' => outputs' = outputs
          ∨ ∃ output, PrunedFixture spectra runtime output fixture ∧ outputs' = outputs ++ [output] := by
  unfold fixtureOutputs
  apply Returns.bind (Returns.of_yields (hTruth.yields_sources hFixture)).handled
  intro result hSources
  cases result with
  | error error => exact .pure (.inl rfl)
  | ok sources =>
    have hSame := hSources sources rfl
    subst hSame
    simp only
    rw [List.foldlM_map]
    have hLoop := Returns.foldlM_pruned fixture.sources fun outputs source hSource =>
      returns_sourceOutputs checks hTruth h ((trees runtime).mem_sources hFixture hSource) hBudget outputs
    apply Returns.bind hLoop
    intro sourceOutputs hPruned
    exact .pure (.inr ⟨_, ⟨rfl, hPruned⟩, rfl⟩)

theorem returns_downloadSpectralData (hTruth : Truthful devices (fun _ => True) trees)
    (h : ReportsSpectra devices trees spectra) (hBudget : 14 ≤ budget) (outputPath : String) (runtimes : List Nat)
    : Returns devices (fun _ => True) (downloadSpectralData checks budget outputPath false runtimes)
        fun result => ∀ output, result = some output →
          ∃ runtime, runtimes.head? = some runtime ∧ PrunedHost trees spectra runtime output := by
  cases runtimes with
  | nil => exact .pure fun output hOutput => by contradiction
  | cons runtime rest =>
    have hHost : Yields devices (fun _ => True) (RemoteHost.fromRuntime runtime) _ := hTruth.yields_fromRuntime
    apply Returns.bind (Returns.of_yields hHost).handled
    intro result hHost
    cases result with
    | error error => exact .pure fun output hOutput => by contradiction
    | ok host =>
      have hSame := hHost host rfl
      subst hSame
      apply Returns.bind (Returns.of_yields hTruth.yields_fixtures).handled
      intro result hFixtures
      cases result with
      | error error => exact .pure fun output hOutput => by contradiction
      | ok fixtures =>
        have hSame := hFixtures fixtures rfl
        subst hSame
        simp only
        rw [List.foldlM_map]
        have hLoop := Returns.foldlM_pruned (trees runtime).fixtures fun outputs fixture hFixture =>
          returns_fixtureOutputs checks hTruth h hFixture hBudget outputs
        apply Returns.bind hLoop
        intro outputs hPruned
        apply Returns.pure
        intro output hOutput
        injection hOutput with hOutput
        subst hOutput
        exact ⟨runtime, rfl, rfl, hPruned⟩

end Pruned

/--
When the output file is there already, the command fails without a call. Otherwise, however the calls end: what is
written lists fixtures and sources of the first host in their order, and each source that is listed has all of its
emitters with exactly their samples. Until it writes, the command fails only with the error of a call, and when no
call fails it writes the whole host.
-/
theorem downloadSpectralData_exact (hTruth : Truthful devices (fun _ => True) trees)
    (h : ReportsSpectra devices trees spectra) (hBudget : 14 ≤ budget) (outputPath : String) (runtimes : List Nat)
    (s : σ)
    : (downloadSpectralData checks budget outputPath true runtimes).run.run devices.logged (s, [])
          = (.error (.debugText s!"Output file already exists: {outputPath}"), s, [])
        ∧
      (∀ output,
        ((downloadSpectralData checks budget outputPath false runtimes).run.run devices s).1 = .ok (some output) →
          ∃ runtime, runtimes.head? = some runtime ∧ PrunedHost trees spectra runtime output)
        ∧
      (∀ error,
        ((downloadSpectralData checks budget outputPath false runtimes).run.run devices s).1 = .error error →
          ∃ request, ⟨request, .error error⟩
            ∈ ((downloadSpectralData checks budget outputPath false runtimes).run.run devices.logged (s, [])).2.2)
        ∧
      (Clean ((downloadSpectralData checks budget outputPath false runtimes).run.run devices.logged (s, [])).2.2 →
        ((downloadSpectralData checks budget outputPath false runtimes).run.run devices s).1
          = .ok (runtimes.head?.map (hostSpectrum trees spectra))) := by
  rcases (returns_downloadSpectralData hTruth h hBudget outputPath runtimes).of_run (s := s) trivial
    with ⟨hOk, hError⟩
  refine ⟨rfl, fun output hRun => hOk _ hRun output rfl, hError, fun hClean => ?_⟩
  exact (yields_downloadSpectralData hTruth h hBudget outputPath runtimes).of_run hClean

end Download

def spectralDevices {σ : Type} (trees : Nat → HostTree) (spectra : Nat → Identifier → SpectralData)
    : Devices σ :=
  fun s ask =>
    match ask.command, ask.resource with
    | .emitter (.spectralData spectral), some emitterId =>
      let event := ConformingDevice.eventOf (spectra ask.runtime emitterId).samples.items
        (.root 0 (.emitter (.spectralData spectral)) ask.resource)
      (.ok ⟨0, none, ask.resource, event⟩, s)
    | _, _ => HostTree.serve trees (fun _ _ => ⟨.manual, .relative 0⟩) s ask

theorem spectralDevices_truthful {σ : Type} (trees : Nat → HostTree) (spectra : Nat → Identifier → SpectralData)
    : Truthful (spectralDevices trees spectra : Devices σ) (fun _ => True) trees where
  keeps _ _ _ _ := trivial
  answers s ask reply _ hReply := by
    unfold spectralDevices at hReply
    split at hReply
    . next spectral emitterId hCommand _ =>
      unfold HostTree.Answers
      rw [hCommand]
      trivial
    . exact (HostTree.serve_truthful trees _).answers s ask reply trivial hReply

theorem spectralDevices_reports {σ : Type} (trees : Nat → HostTree) (spectra : Nat → Identifier → SpectralData)
    : ReportsSpectra (spectralDevices trees spectra : Devices σ) trees spectra where
  count s ask reply emitterId hReply hCommand hResource _ := by
    simp only [spectralDevices, hCommand, hResource] at hReply
    injection hReply with hReply
    subst hReply
    rfl
  batch s ask reply emitterId start stop hReply hCommand hResource _ _ hWithin hSize := by
    simp only [spectralDevices, hCommand, hResource] at hReply
    injection hReply with hReply
    subst hReply
    have hFits : (((spectra ask.runtime emitterId).samples.items.take stop.toNat).drop start.toNat).length
        ≤ spectralSampleBatchSize := by
      rw [List.length_drop, List.length_take]
      omega
    refine ⟨⟨_, hFits⟩, ?_, rfl⟩
    simp only [ConformingDevice.eventOf, CommandMessage.root, HVec.fromSlice, hFits, dif_pos, sampleBatch]

def oneSample (_ : Nat) (emitterId : Identifier) : SpectralData where
  samples := ⟨[⟨emitterId.setWidth 32, 0⟩], Nat.le_add_left 1 400⟩

theorem ReportsSpectra.unanswered {σ : Type} {devices : Devices σ} {trees : Nat → HostTree}
    {spectra : Nat → Identifier → SpectralData} (h : ReportsSpectra devices trees spectra) (silent : Ask → Bool)
    : ReportsSpectra (unanswered silent devices) trees spectra where
  count s ask reply emitterId hReply := by
    rw [answered_of_unanswered hReply] at hReply
    exact h.count s ask reply emitterId hReply
  batch s ask reply emitterId start stop hReply := by
    rw [answered_of_unanswered hReply] at hReply
    exact h.batch s ask reply emitterId start stop hReply

theorem twoFixtures_downloaded
    : ((downloadSpectralData true 14 "spectra.json" false [0]).run.run
          (spectralDevices (fun _ => .twoFixtures) oneSample) ()).1
          = .ok (some (hostSpectrum (fun _ => .twoFixtures) oneSample 0))
        ∧
      ∃ request, ⟨request, .error .timeout⟩ ∈ ((downloadSpectralData true 14 "spectra.json" false [0]).run.run
        (unanswered (·.resource == some 42) (spectralDevices (fun _ => .twoFixtures) oneSample)).logged
        ((), [])).2.2 := by
  have hTruth := spectralDevices_truthful (fun _ => .twoFixtures) oneSample (σ := Unit)
  have hReports := spectralDevices_reports (fun _ => .twoFixtures) oneSample (σ := Unit)
  constructor
  . refine (downloadSpectralData_exact hTruth hReports (Nat.le_refl 14) "spectra.json" [0] ()).2.2.2 ?_
    apply Clean.of_all
    decide +kernel
  . refine (downloadSpectralData_exact (hTruth.unanswered (·.resource == some 42))
      (hReports.unanswered (·.resource == some 42)) (Nat.le_refl 14) "spectra.json" [0] ()).2.2.1 .timeout ?_
    rfl

end Cli
end Enody
