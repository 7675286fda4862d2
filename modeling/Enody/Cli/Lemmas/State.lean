import Enody.Cli.Impl.Commands
import Enody.Remote.Tree

/-!
This module contains what the `state` command writes: exactly the tree of each host with the states of its
sources, or nothing and the error of the first call that fails.
-/

namespace Enody
namespace Cli

open Message Remote Enody.Runtime Fallible

section Dump

variable {σ : Type} {devices : Devices σ} {inv : σ → Prop} {trees : Nat → HostTree}
  {states : Nat → Identifier → SourceState} {runtime : Nat}

def ReportsStates (devices : Devices σ) (inv : σ → Prop) (trees : Nat → HostTree)
    (states : Nat → Identifier → SourceState)
    : Prop :=
  ∀ s ask reply (source : SourceTree), inv s → (devices s ask).1 = .ok reply → ask.command = .source .state →
    source ∈ (trees ask.runtime).sources → ask.resource = some source.info.identifier →
      reply.resource = ask.resource
        ∧ reply.event = .source (.state (states ask.runtime source.info.identifier))

theorem HostTree.serve_reportsStates (trees : Nat → HostTree) (states : Nat → Identifier → SourceState)
    : ReportsStates (HostTree.serve trees states (σ := σ)) (fun _ => True) trees states := by
  intro s ask reply source _ hReply hCommand hSource hResource
  have hFound : (trees ask.runtime).source? ask.resource = some source := by
    rw [hResource]
    exact (trees ask.runtime).source?_of_mem hSource
  simp only [HostTree.serve, HostTree.event?, hCommand, hFound, Option.map_some] at hReply
  cases hReply
  exact ⟨rfl, rfl⟩

def dumpSource (states : Nat → Identifier → SourceState) (runtime : Nat) (source : SourceTree)
    : SourceStateEntry :=
  ⟨source.info.identifier, states runtime source.info.identifier⟩

def dumpFixture (states : Nat → Identifier → SourceState) (runtime : Nat) (fixture : FixtureTree)
    : FixtureSourceStateDump :=
  ⟨fixture.info.identifier, fixture.sources.map (dumpSource states runtime)⟩

/-
What `state` should write for a host.
-/
def dumpHost (trees : Nat → HostTree) (states : Nat → Identifier → SourceState) (runtime : Nat)
    : HostSourceStateDump :=
  let tree := trees runtime
  ⟨tree.info.identifier, tree.info.version.toString, tree.fixtures.map (dumpFixture states runtime)⟩

theorem yields_state (h : Truthful devices inv trees) (hStates : ReportsStates devices inv trees states)
    {source : SourceTree} (hSource : source ∈ (trees runtime).sources)
    : Yields devices inv (RemoteSource.state ⟨source.info, runtime⟩)
        (states runtime source.info.identifier) := by
  unfold RemoteSource.state
  apply yields_session
  . intro s hInv
    exact h.keeps s _ hInv rfl
  . intro s reply hInv hReply
    rcases hStates s _ reply source hInv hReply rfl hSource rfl with ⟨hResource, hEvent⟩
    apply Exchange.result_of_answer fun _ => hResource
    simp only [Source.state, hEvent]
    rfl

theorem yields_dumpFixture (h : Truthful devices inv trees)
    (hStates : ReportsStates devices inv trees states) {fixture : FixtureTree}
    (hFixture : fixture ∈ (trees runtime).fixtures)
    : Yields devices inv
        (do
          let sources ← RemoteFixture.sources ⟨fixture.info, runtime⟩
          let sourceOutputs ← sources.mapM fun source => do
            let state ← source.state
            return (⟨source.info.identifier, state⟩ : SourceStateEntry)
          return (⟨fixture.info.identifier, sourceOutputs⟩ : FixtureSourceStateDump))
        (dumpFixture states runtime fixture) := by
  apply Yields.bind (h.yields_sources hFixture)
  refine Yields.bind (a := fixture.sources.map (dumpSource states runtime)) ?_ (.pure _)
  apply Yields.mapM
  rw [List.forall₂_map_left_iff, List.forall₂_map_right_iff, List.forall₂_same]
  intro source hSource
  exact Yields.bind (yields_state h hStates ((trees runtime).mem_sources hFixture hSource)) (.pure _)

theorem yields_stateDevices (h : Truthful devices inv trees)
    (hStates : ReportsStates devices inv trees states) (runtimes : List Nat)
    : Yields devices inv (stateDevices runtimes) (runtimes.map (dumpHost trees states)) := by
  unfold stateDevices
  apply Yields.mapM
  rw [List.forall₂_map_right_iff, List.forall₂_same]
  intro runtime _
  apply Yields.bind h.yields_fromRuntime
  apply Yields.bind h.yields_fixtures
  refine Yields.bind (a := (trees runtime).fixtures.map (dumpFixture states runtime)) ?_ (.pure _)
  apply Yields.mapM
  rw [List.forall₂_map_left_iff, List.forall₂_map_right_iff, List.forall₂_same]
  intro fixture hFixture
  exact yields_dumpFixture h hStates hFixture

/--
The `state` command writes the tree of every host with the states of its sources, when no call fails. It ends at
the first call that fails, with its error.
-/
theorem stateDevices_exact (h : Truthful devices inv trees)
    (hStates : ReportsStates devices inv trees states) (runtimes : List Nat) {s : σ} (hInv : inv s)
    : ((stateDevices runtimes).run.run devices s).1 = .ok (runtimes.map (dumpHost trees states))
          ∧ Clean ((stateDevices runtimes).run.run devices.logged (s, [])).2.2
        ∨
      ∃ error, ((stateDevices runtimes).run.run devices s).1 = .error error
        ∧ FailedBy error ((stateDevices runtimes).run.run devices.logged (s, [])).2.2 :=
  (yields_stateDevices h hStates runtimes).of_run hInv

end Dump

/-
The state of a source is told apart by its flux.
-/
def sourceStates (_ : Nat) (source : Identifier) : SourceState := ⟨.manual, .relative (source.setWidth 32)⟩

theorem ReportsStates.unanswered {σ : Type} {devices : Devices σ} {inv : σ → Prop} {trees : Nat → HostTree}
    {states : Nat → Identifier → SourceState} (h : ReportsStates devices inv trees states) (silent : Ask → Bool)
    : ReportsStates (unanswered silent devices) inv trees states := by
  intro s ask reply source hInv hReply
  rw [answered_of_unanswered hReply] at hReply
  exact h s ask reply source hInv hReply

theorem twoFixtures_dumped
    : ((stateDevices [0]).run.run (HostTree.serve (fun _ => .twoFixtures) sourceStates) ()).1
          = .ok [dumpHost (fun _ => .twoFixtures) sourceStates 0]
        ∧
      FailedBy .timeout
        ((stateDevices [0]).run.run
          (unanswered (·.resource == some 31) (HostTree.serve (fun _ => .twoFixtures) sourceStates)).logged
          ((), [])).2.2 := by
  have hTruth := HostTree.serve_truthful (fun _ => .twoFixtures) sourceStates (σ := Unit)
  have hStates := HostTree.serve_reportsStates (fun _ => .twoFixtures) sourceStates (σ := Unit)
  constructor
  . rcases stateDevices_exact hTruth hStates [0] (s := ()) trivial with ⟨hOk, _⟩ | ⟨error, _, hFailed⟩
    . exact hOk
    . refine absurd (Clean.of_all ?_) hFailed.not_clean
      decide +kernel
  . have hExact := stateDevices_exact (hTruth.unanswered (·.resource == some 31))
      (hStates.unanswered (·.resource == some 31)) [0] (s := ()) trivial
    have hTimeout : ((stateDevices [0]).run.run
        (unanswered (·.resource == some 31) (HostTree.serve (fun _ => .twoFixtures) sourceStates)) ()).1
          = .error .timeout := rfl
    rw [hTimeout] at hExact
    rcases hExact with ⟨hOk, _⟩ | ⟨error, hError, hFailed⟩
    . contradiction
    . injection hError with hError
      exact hError ▸ hFailed

end Cli
end Enody
